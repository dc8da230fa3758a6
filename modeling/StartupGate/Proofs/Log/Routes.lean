import StartupGate.Proofs.Log.Setup
/-!
# Where messages are written

A message passes three gates on its way to a stream: the level that counts for its logger, the range
of each handler, and the loggers above. A logger that was set up hands nothing on
(`Loggers.handlers_of_installed`), and a level of its own counts for it
(`Loggers.effectiveLevel_of_one_le`), so that its routes are told by its level and the request that
put up its handlers (`Loggers.route_of_installed`).

With a level of one or more each message that the logger lets through is due at one stream,
`Request.due`. On a terminal the two handlers leave two gaps, below the level of debugging and
between the levels of information and of warnings, and what falls into one is not written at all.
The main statement, `Loggers.written_once_unless_lost`, says that nothing else is lost.
-/

namespace StartupGate.Log

/-! ## Handlers -/

namespace Request

/-- The streams that the handlers of a first setup write messages of level `n` to. -/
def sinks (r : Request) (level n : Int) : List Sink :=
  if r.allToError then if level ≤ n then [.error] else []
  else if Severity.debug.level ≤ n ∧ n ≤ Level.info then [.output]
  else if Level.warning ≤ n then [.error]
  else []

theorem sinks_handlers (r : Request) (level : Level) (n : Int) :
    ((r.handlers level).filter (·.writes n)).map (·.sink) = r.sinks level.value n := by
  unfold handlers sinks
  split
  · -- One handler writes everything from the level on.
    rw [List.filter_cons, Handler.writes_toError, List.filter_nil]
    by_cases hn : level.value ≤ n
    · rw [decide_eq_true hn, if_pos hn]
      rfl
    · rw [decide_eq_false hn, if_neg hn]
      rfl
  · have hvalue : (Level.number Level.warning).value = Level.warning := rfl
    rw [List.filter_cons, List.filter_cons, Handler.writes_toOutput, Handler.writes_toError,
      List.filter_nil, hvalue]
    by_cases houtput : Severity.debug.level ≤ n ∧ n ≤ Level.info
    · -- The two handlers have no level in common.
      have hapart : Level.info < Level.warning := by decide
      have herror : ¬ Level.warning ≤ n := by omega
      rw [decide_eq_true houtput, decide_eq_false herror, if_pos houtput]
      rfl
    · rw [decide_eq_false houtput, if_neg houtput]
      by_cases herror : Level.warning ≤ n
      · rw [decide_eq_true herror, if_pos herror]
        rfl
      · rw [decide_eq_false herror, if_neg herror]
        rfl

end Request

namespace Loggers

variable {ls : Loggers} {name : String} {r : Request} {level : Level} {hs : List Handler}

/-- Messages of a logger that was set up come to its own handlers only. -/
theorem handlers_of_installed (h : ls.Installed name hs) : ls.handlers name = hs := by
  rw [handlers, lineage, handlersAlong, h.handlers_eq, h.not_propagates]
  simp

/-- A level of one or more counts, whatever the loggers above have. -/
theorem effectiveLevel_of_one_le (h : 1 ≤ (ls.logger name).level.value) :
    ls.effectiveLevel name = (ls.logger name).level.value := by
  have hne : (ls.logger name).level.value ≠ 0 := by omega
  rw [effectiveLevel, lineage, List.map_cons, List.find?_cons_of_pos (by simpa using hne)]
  rfl

/-- A logger with handlers of its own writes a message that it lets through to those of its handlers
that write its level. -/
theorem route_of_installed (h : ls.Installed name (r.handlers level)) (n : Int) :
    ls.route name n = if ls.lets name n then r.sinks level.value n else [] := by
  unfold route
  rw [handlers_of_installed h]
  split
  · rw [← r.sinks_handlers level n]
    cases hhs : r.handlers level with
    | nil => exact absurd hhs (handlers_ne_nil r level)
    | cons first rest => rfl
  · rfl

/-- A logger with a level of one or more lets the messages from that level on through. -/
theorem lets_of_one_le (h : 1 ≤ (ls.logger name).level.value) (n : Int) :
    ls.lets name n = decide ((ls.logger name).level.value ≤ n) := by
  rw [lets, effectiveLevel_of_one_le h]
  by_cases hn : (ls.logger name).level.value ≤ n
  · have hoff : offLevel < n := by
      unfold offLevel
      omega
    simp [hn, hoff]
  · simp [hn]

/-- The level that was set last and the handlers that were put up first tell each route. -/
theorem route_of_one_le (h : ls.Installed name (r.handlers level))
    (hone : 1 ≤ (ls.logger name).level.value) (n : Int) :
    ls.route name n
      = if (ls.logger name).level.value ≤ n then r.sinks level.value n else [] := by
  rw [route_of_installed h, lets_of_one_le hone]
  simp only [decide_eq_true_eq]

end Loggers

/-! ## Lost messages -/

namespace Request

/-- Where a message of level `n` is due: at one stream if the level reaches that of the logger. On a
terminal messages up to the level of information go to the standard output. -/
def due (r : Request) (level n : Int) : List Sink :=
  if n < level then []
  else if r.allToError = false ∧ n ≤ Level.info then [.output]
  else [.error]

/-- A message of level `n` falls into one of the two gaps between the handlers for a terminal. -/
structure Loses (r : Request) (level n : Int) : Prop where
  on_terminal : r.allToError = false
  reached : level ≤ n
  gap : n < Severity.debug.level ∨ Level.info < n ∧ n < Level.warning

variable {r : Request} {level n : Int}

theorem due_ne_nil (h : level ≤ n) : r.due level n ≠ [] := by
  unfold due
  rw [if_neg (by omega)]
  split <;> simp

theorem sinks_of_loses (h : r.Loses level n) : r.sinks level n = [] := by
  obtain ⟨hterminal, -, hgap⟩ := h
  have hlevels : Severity.debug.level ≤ Level.info ∧ Level.info < Level.warning := by decide
  rw [sinks, hterminal, if_neg (by simp), if_neg (by omega), if_neg (by omega)]

/-- What falls into neither gap is written where it is due, also by handlers that were put up for
another level, unless that level keeps it from the standard error. -/
theorem sinks_of_not_loses {least : Int} (hn : level ≤ n)
    (hleast : r.allToError = false ∨ least ≤ n) (h : ¬ r.Loses level n) :
    r.sinks least n = r.due level n := by
  rw [sinks, due, if_neg (by omega : ¬ n < level)]
  cases hall : r.allToError with
  | true =>
    have hleast' : least ≤ n := hleast.resolve_left (by simp [hall])
    simp [hleast']
  | false =>
    have hgap : ¬ (n < Severity.debug.level ∨ Level.info < n ∧ n < Level.warning) :=
      fun hgap => h ⟨hall, hn, hgap⟩
    by_cases hinfo : n ≤ Level.info
    · have hdebug : Severity.debug.level ≤ n := by omega
      simp [hinfo, hdebug]
    · have hwarning : Level.warning ≤ n := by omega
      simp [hinfo, hwarning]

end Request

namespace Loggers

/-- **Each message is written once, unless it is lost.** The logger has no handlers before it is set
up, for the first time, with a level of one or more, which may be given as a number or by its name.

A message is written nowhere if it is below the level, and else at one stream: the standard output
for a message up to the level of information on a terminal, the standard error otherwise. This holds
except for the messages that `Request.Loses` names, and those are not written at all. -/
theorem written_once_unless_lost {ls : Loggers} {name : String} {r : Request} {level : Level}
    (hbare : (ls.logger name).handlers = []) (hlevel : Level.of? r.level = .ok level)
    (hone : 1 ≤ level.value) :
    ∃ l ls', ls.setUp name r = .ok (l, ls') ∧
      ∀ n, (ls'.route name n = r.due level.value n ↔ ¬ r.Loses level.value n) ∧
        (r.Loses level.value n → ls'.route name n = []) := by
  have hset : Call.SetsUp ⟨name, r⟩ name level := ⟨rfl, hlevel⟩
  have hinstalled := installed_of_bare hbare hset
  have hown : ((ls.call ⟨name, r⟩).logger name).level = level := by
    rw [logger_call_of_setsUp ls hset]
    rfl
  refine ⟨_, _, setUp_eq_ok_call hlevel ls name, fun n => ?_⟩
  have hroute := route_of_one_le hinstalled (hown.symm ▸ hone) n
  rw [hown] at hroute
  have hlost : r.Loses level.value n → (ls.call ⟨name, r⟩).route name n = [] := by
    intro hloses
    rw [hroute, if_pos hloses.reached]
    exact r.sinks_of_loses hloses
  refine ⟨⟨fun hdue hloses => ?_, fun hkept => ?_⟩, hlost⟩
  · -- A lost message would have been due somewhere.
    rw [hlost hloses] at hdue
    exact r.due_ne_nil hloses.reached hdue.symm
  · rw [hroute]
    by_cases hn : level.value ≤ n
    · rw [if_pos hn]
      exact r.sinks_of_not_loses hn (.inr hn) hkept
    · rw [if_neg hn, Request.due, if_pos (by omega)]

/-- A level by its name, on a terminal: messages of that level go to the standard output, errors to
the standard error, and what is below the level nowhere. -/
theorem written_once_unless_lost_debug :
    ∃ l ls', setUp {} "gate" { level := .text " Debug ", terminal := true } = .ok (l, ls') ∧
      ls'.route "gate" 10 = [.output] ∧ ls'.route "gate" 40 = [.error] ∧
      ls'.route "gate" 9 = [] := by
  have hname : Level.ofName " Debug " = 10 := by decide +kernel
  have hlevel : Level.of? (.text " Debug ") = .ok (.number 10) :=
    congrArg (Except.ok ∘ Level.number) hname
  have hbare : (logger {} "gate").handlers = [] := rfl
  obtain ⟨l, ls', hsetup, hroutes⟩ :=
    @written_once_unless_lost {} "gate" { level := .text " Debug ", terminal := true } _ hbare
      hlevel (by decide)
  refine ⟨l, ls', hsetup, ?_, ?_, ?_⟩
  · exact (hroutes 10).1.mpr fun hlost => absurd hlost.gap (by decide)
  · exact (hroutes 40).1.mpr fun hlost => absurd hlost.gap (by decide)
  · exact (hroutes 9).1.mpr fun hlost => absurd hlost.reached (by decide)

/-- On a terminal, a message between information and warnings is lost at the usual level, and so is
a message below the level of debugging at its own level. -/
theorem exists_lost :
    (∃ l ls', setUp {} "gate" { terminal := true } = .ok (l, ls') ∧ ls'.route "gate" 25 = [] ∧
      Request.due { terminal := true } 20 25 = [.error]) ∧
    ∃ l ls', setUp {} "gate" { level := .int 5, terminal := true } = .ok (l, ls') ∧
      ls'.route "gate" 5 = [] ∧
      Request.due { level := .int 5, terminal := true } 5 5 = [.output] :=
  ⟨⟨_, _, rfl, by decide, by decide⟩, _, _, rfl, by decide, by decide⟩

end Loggers

end StartupGate.Log
