import StartupGate.Proofs.Log.Routes
/-!
# Loggers that are set up more than once

The first call that sets up a logger puts up its handlers and thereby chooses its streams. The last
one sets its level. Between them they decide what is written.

- `Loggers.last_level_governs`: a message of a common level goes where the first request sends it,
  by the level of the last one. Without a terminal the handler that was put up first has a level of
  its own, which comes on top.
- `Loggers.written_at_most_once`: whatever is called, under whatever names, no message is written
  twice, and the loggers above a logger have no part in what it writes.
-/

namespace StartupGate.Log

/-- The levels that messages commonly have, from debugging to critical errors. -/
def Level.common : List Int := [10, 20, 30, 40, 50]

namespace Request

variable {r : Request} {level n : Int}

/-- No message of a common level falls into a gap between the handlers. -/
theorem not_loses_of_common (hn : n ∈ Level.common) : ¬ r.Loses level n := by
  intro hlost
  have hgap := hlost.gap
  simp only [Level.common, List.mem_cons, List.not_mem_nil, or_false] at hn
  have hlevels : Severity.debug.level = 10 ∧ Level.info = 20 ∧ Level.warning = 30 := by decide
  omega

theorem output_not_mem_sinks (h : r.allToError = true) : .output ∉ r.sinks level n := by
  rw [sinks, h, if_pos rfl]
  split <;> simp

theorem length_sinks_le_one (r : Request) (level n : Int) : (r.sinks level n).length ≤ 1 := by
  unfold sinks
  split
  · split <;> simp
  · split
    · simp
    · split <;> simp

/-- A first setup puts up one handler, or two that write no message in common. -/
theorem handlers_cases (r : Request) (level : Level) :
    (∃ h, r.handlers level = [h]) ∨
      ∃ h h', r.handlers level = [h, h'] ∧ ∀ n, h.writes n = true → h'.writes n = false := by
  unfold handlers
  split
  · exact .inl ⟨_, rfl⟩
  · refine .inr ⟨_, _, rfl, fun n hn => ?_⟩
    rw [Handler.writes_toOutput, decide_eq_true_eq] at hn
    rw [Handler.writes_toError, decide_eq_false_iff_not]
    have hapart : Level.info < (Level.number Level.warning).value := by decide
    omega

end Request

namespace Loggers

variable {ls : Loggers} {name : String} {calls : List Call}

/-! ## The first call and the last one -/

/-- What a sequence of calls under one name leaves behind: the handlers of the first one, and the
level of the last one. -/
theorem route_of_requests (hbare : (ls.logger name).handlers = []) {requests : List Request}
    {first last : Request} {firstLevel level : Level} (hfirst : requests.head? = some first)
    (hlast : requests.getLast? = some last) (hfirstLevel : Level.of? first.level = .ok firstLevel)
    (hlevel : Level.of? last.level = .ok level) (hone : 1 ≤ level.value) (n : Int) :
    (ls.run (requests.map (Call.mk name))).route name n
      = if level.value ≤ n then first.sinks firstLevel.value n else [] := by
  have hinstalled : (ls.run (requests.map (Call.mk name))).Installed name
      (first.handlers firstLevel) := by
    obtain ⟨rest, rfl⟩ := List.head?_eq_some_iff.mp hfirst
    have hset : Call.SetsUp ⟨name, first⟩ name firstLevel := ⟨rfl, hfirstLevel⟩
    show (ls.run ([] ++ ⟨name, first⟩ :: rest.map (Call.mk name))).Installed name _
    exact installed_run hbare (by simp) hset _
  have hown : ((ls.run (requests.map (Call.mk name))).logger name).level = level := by
    obtain ⟨init, rfl⟩ := List.getLast?_eq_some_iff.mp hlast
    have hset : Call.SetsUp ⟨name, last⟩ name level := ⟨rfl, hlevel⟩
    rw [List.map_append]
    exact level_run ls _ hset (by simp)
  rw [route_of_one_le hinstalled (hown.symm ▸ hone), hown]

/-- **The first setup chooses the streams, the last one the level.** The logger of the name has no
handlers before the first of the calls, and each call gives a level of one or more.

A message of a common level that is below the last level is not written. Where the first call found
a terminal and did not ask for the standard error, every other message is written once, as
information or as an error. Where it did ask, or found no terminal, nothing is ever written to the
standard output, and a message is written once to the standard error if it reaches the first level
as well. What the later calls ask for, other than a level, does not matter. -/
theorem last_level_governs {ls : Loggers} {name : String} (hbare : (ls.logger name).handlers = [])
    {requests : List Request} {first last : Request} {firstLevel level : Level}
    (hfirst : requests.head? = some first) (hlast : requests.getLast? = some last)
    (hfirstLevel : Level.of? first.level = .ok firstLevel)
    (hlevel : Level.of? last.level = .ok level)
    (hone : ∀ r ∈ requests, ∃ l, Level.of? r.level = .ok l ∧ 1 ≤ l.value) {n : Int}
    (hn : n ∈ Level.common) :
    (n < level.value → (ls.run (requests.map (Call.mk name))).route name n = []) ∧
    (first.allToError = false ∨ firstLevel.value ≤ n →
      (ls.run (requests.map (Call.mk name))).route name n = first.due level.value n) ∧
    (first.allToError = true →
      .output ∉ (ls.run (requests.map (Call.mk name))).route name n) := by
  have hlevel_one : 1 ≤ level.value := by
    obtain ⟨l, hl, hl_one⟩ := hone last (List.mem_of_getLast? hlast)
    obtain rfl : level = l := Except.ok.inj (hlevel.symm.trans hl)
    exact hl_one
  rw [route_of_requests hbare hfirst hlast hfirstLevel hlevel hlevel_one]
  by_cases hreached : level.value ≤ n
  · rw [if_pos hreached]
    refine ⟨fun hbelow => by omega, fun hleast => ?_, first.output_not_mem_sinks⟩
    exact first.sinks_of_not_loses hreached hleast (first.not_loses_of_common hn)
  · rw [if_neg hreached, Request.due, if_pos (by omega)]
    exact ⟨fun _ => rfl, fun _ => rfl, by simp⟩

/-- Requests for errors and without a terminal, then for debugging and on one, and at last for
warnings. -/
def changing : List Request :=
  [{ level := .int 40 }, { level := .int 10, terminal := true },
    { level := .int 30, terminal := true }]

/-- An error is written to the standard error, and information nowhere. -/
theorem last_level_governs_changing :
    (run {} (changing.map (Call.mk "gate"))).route "gate" 40 = [.error] ∧
      (run {} (changing.map (Call.mk "gate"))).route "gate" 20 = [] := by
  have hbare : (logger {} "gate").handlers = [] := rfl
  have hone : ∀ r ∈ changing, ∃ l, Level.of? r.level = .ok l ∧ 1 ≤ l.value := by
    simp only [changing, List.mem_cons, List.not_mem_nil, or_false, forall_eq_or_imp, forall_eq]
    exact ⟨⟨.number 40, rfl, by decide⟩, ⟨.number 10, rfl, by decide⟩, .number 30, rfl, by decide⟩
  have hgoverns := fun n hn =>
    @last_level_governs {} "gate" hbare changing _ _ (.number 40) (.number 30) rfl rfl rfl rfl hone
      n hn
  exact ⟨(hgoverns 40 (by decide)).2.1 (.inr (by decide)), (hgoverns 20 (by decide)).1 (by decide)⟩

/-- The last call does not always govern. After a first call for errors only, information is not
written, though the last call asks for debugging messages. After a first call on a terminal, it is
written to the standard output, though the last call asks for the standard error. -/
theorem exists_last_call_ignored :
    (run {} ([{ level := .int 40, toStderr := true }, { level := .int 10, toStderr := true }].map
        (Call.mk "gate"))).route "gate" 20 = [] ∧
      (run {} ([{ terminal := true }, { terminal := true, toStderr := true }].map
        (Call.mk "gate"))).route "gate" 20 = [.output] := by
  decide

/-! ## One writer -/

/-- Among calls that set up a logger there is a first one. -/
theorem exists_first_setsUp (h : ∃ c ∈ calls, ∃ level, c.SetsUp name level) :
    ∃ before c after level, calls = before ++ c :: after ∧
      (∀ c ∈ before, ∀ level, ¬ c.SetsUp name level) ∧ c.SetsUp name level := by
  classical
  have hfound : (calls.find? fun c => decide (∃ level, c.SetsUp name level)).isSome := by
    simpa only [List.find?_isSome, decide_eq_true_eq] using h
  obtain ⟨c, hc⟩ := Option.isSome_iff_exists.mp hfound
  obtain ⟨hset, before, after, rfl, hbefore⟩ := List.find?_eq_some_iff_append.mp hc
  obtain ⟨level, hset⟩ := of_decide_eq_true hset
  refine ⟨before, c, after, level, rfl, fun c' hmem l hl => ?_, hset⟩
  -- The search would have stopped at an earlier one.
  have hpassed := hbefore c' hmem
  rw [decide_eq_true ⟨l, hl⟩] at hpassed
  exact absurd hpassed (by decide)

/-- **No message is written twice.** The calls are any calls, with any names and requests, refused
ones among them; the logger has no handlers before them, and one of them sets it up.

From the first call that does so, whatever is called afterwards, the logger has the handlers that
this call asked for: one, or two that write no message in common. Messages come to these handlers
only, whatever handlers the loggers above have, and each is written to one stream at most. -/
theorem written_at_most_once {ls : Loggers} {name : String} (hbare : (ls.logger name).handlers = [])
    {calls : List Call} (hset : ∃ c ∈ calls, ∃ level, c.SetsUp name level) :
    (∃ before c after level, calls = before ++ c :: after ∧
      (∀ c ∈ before, ∀ level, ¬ c.SetsUp name level) ∧ c.SetsUp name level ∧
      ((ls.run (before ++ [c])).logger name).handlers = c.request.handlers level ∧
      ((ls.run calls).logger name).handlers = c.request.handlers level) ∧
    ((∃ h, ((ls.run calls).logger name).handlers = [h]) ∨
      ∃ h h', ((ls.run calls).logger name).handlers = [h, h'] ∧
        ∀ n, h.writes n = true → h'.writes n = false) ∧
    (ls.run calls).handlers name = ((ls.run calls).logger name).handlers ∧
    ∀ n, ((ls.run calls).route name n).length ≤ 1 := by
  obtain ⟨before, c, after, level, rfl, hbefore, hfirst⟩ := exists_first_setsUp hset
  -- The handlers stand once this call is made, and after all the others.
  have hnow := installed_run hbare hbefore hfirst []
  have hinstalled := installed_run hbare hbefore hfirst after
  refine ⟨⟨before, c, after, level, rfl, hbefore, hfirst, hnow.handlers_eq,
    hinstalled.handlers_eq⟩, ?_, ?_, fun n => ?_⟩
  · rw [hinstalled.handlers_eq]
    exact c.request.handlers_cases level
  · rw [handlers_of_installed hinstalled, hinstalled.handlers_eq]
  · rw [route_of_installed hinstalled]
    split
    · exact c.request.length_sinks_le_one level.value n
    · exact Nat.zero_le 1

/-- Calls for a logger and for one below it. One of them is refused, and the last one leaves the
level to the logger above. -/
def layered : List Call :=
  [⟨"gate", { terminal := true }⟩, ⟨"gate.check", { level := .null }⟩,
    ⟨"gate.check", { terminal := true }⟩, ⟨"gate", { toStderr := true }⟩,
    ⟨"gate.check", { level := .int 0 }⟩]

/-- The logger below writes an error once, and has no use for the handlers above. -/
theorem written_at_most_once_layered :
    ((run {} layered).route "gate.check" 40).length ≤ 1 ∧
      (run {} layered).handlers "gate.check"
        = ((run {} layered).logger "gate.check").handlers := by
  have hbare : (logger {} "gate.check").handlers = [] := rfl
  have hset : ∃ c ∈ layered, ∃ level, c.SetsUp "gate.check" level := by
    refine ⟨⟨"gate.check", { terminal := true }⟩, ?_, .number 20, rfl, rfl⟩
    simp [layered]
  obtain ⟨-, -, hhandlers, honce⟩ := written_at_most_once hbare hset
  exact ⟨honce 40, hhandlers⟩

end Loggers

end StartupGate.Log
