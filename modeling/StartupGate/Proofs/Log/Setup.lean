import StartupGate.Log.Logger
/-!
# Setting up loggers again and again

Loggers are set up by calls, in any order and any number of times, each with a name and a request. A
call whose level is none is refused. What the calls leave of one logger depends on two of them: its
handlers are those of the first call that set it up (`Loggers.Installed.run`), and its level is that
of the last one (`Loggers.level_run`).
-/

namespace StartupGate.Log

open Loggers (fullName)

/-! ## One call -/

/-- A call: the name of a logger, and how the logger is asked to write. -/
structure Call where
  name : String
  request : Request

/-- The call sets up the logger of a name, with a level. -/
structure Call.SetsUp (c : Call) (name : String) (level : Level) : Prop where
  name_eq : fullName c.name = fullName name
  level_eq : Level.of? c.request.level = .ok level

namespace Loggers

/-- The loggers after a call; one that is refused changes nothing. -/
def call (ls : Loggers) (c : Call) : Loggers :=
  match ls.setUp c.name c.request with
  | .ok (_, ls') => ls'
  | .error _ => ls

/-- The loggers after calls, one after the other. -/
def run (ls : Loggers) (calls : List Call) : Loggers := calls.foldl call ls

variable {ls : Loggers} {name other : String} {r : Request} {level : Level} {c : Call}
  {calls before after : List Call}

/-- Two names of one logger. -/
theorem logger_congr (h : fullName name = fullName other) : ls.logger name = ls.logger other := by
  rw [logger, find?, h, logger, find?]

theorem logger_assign (ls : Loggers) (name other : String) (l : Logger) :
    logger ⟨Named.assign ls.entries (fullName name) l⟩ other
      = if fullName other = fullName name then l else ls.logger other := by
  rw [logger, find?, Named.lookup_assign]
  split
  · rfl
  · rw [logger, find?]

/-- A setup with a level is never refused, and changes the logger of its name only. -/
theorem setUp_of_level (hlevel : Level.of? r.level = .ok level) (ls : Loggers) (name : String) :
    ls.setUp name r = .ok ((ls.logger name).setUp r level,
      ⟨Named.assign ls.entries (fullName name) ((ls.logger name).setUp r level)⟩) := by
  rw [setUp, hlevel]
  rfl

/-- A setup without a level is refused. -/
theorem setUp_of_error {e : LevelError} (hlevel : Level.of? r.level = .error e) (ls : Loggers)
    (name : String) : ls.setUp name r = .error e := by
  rw [setUp, hlevel]
  rfl

theorem logger_call_of_setsUp (ls : Loggers) (h : c.SetsUp name level) :
    (ls.call c).logger name = (ls.logger name).setUp c.request level := by
  rw [call, setUp_of_level h.level_eq]
  simp only [logger_assign, h.name_eq, if_true, logger_congr h.name_eq]

theorem setUp_eq_ok_call (hlevel : Level.of? r.level = .ok level) (ls : Loggers) (name : String) :
    ls.setUp name r = .ok ((ls.logger name).setUp r level, ls.call ⟨name, r⟩) := by
  rw [call, setUp_of_level hlevel]

/-- A call that does not set up a logger leaves it as it is. -/
theorem logger_call_of_not (h : ∀ level, ¬ c.SetsUp name level) :
    (ls.call c).logger name = ls.logger name := by
  cases hlevel : Level.of? c.request.level with
  | error e => rw [call, setUp_of_error hlevel]
  | ok level =>
    -- A call with a level is one for another logger.
    have hname : fullName name ≠ fullName c.name := fun heq => h level ⟨heq.symm, hlevel⟩
    rw [call, setUp_of_level hlevel]
    simp only [logger_assign, if_neg hname]

/-! ## Many calls -/

theorem run_cons (ls : Loggers) (c : Call) (calls : List Call) :
    ls.run (c :: calls) = (ls.call c).run calls := rfl

theorem run_append (ls : Loggers) (before after : List Call) :
    ls.run (before ++ after) = (ls.run before).run after := List.foldl_append

/-- Calls that do not set up a logger leave it as it is. -/
theorem logger_run_of_not (h : ∀ c ∈ calls, ∀ level, ¬ c.SetsUp name level) :
    (ls.run calls).logger name = ls.logger name := by
  induction calls generalizing ls with
  | nil => rfl
  | cons c rest ih =>
    have hrest := fun c' hc' => h c' (List.mem_cons_of_mem c hc')
    rw [run_cons, ih hrest, logger_call_of_not (h c List.mem_cons_self)]

/-- The logger of a name stands with these handlers and hands nothing on. -/
structure Installed (ls : Loggers) (name : String) (hs : List Handler) : Prop where
  handlers_eq : (ls.logger name).handlers = hs
  not_propagates : (ls.logger name).propagates = false

variable {hs : List Handler}

theorem handlers_ne_nil (r : Request) (level : Level) : r.handlers level ≠ [] := by
  unfold Request.handlers
  split <;> simp

/-- The first setup of a logger puts up the handlers that it asks for. -/
theorem installed_of_bare (hbare : (ls.logger name).handlers = []) (h : c.SetsUp name level) :
    (ls.call c).Installed name (c.request.handlers level) := by
  have hlogger := ls.logger_call_of_setsUp h
  constructor
  · rw [hlogger, Logger.setUp, hbare]
    rfl
  · rw [hlogger]
    rfl

/-- No call takes handlers down or puts up more of them. -/
theorem Installed.call (h : ls.Installed name hs) (hne : hs ≠ []) (c : Call) :
    (ls.call c).Installed name hs := by
  by_cases hset : ∃ level, c.SetsUp name level
  · obtain ⟨level, hset⟩ := hset
    have hlogger := ls.logger_call_of_setsUp hset
    constructor
    · -- Handlers that are there stay.
      have hfull : hs.isEmpty = false := by simpa using hne
      rw [hlogger, Logger.setUp, h.handlers_eq, hfull]
      rfl
    · rw [hlogger]
      rfl
  · have hlogger : (ls.call c).logger name = ls.logger name :=
      logger_call_of_not fun level hlevel => hset ⟨level, hlevel⟩
    exact ⟨hlogger ▸ h.handlers_eq, hlogger ▸ h.not_propagates⟩

theorem Installed.run (h : ls.Installed name hs) (hne : hs ≠ []) (calls : List Call) :
    (ls.run calls).Installed name hs := by
  induction calls generalizing ls with
  | nil => exact h
  | cons c rest ih => exact ih (h.call hne c)

/-- A logger has the handlers of the first call that set it up, whatever was called afterwards. -/
theorem installed_run (hbare : (ls.logger name).handlers = [])
    (hbefore : ∀ c ∈ before, ∀ level, ¬ c.SetsUp name level) (hfirst : c.SetsUp name level)
    (after : List Call) :
    (ls.run (before ++ c :: after)).Installed name (c.request.handlers level) := by
  rw [run_append, run_cons]
  -- The calls before the first one leave the logger bare, and those after it leave it alone.
  apply Installed.run _ (handlers_ne_nil _ _)
  apply installed_of_bare _ hfirst
  rw [logger_run_of_not hbefore, hbare]

/-- A logger has the level of the last call that set it up. -/
theorem level_run (ls : Loggers) (before : List Call) (hlast : c.SetsUp name level)
    (hafter : ∀ c ∈ after, ∀ level, ¬ c.SetsUp name level) :
    ((ls.run (before ++ c :: after)).logger name).level = level := by
  rw [run_append, run_cons, logger_run_of_not hafter, logger_call_of_setsUp _ hlast]
  rfl

end Loggers

end StartupGate.Log
