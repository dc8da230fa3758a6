import StartupGate.Log.Level
import StartupGate.Named
/-!
# Loggers

A logger has a level and writes to streams through handlers. On a terminal, messages up to the level
of information go to the standard output and warnings to the standard error; without a terminal, or
when asked to, everything goes to the standard error, so that the standard output stays clean.

The handlers of a logger are put up once, by the first setup under its name. Later setups change its
level only.

Loggers stand above one another by their names, `a` above `a.b`, and the root logger stands above
all. A message that a logger lets through comes to the handlers of that logger and, as long as each
logger hands messages on, to those of the loggers above it. A logger that was set up hands nothing
on.
-/

namespace StartupGate.Log

/-- Where a handler writes. -/
inductive Sink where
  | output
  | error
deriving Repr, DecidableEq

/-- Writes messages within a range of levels. -/
structure Handler where
  sink : Sink
  /-- Messages below this level are not written. -/
  least : Level
  /-- Nor are messages above this one, if there is one. -/
  most : Option Int := none
  /-- Whether errors are shown with the calls that led to them. -/
  tracebacks : Bool
deriving Repr, DecidableEq

namespace Handler

/-- Whether a handler writes messages of a level. -/
def writes (h : Handler) (n : Int) : Bool :=
  decide (h.least.value ≤ n) && h.most.all fun m => decide (n ≤ m)

/-- Writes to the standard output, up to the level of information. -/
def toOutput : Handler where
  sink := .output
  least := .number Severity.debug.level
  most := some Level.info
  tracebacks := false

/-- Writes to the standard error, from a level on. -/
def toError (least : Level) : Handler where
  sink := .error
  least := least
  tracebacks := true

@[simp]
theorem writes_toOutput (n : Int) :
    toOutput.writes n = decide (Severity.debug.level ≤ n ∧ n ≤ Level.info) := by
  rw [writes, Bool.decide_and]
  rfl

@[simp]
theorem writes_toError (least : Level) (n : Int) :
    (toError least).writes n = decide (least.value ≤ n) := Bool.and_true _

end Handler

/-- How a logger is asked to write. -/
structure Request where
  level : Data := .int Level.info
  toStderr : Bool := false
  /-- Whether the standard output is a terminal. -/
  terminal : Bool := false

/-- Whether everything goes to the standard error. -/
def Request.allToError (r : Request) : Bool := r.toStderr || !r.terminal

/-- The handlers that a first setup puts up. -/
def Request.handlers (r : Request) (level : Level) : List Handler :=
  if r.allToError then [.toError level] else [.toOutput, .toError (.number Level.warning)]

/-- A logger. -/
structure Logger where
  level : Level
  handlers : List Handler := []
  /-- Whether messages are handed on to the loggers above. -/
  propagates : Bool := true
deriving Repr, DecidableEq

/-- Sets up a logger. Handlers that are there stay. -/
def Logger.setUp (l : Logger) (r : Request) (level : Level) : Logger where
  level := level
  handlers := if l.handlers.isEmpty then r.handlers level else l.handlers
  propagates := false

/-- The loggers that were set up, by name. -/
structure Loggers where
  entries : Named Logger := []
deriving Repr, DecidableEq

namespace Loggers

/-- The name of the logger above all others; the empty name stands for it too. -/
def rootName : String := "root"

/-- The full name of a logger. -/
def fullName (name : String) : String := if name = "" then rootName else name

/-- The level of the logger above all others before it is set up. -/
def rootLevel : Int := Level.warning

/-- A logger by its name, if it was set up. -/
def find? (ls : Loggers) (name : String) : Option Logger := ls.entries.lookup (fullName name)

/-- A logger by its name. One that was not set up has no handlers and, unless it is the root, no
level of its own. -/
def logger (ls : Loggers) (name : String) : Logger :=
  (ls.find? name).getD { level := .number (if fullName name = rootName then rootLevel else 0) }

/-- Sets up a logger. A level that is none changes nothing. -/
def setUp (ls : Loggers) (name : String) (r : Request) : Except LevelError (Logger × Loggers) := do
  let level ← Level.of? r.level
  let logger := (ls.logger name).setUp r level
  return (logger, ⟨Named.assign ls.entries (fullName name) logger⟩)

/-! ## Above a logger -/

/-- The known names above a name, the nearest first. The name is given by its characters, last one
first; a name above ends before a point, and is not empty. Past a name that is not known, the
character before the point is no point of its own. -/
def namesAbove (known : String → Bool) : List Char → List String
  | [] => []
  | '.' :: c :: r =>
    let name := String.ofList (c :: r).reverse
    if known name then name :: namesAbove known (c :: r) else namesAbove known r
  | _ :: r => namesAbove known r

/-- A logger and the loggers above it, the nearest first and the root last. -/
def lineage (ls : Loggers) (name : String) : List Logger :=
  ls.logger name ::
    if fullName name = rootName then []
    else
      let known (n : String) : Bool := n ≠ rootName && (ls.find? n).isSome
      (namesAbove known name.toList.reverse).map ls.logger ++ [ls.logger rootName]

/-- The level that counts for a logger: its own, or if that is zero the nearest one above that is
not zero. -/
def effectiveLevel (ls : Loggers) (name : String) : Int :=
  (((ls.lineage name).map (·.level.value)).find? (· ≠ 0)).getD 0

/-- The handlers that a message comes to, on its way up from logger to logger. -/
def handlersAlong : List Logger → List Handler
  | [] => []
  | l :: above => l.handlers ++ if l.propagates then handlersAlong above else []

/-- The handlers that messages of a logger come to. -/
def handlers (ls : Loggers) (name : String) : List Handler := handlersAlong (ls.lineage name)

/-! ## Writing -/

/-- No logger lets through a message of this level, or of a lower one. -/
def offLevel : Int := 0

/-- Whether a logger lets a message of a level through. -/
def lets (ls : Loggers) (name : String) (n : Int) : Bool :=
  decide (offLevel < n) && decide (ls.effectiveLevel name ≤ n)

/-- The streams that a message of a level is written to. Where it comes to no handler at all, it
still goes to the standard error if it is a warning. -/
def route (ls : Loggers) (name : String) (n : Int) : List Sink :=
  if ls.lets name n then
    match ls.handlers name with
    | [] => if Level.warning ≤ n then [.error] else []
    | hs => (hs.filter (·.writes n)).map (·.sink)
  else []

end Loggers

end StartupGate.Log
