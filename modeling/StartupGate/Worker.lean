import StartupGate.Log.Severity
import StartupGate.Script
import StartupGate.Seconds
/-!
# Workers

A worker probes one service. Its state is a clock, a cancel flag, and the record of what it did: the
messages it logged, the calls it made, how often it slept and how many attempts a strategy counted.
Nothing is shared between workers.

Everything a worker does is a `Step`: a function from its state to an answer or a fault, and the new
state. What a step did before a fault is kept.
-/

namespace StartupGate

/-- A call that a worker made. -/
inductive Call where
  /-- A request, with its time limit and, where any were given, its headers. -/
  | get (url : String) (timeout : Option Float) (headers : Option (List (String × String)))
  /-- A question to a registry whether a service is available. -/
  | query (service : String)

/-- The state of a worker. -/
structure Worker where
  clock : Seconds := .whole 0
  /-- Whether the cancel flag was set. -/
  flagged : Bool := false
  /-- The time from which on cancellation is observed, if there is one. -/
  cancelAt : Option Seconds := none
  logs : List Log.Entry := []
  calls : List Call := []
  sleeps : Nat := 0
  checks : Nat := 0
  /-- How many requests went to each address. -/
  requests : Tally := []
  /-- How many items were played of each script. -/
  played : Tally := []

/-- What a worker does: an answer or a fault, and the state after it. -/
abbrev Step (α : Type) := Worker → Except Fault α × Worker

theorem Step.relates_of_eq {α : Type} {R : Worker → Worker → Prop} {s : Step α} {w u : Worker}
    {x : Except Fault α} (hs : R w (s w).2) (h : s w = (x, u)) : R w u := by
  rw [h] at hs
  exact hs

namespace Worker

/-- Whether the worker is told to stop. -/
def isCancelled (w : Worker) : Bool :=
  w.flagged || (match w.cancelAt with
    | some t => t.le w.clock
    | none => false)

/-- Logs a message. -/
def log (w : Worker) (severity : Log.Severity) (text : String) : Worker :=
  { w with logs := w.logs ++ [⟨severity, text⟩] }

/-- Records a call. -/
def record (w : Worker) (call : Call) : Worker := { w with calls := w.calls ++ [call] }

/-- Sets the cancel flag if `cancels` holds. -/
def cancel (w : Worker) (cancels : Bool) : Worker := { w with flagged := w.flagged || cancels }

/-- Lets time pass. -/
def elapse (w : Worker) (time : Seconds) : Except Fault Worker := do
  return { w with clock := ← w.clock.add time }

/-- Sleeps. The sleep counts even where its time cannot be added to the clock. -/
def sleep (time : Seconds) : Step Unit := fun w =>
  let w := { w with sleeps := w.sleeps + 1 }
  match w.elapse time with
  | .error f => (.error f, w)
  | .ok w => (.ok (), w)

/-- The turn of a script, which is counted as played. -/
def play (w : Worker) (script : String) : Nat × Worker :=
  (w.played.count script, { w with played := w.played.bump script })

/-- Spends the time of an event and sets the cancel flag, then gives the answer of the event. -/
def undergo {α : Type} (elapsed : Seconds) (cancels : Bool) (answer : Except Fault α) : Step α :=
  fun w =>
    match w.elapse elapsed with
    | .error f => (.error f, w)
    | .ok w => (answer, w.cancel cancels)

end Worker

end StartupGate
