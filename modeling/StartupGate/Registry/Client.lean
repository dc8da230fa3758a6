import StartupGate.Data.Basic
import StartupGate.Worker
/-!
# Registry clients

A registry client answers two questions: whether the registry is alive, and whether a service is
available. `RegistryClient.scripted` answers from scripts, one for each question and service.
-/

namespace StartupGate

/-- A client of a service registry. -/
structure RegistryClient where
  /-- Whether the registry is alive, asked on behalf of a service. -/
  isAlive : (service : String) → Step Bool
  /-- Whether a service is registered and healthy. -/
  isAvailable : (service : String) → Step Bool

namespace RegistryClient

/-- The scripts of a client: by service, with a script under `*` for all others. An item is the
data that the question is answered with, or a fault, after some time. -/
structure Item where
  elapsed : Seconds := .whole 0
  cancels : Bool := false
  answer : Except Fault Data

/-- The items for each service. -/
abbrev Scripts := List (String × List Item)

/-- Plays the next item for a service; a service without a script is answered with yes. -/
def play (question : String) (scripts : Scripts) (service : String) : Step Bool := fun w =>
  match (scripts.lookup service).or (scripts.lookup "*") with
  | none => (.ok true, w)
  | some script =>
    let (turn, w) := w.play (question ++ " " ++ service)
    match Script.item? script turn with
    | none => (.ok true, w)
    | some item => Worker.undergo item.elapsed item.cancels (item.answer.map Data.isTruthy) w

/-- The client that answers from scripts. Asking for a service is recorded as a call. -/
def scripted (alive available : Scripts) : RegistryClient where
  isAlive service := play "alive" alive service
  isAvailable service := fun w => play "available" available service (w.record (.query service))

end RegistryClient

end StartupGate
