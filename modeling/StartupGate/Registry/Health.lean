import StartupGate.Data.Basic
import StartupGate.Fault
/-!
# Health of a service

A service has a list of health checks, each with a status. `Health` is the scale that statuses are
looked up on, from passing to critical: all statuses are collected, and the worst health whose name
is among them is that of the service. A status that is not on the scale counts as passing.
-/

namespace StartupGate

/-- How well a service is. -/
inductive Health where
  | passing
  | maintenance
  | warning
  | critical
deriving Repr, DecidableEq

namespace Health

/-- The name of a health. -/
def name : Health → String
  | .passing => "passing"
  | .maintenance => "maintenance"
  | .warning => "warning"
  | .critical => "critical"

/-- The healths of a service that fails, the worst first. -/
def failures : List Health := [.critical, .warning, .maintenance]

/-- Whether the name of a health is among statuses. -/
def isAmong (h : Health) (statuses : List Data) : Bool := statuses.any (·.sameKey (.text h.name))

/-- The health that statuses stand for. It is searched for among them, the worst first. -/
def ofStatuses (statuses : List Data) : Health :=
  (failures.find? (·.isAmong statuses)).getD .passing

/-- The status of a health check; a check without one has none. A check has to be a record, and its
status must not be a collection. -/
def statusOf : Data → Except Fault Data
  | .record entries =>
    let status := (Entries.field? entries "Status").getD .null
    if status.isKey then .ok status else .error (.noElement status.typeName)
  | d => .error (.noFields d.typeName)

/-- The items that data is gone through by: the items of a list, the characters of a text, the keys
of a record. -/
def itemsOf : Data → Except Fault (List Data)
  | .list items => .ok items
  | .set items => .ok items
  | .text s => .ok (s.toList.map fun c => .text (String.singleton c))
  | .bytes b => .ok (b.map fun x => .int x.toNat)
  | .record entries => .ok (entries.map (·.1))
  | d => .error (.noItems d.typeName)

/-- The health of a list of checks. The first check that is none is reported. -/
def ofItems (checks : List Data) : Except Fault Health := do
  return ofStatuses (← checks.mapM statusOf)

/-- The health of all checks in data. -/
def aggregate (checks : Data) : Except Fault Health := do ofItems (← itemsOf checks)

end Health

end StartupGate
