import StartupGate.Text.Blank
import StartupGate.Text.Quoted
/-!
# Client handles

A handle is bound to the base address of a service and knows the endpoint that its kind of request
goes to. Making one never sends anything. Two handles are equal when both kind and base address are.
-/

namespace StartupGate

/-- The kinds of handle. -/
inductive HandleKind where
  | base
  | device
  | deviceService
  | deviceProfile
  | provisionWatcher
  | event
deriving Repr, DecidableEq

namespace HandleKind

/-- All kinds. -/
def all : List HandleKind :=
  [.base, .device, .deviceService, .deviceProfile, .provisionWatcher, .event]

/-- The name of a kind. -/
def name : HandleKind → String
  | .base => "BaseClient"
  | .device => "DeviceClient"
  | .deviceService => "DeviceServiceClient"
  | .deviceProfile => "DeviceProfileClient"
  | .provisionWatcher => "ProvisionWatcherClient"
  | .event => "EventClient"

/-- The kind with a name. -/
def ofName? (s : String) : Option HandleKind := all.find? fun k => k.name == s

/-- The route of a kind below the routes of the API. -/
def route : HandleKind → String
  | .base => ""
  | .device => "/device"
  | .deviceService => "/deviceservice"
  | .deviceProfile => "/deviceprofile"
  | .provisionWatcher => "/provisionwatcher"
  | .event => "/event"

end HandleKind

/-- A handle. -/
structure Handle where
  kind : HandleKind
  baseUrl : String
deriving Repr, DecidableEq

namespace Handle

/-- The route of the API in use. -/
def apiRoute : String := "/api/v2"

/-- The address that requests go to. -/
def endpoint (h : Handle) : String := Text.dropSlashes h.baseUrl ++ apiRoute ++ h.kind.route

/-- A handle as it is shown. -/
def display (h : Handle) : String := h.kind.name ++ "(base_url=" ++ Text.quote h.baseUrl ++ ")"

end Handle

/-- Why a field cannot be set: handles and paces do not change. -/
structure FrozenField where
  field : String
deriving Repr, DecidableEq

/-- The wording of a refusal to set a field. -/
def FrozenField.message (f : FrozenField) : String :=
  "cannot assign to field " ++ Text.quote f.field

end StartupGate
