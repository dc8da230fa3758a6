import StartupGate.Config.Basic
import StartupGate.Http.Exchange
import StartupGate.Json.Reader
import StartupGate.Registry.Client
import StartupGate.Registry.Health
/-!
# Asking a Consul registry

A `Consul` client asks a registry over HTTP. The registry is alive when it names a leader. A service
is available when the catalog holds it and none of its health checks fails; in every other case the
question ends in a fault that says why.
-/

namespace StartupGate

/-- How a registry is asked. -/
structure Consul where
  /-- The base address, without slashes at its end. -/
  base : String
  /-- The time limit of a request in seconds. -/
  timeout : Float
  headers : List (String × String)

namespace Consul

/-- A client with a base address, a token that may be empty, and a time limit in seconds. -/
def of (base : String) (token : Option String) (timeout : Float) : Consul :=
  let headers := match token with
    | some t => if t = "" then [] else [("X-Consul-Token", t)]
    | none => []
  { base := Text.dropSlashes base, timeout, headers }

/-- The seconds of a time limit in milliseconds. -/
def secondsOfMillis (millis : Int) : Except Fault Float :=
  match Number.Binary64.ofQuotient? millis 1000 with
  | some x => .ok x
  | none => .error .quotientTooLarge

/-- The client for a configured registry, with a time limit in milliseconds. -/
def ofAddress (r : RegistryAddress) (millis : Int) : Except Fault Consul := do
  return of (← r.url) r.token (← secondsOfMillis millis)

/-- The path that names the leader. -/
def leaderPath : String := "/v1/status/leader"

/-- The path of the catalog of services. -/
def catalogPath : String := "/v1/catalog/services"

/-- The path of the health checks of a service. -/
def healthPath (service : String) : String := "/v1/health/checks/" ++ service

/-- Sends a request below the base address. -/
def request (c : Consul) (net : Http.Network) (path : String) : Step Http.Reply :=
  Http.get net (c.base ++ path) (some c.timeout) (some c.headers)

/-- Whether a body names a leader: something is left of it without the blanks around it and without
the quotes around that. -/
def namesLeader (body : String) : Bool :=
  !(Text.trim (· == '"') (Text.trim Text.isBlank body.toList)).isEmpty

/-- Whether the registry is alive. A request without answer tells that it is not. -/
def isAlive (c : Consul) (net : Http.Network) : Step Bool := fun w =>
  match c.request net leaderPath w with
  | (.ok reply, w) => (.ok (reply.status == 200 && namesLeader reply.body), w)
  | (.error f, w) =>
    if f.isRequest then
      (.ok false, w.log .debug ("Consul not reachable at " ++ c.base ++ ": " ++ f.text))
    else (.error f, w)

/-- The data of a body. -/
def decode (body : String) : Except Fault Data :=
  match Json.parse body with
  | .ok d => .ok d
  | .error e => .error (.malformedBody e body)

/-- Whether a list of characters contains another as a run. -/
def containsRun (part : List Char) : List Char → Bool
  | [] => part.isEmpty
  | c :: r => part.isPrefixOf (c :: r) || containsRun part r

/-- Whether a catalog holds a service. A catalog is a record of services; a list and a text are
searched too, and one that counts as false is empty. -/
def holds (catalog : Data) (service : String) : Except Fault Bool :=
  match catalog.orEmptyRecord with
  | .record entries => .ok (Entries.field? entries service).isSome
  | .list items => .ok (items.any fun d => d.sameKey (.text service))
  | .text s => .ok (containsRun service.toList s.toList)
  | d => .error (.noMembers d.typeName)

/-- Judges the reply to the question for the catalog. -/
def judgeCatalog (service : String) (reply : Http.Reply) : Except Fault Unit := do
  if reply.status != 200 then throw (.refused (.catalogStatus reply.status))
  if !(← holds (← decode reply.body) service) then throw (.refused (.notRegistered service))

/-- Judges the reply to the question for health checks. -/
def judgeHealth (service : String) (reply : Http.Reply) : Except Fault Bool := do
  if reply.status != 200 then throw (.refused (.healthStatus service reply.status))
  let checks ← decode reply.body
  let health ← if checks.isTruthy then Health.aggregate checks else pure .passing
  if health = .passing then return true else throw (.refused (.unhealthy service health.name))

/-- Whether a service is registered and healthy. -/
def isAvailable (c : Consul) (net : Http.Network) (service : String) : Step Bool := fun w =>
  match c.request net catalogPath w with
  | (.error f, w) => (.error f, w)
  | (.ok reply, w) =>
    match judgeCatalog service reply with
    | .error f => (.error f, w)
    | .ok () =>
      match c.request net (healthPath service) w with
      | (.error f, w) => (.error f, w)
      | (.ok reply, w) => (judgeHealth service reply, w)

/-- The registry client that asks over a network. -/
def client (c : Consul) (net : Http.Network) : RegistryClient where
  isAlive _ := c.isAlive net
  isAvailable service := c.isAvailable net service

end Consul

end StartupGate
