import StartupGate.Check.Verdict
import StartupGate.Registry.Consul
/-!
# Strategies

A strategy tells once whether a service is available. There are two for real use: asking a service
registry, and calling the ping route of the service itself. `Strategy.select` picks one for a whole
readiness check, and they are never mixed within one. `Strategy.scripted` plays a script for each
service.
-/

namespace StartupGate

/-- Tells once whether a service is available. -/
abbrev Strategy := (service : String) → Step Verdict

namespace Strategy

/-! ## Asking a registry -/

/-- Asks a registry. Whatever goes wrong is logged and passes for unavailable. -/
def registry (client : RegistryClient) : Strategy := fun service w =>
  let w := w.log .info ("Check " ++ service ++ " service's status via Registry...")
  match client.isAlive service w with
  | (.error f, w) =>
    (.ok .unavailable,
      w.log .error ("unable to check status of " ++ service ++ " service: " ++ f.text))
  | (.ok false, w) =>
    (.ok .unavailable,
      w.log .error ("unable to check status of " ++ service ++ " service: Registry not running"))
  | (.ok true, w) =>
    match client.isAvailable service w with
    | (.error f, w) => (.ok .unavailable, w.log .error f.report)
    | (.ok false, w) =>
      (.ok .unavailable, w.log .error (service ++ " service is not available in the registry"))
    | (.ok true, w) => (.ok .available, w)

/-! ## Pinging the service -/

/-- The base address and the seconds of the time limit that a ping needs. -/
def target (config : Config) (endpoint : Endpoint) : Except Fault (String × Float) := do
  return (← endpoint.url, ← Consul.secondsOfMillis config.timeout)

theorem target_eq_ok_iff {config : Config} {endpoint : Endpoint} {url : String} {timeout : Float} :
    target config endpoint = .ok (url, timeout) ↔
      (FitsAddress endpoint.port ∧ url = endpoint.address) ∧
        Consul.secondsOfMillis config.timeout = .ok timeout := by
  rw [← Endpoint.url_eq_ok_iff, target]
  cases endpoint.url with
  | error f => simp [bind, Except.bind]
  | ok base =>
    cases Consul.secondsOfMillis config.timeout <;> simp [bind, Except.bind, pure, Except.pure]

/-- The address is looked at first, and the time limit only after it. -/
theorem target_eq_error_iff {config : Config} {endpoint : Endpoint} {f : Fault} :
    target config endpoint = .error f ↔
      ¬ FitsAddress endpoint.port ∧ f = .tooManyDigits ∨
        FitsAddress endpoint.port ∧ Consul.secondsOfMillis config.timeout = .error f := by
  rw [target]
  cases hurl : endpoint.url with
  | error g =>
    obtain ⟨hlong, rfl⟩ := Endpoint.url_eq_error_iff.mp hurl
    simp [bind, Except.bind, hlong, eq_comm]
  | ok base =>
    have hfits := (Endpoint.url_eq_ok_iff.mp hurl).1
    cases Consul.secondsOfMillis config.timeout <;>
      simp [bind, Except.bind, pure, Except.pure, hfits]

theorem target_of_not_fits {config : Config} {endpoint : Endpoint}
    (h : ¬ FitsAddress endpoint.port) : target config endpoint = .error .tooManyDigits :=
  target_eq_error_iff.mpr (.inl ⟨h, rfl⟩)

/-- Calls the ping route of the configured endpoint. A service without endpoint is misconfigured; a
request without answer and a reply without success pass for unavailable. -/
def ping (net : Http.Network) (config : Config) : Strategy := fun service w =>
  let w := w.log .info ("Check " ++ service ++ " service's status by ping...")
  match config.endpoint? service with
  | none =>
    (.ok .misconfigured,
      w.log .error ("no client endpoint configured for " ++ service ++ " service"))
  | some endpoint =>
    match target config endpoint with
    | .error f => (.error f, w)
    | .ok (url, timeout) =>
      match Http.ping net url (some timeout) w with
      | (.error f, w) =>
        if f.isRequest then (.ok .unavailable, w.log .error f.text) else (.error f, w)
      | (.ok status, w) =>
        if Http.isSuccess status then (.ok .available, w)
        else
          (.ok .unavailable,
            w.log .error (service ++ " service ping responded " ++ toString status))

/-- Asks the registry when there is a client for one, else pings the services. -/
def select (net : Http.Network) (config : Config) : Option RegistryClient → Strategy
  | some client => registry client
  | none => ping net config

/-! ## Scripts -/

/-- One attempt of a script: how long it takes, whether the worker is told to stop meanwhile, and
what it ends in. -/
structure Attempt where
  elapsed : Seconds := .whole 0
  cancels : Bool := false
  answer : Except Fault Verdict

/-- Plays a script for each service; a service without a script is a fault. Attempts are counted. -/
def scripted (scripts : List (String × List Attempt)) : Strategy := fun service w =>
  let w := { w with checks := w.checks + 1 }
  match scripts.lookup service with
  | none => (.error (.missingKey (some service)), w)
  | some script =>
    let (turn, w) := w.play ("attempt " ++ service)
    match Script.item? script turn with
    | none => (.error (.missingKey (some service)), w)
    | some attempt => Worker.undergo attempt.elapsed attempt.cancels attempt.answer w

end Strategy

end StartupGate
