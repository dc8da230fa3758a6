import StartupGate.Named
import StartupGate.Number.Written
/-!
# Configuration

What a readiness check is configured with: where each service is reached, how long a request may
take, which registry to ask if any, and how long to wait at startup. An endpoint without a host or
with port zero is a configuration all the same; whether it may be used is judged when a check
begins. So is a port of any size, but one with too many digits to be written has no address.
-/

namespace StartupGate

/-- The text of an address of the form `scheme://host:port`. -/
def addressText (scheme host port : String) : String := scheme ++ "://" ++ host ++ ":" ++ port

/-- An address, for which the port has to be written. -/
def addressUrl (scheme host : String) (port : Int) : Except Fault String :=
  (Number.write port).map (addressText scheme host)

/-- Whether a port has few enough digits for an address. -/
def FitsAddress (port : Int) : Prop := Number.digitCount port ≤ Number.digitLimit

instance (port : Int) : Decidable (FitsAddress port) := inferInstanceAs (Decidable (_ ≤ _))

theorem addressUrl_eq_ok_iff {scheme host url : String} {port : Int} :
    addressUrl scheme host port = .ok url ↔
      FitsAddress port ∧ url = addressText scheme host (toString port) := by
  rw [addressUrl, FitsAddress]
  cases hwritten : Number.write port with
  | ok digits =>
    obtain ⟨hfits, rfl⟩ := Number.write_eq_ok_iff.mp hwritten
    simp [Except.map, hfits, eq_comm]
  | error f =>
    have hlong := (Number.write_eq_error_iff.mp hwritten).1
    simp [Except.map, Nat.not_le.mpr hlong]

theorem addressUrl_eq_error_iff {scheme host : String} {port : Int} {f : Fault} :
    addressUrl scheme host port = .error f ↔ ¬ FitsAddress port ∧ f = .tooManyDigits := by
  rw [FitsAddress, Nat.not_le, ← Number.write_eq_error_iff, addressUrl]
  cases Number.write port <;> simp [Except.map]

/-- A port of this size or more has too many digits. -/
theorem not_fitsAddress_iff {port : Int} :
    ¬ FitsAddress port ↔ Number.tenPow Number.digitLimit ≤ port.natAbs := by
  rw [FitsAddress, Nat.not_le, Number.lt_digitCount_iff (by decide)]

/-- Where a service is reached. -/
structure Endpoint where
  host : String := ""
  port : Int := 0
  protocol : String := "http"
deriving Repr, DecidableEq, Inhabited

namespace Endpoint

/-- The base address of a service, if it can be written. -/
def url (e : Endpoint) : Except Fault String := addressUrl e.protocol e.host e.port

/-- The text of the base address of a service, however long it is. -/
def address (e : Endpoint) : String := addressText e.protocol e.host (toString e.port)

theorem url_eq_ok_iff {e : Endpoint} {url : String} :
    e.url = .ok url ↔ FitsAddress e.port ∧ url = e.address :=
  addressUrl_eq_ok_iff

theorem url_eq_error_iff {e : Endpoint} {f : Fault} :
    e.url = .error f ↔ ¬ FitsAddress e.port ∧ f = .tooManyDigits :=
  addressUrl_eq_error_iff

end Endpoint

/-- Where a service registry is reached. -/
structure RegistryAddress where
  host : String := "localhost"
  port : Int := 8500
  kind : String := "consul"
  scheme : String := "http"
  token : Option String := none
deriving Repr, DecidableEq, Inhabited

/-- The base address of a registry, if it can be written. -/
def RegistryAddress.url (r : RegistryAddress) : Except Fault String :=
  addressUrl r.scheme r.host r.port

/-- How long to wait in total and between two checks, in seconds, as far as it is given. -/
structure Startup where
  duration : Option Int := none
  interval : Option Int := none
deriving Repr, DecidableEq, Inhabited

/-- The configuration of a readiness check. -/
structure Config where
  /-- The time limit of a request in milliseconds. -/
  timeout : Int := 5000
  /-- The endpoints by service, in the order in which they were given. -/
  clients : Named Endpoint := []
  registry : Option RegistryAddress := none
  startup : Startup := {}
deriving Repr, DecidableEq, Inhabited

namespace Config

/-- The endpoint of a service, if one is configured. -/
def endpoint? (c : Config) (service : String) : Option Endpoint := c.clients.lookup service

/-- The endpoint of a service, the empty one where none is configured. -/
def endpoint (c : Config) (service : String) : Endpoint := (c.endpoint? service).getD {}

/-- An endpoint with a host is one that was configured. -/
theorem endpoint?_of_host {config : Config} {service : String}
    (hhost : (config.endpoint service).host ≠ "") :
    config.endpoint? service = some (config.endpoint service) := by
  rw [endpoint] at hhost ⊢
  cases hendpoint : config.endpoint? service with
  | some e => rfl
  | none =>
    rw [hendpoint] at hhost
    exact absurd rfl hhost

end Config

/-- The service that keeps the metadata of devices. -/
def metadataService : String := "core-metadata"

/-- The service that keeps the data of devices. -/
def dataService : String := "core-data"

/-- The services that have to be available, in the order in which they are judged. -/
def requiredServices : List String := [metadataService, dataService]

/-- What holds of the metadata and of the data holds of every required service. -/
theorem forall_required {P : String → Prop} (hmetadata : P metadataService)
    (hdata : P dataService) : ∀ k ∈ requiredServices, P k := by
  simp [requiredServices, hmetadata, hdata]

end StartupGate
