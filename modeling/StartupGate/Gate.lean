import StartupGate.Check.Coordinator
import StartupGate.Client.Directory
/-!
# The startup gate

The gate waits until the required services are available and then publishes their clients.
`Config.firstGap?` finds the first setting that is missing for a required service; with a gap the
gate stays shut at once. Otherwise every service is checked, and the directory of clients is changed
only when all of them are available and their base addresses can be written.
-/

namespace StartupGate

/-- A setting that a client cannot do without. -/
inductive Setting where
  | host
  | port
deriving Repr, DecidableEq

/-- The name of a setting. -/
def Setting.name : Setting → String
  | .host => "Host"
  | .port => "Port"

/-- A missing setting of a service. -/
structure Gap where
  service : String
  setting : String
deriving Repr, DecidableEq

/-- The wording of a missing setting. -/
def Gap.message (g : Gap) : String :=
  "fatal error; " ++ g.setting ++ " setting for " ++ g.service ++ " client not configured"

/-- The setting that an endpoint lacks. The host is judged first. -/
def Endpoint.missing? (e : Endpoint) : Option Setting :=
  if e.host = "" then some .host
  else if e.port = 0 then some .port
  else none

/-- The first setting that is missing for the services of a list. -/
def Config.firstGap? (c : Config) (required : List String) : Option Gap :=
  required.findSome? fun service =>
    (c.endpoint service).missing?.map fun s => { service, setting := s.name }

/-! ## The gate -/

namespace Gate

/-- What the gate answers: whether it opens or the fault that it ends in, the messages of the caller,
the reports of the workers, and the directory of clients. -/
structure Answer where
  ready : Except Fault Bool
  logs : List Log.Entry
  reports : List CheckAll.Report
  clients : Directory

/-- The answer of the gate to a check of the required services that came to its end. -/
def conclude (config : Config) (clients : Directory) (all : CheckAll.Answer) : Answer :=
  let shut : Answer := { ready := .ok false, logs := all.logs, reports := all.reports, clients }
  if all.ready then
    match clients.publish config with
    | .ok published =>
      { shut with
        ready := .ok true
        logs := all.logs ++ [⟨.info, "Service clients initialize successful."⟩]
        clients := published }
    | .error f => { shut with ready := .error f }
  else shut

/-- The answer of the gate to what a check of the required services came to. -/
def answer (config : Config) (clients : Directory) : Except Fault CheckAll.Answer → Answer
  | .ok all => conclude config clients all
  | .error f => { ready := .error f, logs := [], reports := [], clients }

/-- Checks the required services and publishes their clients. There is no answer where a worker
never ends. -/
def check (completion : List String → List String) (timers : TimerFactory) (net : Http.Network)
    (config : Config) (registry : Option RegistryClient) (initial : String → Worker)
    (clients : Directory) : Option Answer :=
  match config.firstGap? requiredServices with
  | some gap =>
    some { ready := .ok false, logs := [⟨.error, gap.message⟩], reports := [], clients }
  | none =>
    let strategy := Strategy.select net config registry
    (CheckAll.run completion requiredServices timers strategy initial).map (answer config clients)

end Gate

end StartupGate
