import StartupGate.Check.Probe
/-!
# Checking several services

`CheckAll.run` probes every service, each in a worker of its own with a timer of its own, and tells
whether all of them are available. The workers do not influence each other: the report of a service
is that of its worker run alone. Outcomes are collected by service in the order in which the workers
complete, which may be any, and the summary lists them in the order of the request.

A check waits for every worker. It has no answer where one of them never ends, and ends in a fault
where the outcome of a service is looked up that was not collected.
-/

namespace StartupGate

/-- How the worker of a service comes by its timer, which may fail. -/
abbrev TimerFactory := (service : String) → Step Watch

/-- The factory that starts timers of a pace. -/
def Pace.factory (p : Pace) : TimerFactory := fun _ w => (.ok (p.start w.clock).watch, w)

namespace CheckAll

/-- The services of a request, each once and in the order of first mention. -/
def distinct : List String → List String
  | [] => []
  | k :: rest => k :: (distinct rest).filter (· != k)

/-- What became of one worker. -/
structure Report where
  service : String
  result : Except Fault Outcome
  worker : Worker

/-- Runs the worker of a service from its initial state. -/
def runWorker (timers : TimerFactory) (strategy : Strategy) (initial : String → Worker)
    (service : String) : Option Report :=
  match timers service (initial service) with
  | (.error f, w) => some { service, result := .error f, worker := w }
  | (.ok watch, w) =>
    (Probe.run service watch strategy w).map fun (result, w) => { service, result, worker := w }

/-- The outcome of a worker: one that ended in a fault has failed. -/
def Report.outcome (r : Report) : Outcome :=
  match r.result with
  | .ok o => o
  | .error _ => .failed

/-- The message about a worker that ended in a fault. -/
def Report.failure? (r : Report) : Option Log.Entry :=
  match r.result with
  | .ok _ => none
  | .error f =>
    some ⟨.error, "dependency " ++ r.service ++ " service checking failed: " ++ f.text⟩

/-- The outcomes of workers by service, collected one after the other. -/
def outcomes (completed : List Report) : Named Outcome :=
  Named.assignAll [] (completed.map fun r => (r.service, r.outcome))

/-- The entry of the summary for a service. -/
def entry (found : Named Outcome) (service : String) : Except Fault String :=
  match found.lookup service with
  | some o => .ok (service ++ "=" ++ o.name)
  | none => .error (.missingKey (some service))

/-- The message that lists the outcome of each service. -/
def summary (services : List String) (found : Named Outcome) : Except Fault Log.Entry := do
  let entries ← services.mapM (entry found)
  return ⟨.debug, "dependency check outcomes: " ++ ", ".intercalate entries⟩

/-- The verdict, the messages and the reports of a check. -/
structure Answer where
  ready : Bool
  logs : List Log.Entry
  reports : List Report

/-- Sums up the reports of the workers, given in the order of completion. -/
def collect (services : List String) (completed : List Report) : Except Fault Answer := do
  let found := outcomes completed
  let summary ← summary services found
  return {
    ready := found.all fun e => e.2 == .available
    logs := completed.filterMap Report.failure? ++ [summary]
    reports := completed }

/-- Checks services; `completion` reorders the workers into the order in which they complete. -/
def run (completion : List String → List String) (services : List String) (timers : TimerFactory)
    (strategy : Strategy) (initial : String → Worker) : Option (Except Fault Answer) :=
  let services := distinct services
  if services.isEmpty then some (.ok { ready := true, logs := [], reports := [] })
  else
    ((completion services).mapM (runWorker timers strategy initial)).map (collect services)

end CheckAll

end StartupGate
