import StartupGate.Proofs.Check.Strategy
import StartupGate.Proofs.Check.Workers
import StartupGate.Proofs.Probe.Epoch
/-!
# Readiness checks and the epoch of the clock

Nothing in a readiness check depends on the moment from which its clock counts. Attempts do not: a
strategy that pings services or asks a registry takes its time from the exchanges of the network,
and a scripted one from its scripts (`Strategy.Given`). Therefore probes do not, and neither does
a check of several services, in which every worker starts its timer by its own clock. The main
statement is `CheckAll.independent_of_epoch`.
-/

namespace StartupGate

/-! ## Attempts -/

theorem Step.Epochless.result {α : Type} {s : Step α} (hs : s.Epochless) {w : Worker}
    (hw : w.OnWhole) (k : Int) :
    ∃ x u, u.OnWhole ∧ s w = (x, u) ∧ s (w.shift k) = (x, u.shift k) :=
  ⟨_, _, (hs k w hw).1, rfl, (hs k w hw).2⟩

/-- Every request takes a whole number of seconds. -/
def Http.Network.OnWhole (net : Http.Network) : Prop := ∀ url n, (net url n).elapsed.IsWhole

/-- A registry client whose questions do not depend on the epoch. -/
structure RegistryClient.Epochless (client : RegistryClient) : Prop where
  isAlive : ∀ service, (client.isAlive service).Epochless
  isAvailable : ∀ service, (client.isAvailable service).Epochless

section Network

variable {net : Http.Network}

theorem Http.get_epochless (hnet : net.OnWhole) (url : String) (timeout : Option Float)
    (headers : Option (List (String × String))) : (Http.get net url timeout headers).Epochless := by
  intro k w hw
  -- What was sent before is the same on every clock, and so is the exchange.
  exact Worker.undergo_epochless (hnet url _) _ _ k _ ⟨hw.clock, hw.cancelAt⟩

theorem Http.ping_epochless (hnet : net.OnWhole) (base : String) (timeout : Option Float) :
    (Http.ping net base timeout).Epochless := by
  intro k w hw
  obtain ⟨answer, u, hu, hsent, hmoved⟩ :=
    (get_epochless hnet (pingUrl base) timeout none).result hw k
  simp only [ping, hsent, hmoved]
  cases answer <;> exact ⟨hu, rfl⟩

theorem Strategy.ping_epochless (hnet : net.OnWhole) (config : Config) (service : String) :
    (Strategy.ping net config service).Epochless := by
  intro k w hw
  have hfirst := hw.log .info ("Check " ++ service ++ " service's status by ping...")
  simp only [ping, Worker.log_shift]
  cases config.endpoint? service with
  | none => exact ⟨hfirst.log _ _, rfl⟩
  | some endpoint =>
    simp only
    cases target config endpoint with
    | error f => exact ⟨hfirst, rfl⟩
    | ok target =>
      obtain ⟨url, timeout⟩ := target
      obtain ⟨answer, u, hu, hsent, hmoved⟩ :=
        (Http.ping_epochless hnet url (some timeout)).result hfirst k
      simp only [hsent, hmoved]
      cases answer with
      | error f =>
        simp only
        split
        · exact ⟨hu.log _ _, rfl⟩
        · exact ⟨hu, rfl⟩
      | ok status =>
        simp only
        split
        · exact ⟨hu, rfl⟩
        · exact ⟨hu.log _ _, rfl⟩

theorem Consul.isAlive_epochless (hnet : net.OnWhole) (c : Consul) :
    (c.isAlive net).Epochless := by
  intro k w hw
  obtain ⟨answer, u, hu, hsent, hmoved⟩ :=
    (Http.get_epochless hnet (c.base ++ leaderPath) (some c.timeout) (some c.headers)).result hw k
  simp only [isAlive, request, hsent, hmoved]
  cases answer with
  | ok reply => exact ⟨hu, rfl⟩
  | error f =>
    simp only
    split
    · exact ⟨hu.log _ _, rfl⟩
    · exact ⟨hu, rfl⟩

theorem Consul.isAvailable_epochless (hnet : net.OnWhole) (c : Consul) (service : String) :
    (c.isAvailable net service).Epochless := by
  intro k w hw
  obtain ⟨answer, u, hu, hsent, hmoved⟩ :=
    (Http.get_epochless hnet (c.base ++ catalogPath) (some c.timeout) (some c.headers)).result hw k
  simp only [isAvailable, request, hsent, hmoved]
  cases answer with
  | error f => exact ⟨hu, rfl⟩
  | ok reply =>
    simp only
    cases judgeCatalog service reply with
    | error f => exact ⟨hu, rfl⟩
    | ok found =>
      -- The service is in the catalog, and its health checks are asked for.
      obtain ⟨answer, v, hv, hsent, hmoved⟩ := (Http.get_epochless hnet
        (c.base ++ healthPath service) (some c.timeout) (some c.headers)).result hu k
      simp only [hsent, hmoved]
      cases answer <;> exact ⟨hv, rfl⟩

theorem Consul.client_epochless (hnet : net.OnWhole) (c : Consul) : (c.client net).Epochless where
  isAlive _ := c.isAlive_epochless hnet
  isAvailable := c.isAvailable_epochless hnet

end Network

theorem Strategy.registry_epochless {client : RegistryClient} (hclient : client.Epochless)
    (service : String) : (Strategy.registry client service).Epochless := by
  intro k w hw
  have hfirst := hw.log .info ("Check " ++ service ++ " service's status via Registry...")
  obtain ⟨alive, u, hu, halive, hmoved⟩ := (hclient.isAlive service).result hfirst k
  simp only [registry, Worker.log_shift, halive, hmoved]
  cases alive with
  | error f => exact ⟨hu.log _ _, rfl⟩
  | ok yes =>
    cases yes with
    | false => exact ⟨hu.log _ _, rfl⟩
    | true =>
      obtain ⟨available, v, hv, havailable, hmoved⟩ := (hclient.isAvailable service).result hu k
      simp only [havailable, hmoved]
      cases available with
      | error f => exact ⟨hv.log _ _, rfl⟩
      | ok yes =>
        cases yes with
        | false => exact ⟨hv.log _ _, rfl⟩
        | true => exact ⟨hv, rfl⟩

/-! ## Scripts -/

theorem RegistryClient.play_epochless {scripts : Scripts}
    (h : ∀ p ∈ scripts, ∀ item ∈ p.2, item.elapsed.IsWhole) (question service : String) :
    (play question scripts service).Epochless := by
  intro k w hw
  have hscripts : ∀ script ∈ (scripts.lookup service).or (scripts.lookup "*"),
      ∀ item ∈ script, item.elapsed.IsWhole := by
    intro script hscript
    rcases Option.or_eq_some_iff.mp hscript with hown | ⟨-, hothers⟩
    · exact h _ (Named.mem_of_lookup_eq_some hown)
    · exact h _ (Named.mem_of_lookup_eq_some hothers)
  simp only [play, Worker.play]
  cases hscript : (scripts.lookup service).or (scripts.lookup "*") with
  | none => exact ⟨hw, rfl⟩
  | some script =>
    -- The turn is the same on every clock.
    simp only [Worker.played_shift]
    cases hitem : Script.item? script (w.played.count (question ++ " " ++ service)) with
    | none => exact ⟨⟨hw.clock, hw.cancelAt⟩, rfl⟩
    | some item =>
      have hwhole := hscripts script hscript item (Script.mem_of_item?_eq_some hitem)
      exact Worker.undergo_epochless hwhole _ _ k _ ⟨hw.clock, hw.cancelAt⟩

theorem Strategy.scripted_epochless {scripts : List (String × List Attempt)}
    (h : ∀ p ∈ scripts, ∀ a ∈ p.2, a.elapsed.IsWhole) (service : String) :
    (Strategy.scripted scripts service).Epochless := by
  intro k w hw
  simp only [scripted, Worker.play]
  cases hscript : scripts.lookup service with
  | none => exact ⟨⟨hw.clock, hw.cancelAt⟩, rfl⟩
  | some script =>
    simp only [Worker.played_shift]
    cases hattempt : Script.item? script (w.played.count ("attempt " ++ service)) with
    | none => exact ⟨⟨hw.clock, hw.cancelAt⟩, rfl⟩
    | some a =>
      have hwhole := h _ (Named.mem_of_lookup_eq_some hscript) a
        (Script.mem_of_item?_eq_some hattempt)
      exact Worker.undergo_epochless hwhole _ _ k _ ⟨hw.clock, hw.cancelAt⟩

/-! ## Given behaviour -/

/-- What a registry client does is given in whole seconds: by a script for each question, by
requests over a network, or in any other way that does not look at the clock. -/
inductive RegistryClient.Given : RegistryClient → Prop where
  | scripts {alive available : Scripts}
      (halive : ∀ p ∈ alive, ∀ item ∈ p.2, item.elapsed.IsWhole)
      (havailable : ∀ p ∈ available, ∀ item ∈ p.2, item.elapsed.IsWhole) :
      Given (scripted alive available)
  | requests {net : Http.Network} (hnet : net.OnWhole) (c : Consul) : Given (c.client net)
  | epochless {client : RegistryClient} (h : client.Epochless) : Given client

/-- What a strategy does is given in whole seconds: by a script of attempts, by requests over a
network, by the questions to a registry, or in any other way that does not look at the clock. -/
inductive Strategy.Given : Strategy → Prop where
  | scripts {scripts : List (String × List Attempt)}
      (h : ∀ p ∈ scripts, ∀ a ∈ p.2, a.elapsed.IsWhole) : Given (scripted scripts)
  | requests {net : Http.Network} (hnet : net.OnWhole) (config : Config) : Given (ping net config)
  | questions {client : RegistryClient} (h : client.Given) : Given (registry client)
  | epochless {strategy : Strategy} (h : ∀ service, (strategy service).Epochless) : Given strategy

theorem RegistryClient.Given.isEpochless {client : RegistryClient} (h : client.Given) :
    client.Epochless := by
  cases h with
  | scripts halive havailable =>
    refine ⟨play_epochless halive "alive", fun service k w hw => ?_⟩
    exact play_epochless havailable "available" service k _ ⟨hw.clock, hw.cancelAt⟩
  | requests hnet c => exact c.client_epochless hnet
  | epochless h => exact h

theorem Strategy.Given.isEpochless {strategy : Strategy} (h : strategy.Given) (service : String) :
    (strategy service).Epochless := by
  cases h with
  | scripts h => exact scripted_epochless h service
  | requests hnet config => exact ping_epochless hnet config service
  | questions h => exact registry_epochless h.isEpochless service
  | epochless h => exact h service

/-! ## Checks of several services -/

namespace CheckAll

/-- The report of a worker on a moved clock. -/
def Report.shift (k : Int) (r : Report) : Report := { r with worker := r.worker.shift k }

/-- The answer of a check on a moved clock: the verdict, the messages and the results are the
same. -/
def Answer.shift (k : Int) (a : Answer) : Answer :=
  { a with reports := a.reports.map (Report.shift k) }

variable {strategy : Strategy} {pace : Pace} {initial : String → Worker} {k : Int}

section

variable (hstrategy : ∀ service, (strategy service).Epochless) (hduration : pace.duration.IsWhole)
  (hinterval : pace.interval.IsWhole) (hinitial : ∀ service, (initial service).OnWhole)
include hduration hinterval hinitial

/-- The timer of a worker starts by the clock of the worker, and so it is moved along. -/
theorem start_shifted (k : Int) (service : String) :
    (pace.start (initial service).clock).watch.Shifted k
      (pace.start ((initial service).shift k).clock).watch :=
  Timer.watch_shifted (hinitial service).clock hduration hinterval k

include hstrategy

theorem probe_shift (k : Int) (service : String) :
    Probe.run service (pace.start ((initial service).shift k).clock).watch strategy
        ((initial service).shift k)
      = (Probe.run service (pace.start (initial service).clock).watch strategy
          (initial service)).map (Prod.map id (Worker.shift k)) := by
  have hthere := start_shifted hduration hinterval hinitial k service
  -- The worker on the moved clock is one like any other, and can be moved back.
  have hback := start_shifted hduration hinterval (fun service => (hinitial service).shift k) (-k)
    service
  rw [Worker.shift_neg_shift] at hback
  exact Probe.run_shift hthere hback (hstrategy service) (hinitial service)

theorem runWorker_shift (k : Int) (service : String) :
    runWorker pace.factory strategy (fun service => (initial service).shift k) service
      = (runWorker pace.factory strategy initial service).map (Report.shift k) := by
  have hprobe := probe_shift hstrategy hduration hinterval hinitial k service
  simp only [runWorker, Pace.factory, hprobe, Option.map_map]
  rfl

end

theorem mapM_map {α β γ : Type} (f : α → Option β) (g : β → γ) (l : List α) :
    l.mapM (fun a => (f a).map g) = (l.mapM f).map (List.map g) := by
  induction l with
  | nil => rfl
  | cons a rest ih =>
    rw [List.mapM_cons, List.mapM_cons, ih]
    cases f a with
    | none => rfl
    | some b => cases rest.mapM f <;> rfl

/-- What a check makes of its reports does not depend on the clocks of the workers. -/
theorem collect_shift (k : Int) (services : List String) (completed : List Report) :
    collect services (completed.map (Report.shift k))
      = (collect services completed).map (Answer.shift k) := by
  have houtcomes : outcomes (completed.map (Report.shift k)) = outcomes completed := by
    rw [outcomes, outcomes, List.map_map]
    rfl
  have hfailures : (completed.map (Report.shift k)).filterMap Report.failure?
      = completed.filterMap Report.failure? := by
    rw [List.filterMap_map]
    rfl
  rw [collect, collect, houtcomes, hfailures]
  cases summary services (outcomes completed) <;> rfl

/-- **A check does not depend on the epoch of its clock.** Attempts, requests and questions are
given in whole seconds, as are the clocks of the workers, the times from which on cancellation is
observed, and the pace of the timers.

On a clock that is moved, a probe ends or does not end as before, with the same outcome or fault,
and it makes the same attempts. The worker that it leaves is the same but for the clock, which is
moved by just as much: it logged the same messages, sent the same requests and slept as often. A
check of several services comes to the same verdict, in the same messages. -/
theorem independent_of_epoch (hstrategy : strategy.Given) (hduration : pace.duration.IsWhole)
    (hinterval : pace.interval.IsWhole) (hinitial : ∀ service, (initial service).OnWhole)
    (k : Int) :
    (∀ service,
      Probe.run service (pace.start ((initial service).shift k).clock).watch strategy
          ((initial service).shift k)
        = (Probe.run service (pace.start (initial service).clock).watch strategy
            (initial service)).map (Prod.map id (Worker.shift k)) ∧
      ∀ made result last,
        Probe.Course service (pace.start (initial service).clock).watch strategy (initial service)
          made result last →
        Probe.Course service (pace.start ((initial service).shift k).clock).watch strategy
          ((initial service).shift k) (made.map (Probe.Attempt.shift k)) result (last.shift k)) ∧
    ∀ completion services,
      run completion services pace.factory strategy (fun service => (initial service).shift k)
        = (run completion services pace.factory strategy initial).map
            (Except.map (Answer.shift k)) := by
  have hepochless := hstrategy.isEpochless
  refine ⟨fun service => ⟨?probe, ?course⟩, fun completion services => ?check⟩
  case probe => exact probe_shift hepochless hduration hinterval hinitial k service
  case course =>
    intro made result last hcourse
    exact hcourse.shift (start_shifted hduration hinterval hinitial k service) (hepochless service)
      (hinitial service)
  case check =>
    have hworkers := runWorker_shift hepochless hduration hinterval hinitial k
    simp only [run]
    split
    · rfl
    · rw [funext hworkers, mapM_map, Option.map_map, Option.map_map]
      exact congrArg (Option.map · _) (funext (collect_shift k _))

/-- A service that is not ready, and that takes two seconds to say so. -/
def busy : Http.Network := .ofScripts
  [("http://d:59880/api/v2/ping", [{ elapsed := .whole 2, answer := .ok { status := 503 } }])]

/-- Pings of this service. -/
def pingBusy : Strategy :=
  Strategy.ping busy { clients := [("core-data", { host := "d", port := 59880 })] }

/-- Ten seconds, with three between two attempts. -/
def tenSeconds : Pace := ⟨.whole 10, .whole 3⟩

/-- Workers that are told to stop four seconds after they begin. -/
def stopped : String → Worker := fun _ => { clock := .whole 100, cancelAt := some (.whole 104) }

/-- One attempt of two seconds and a sleep of three, then the cancel flag is seen: at 105 by the
clock, and a thousand seconds earlier by the moved one. -/
theorem independent_of_epoch_stopped :
    pingBusy.Given ∧ (∀ service, (stopped service).OnWhole) ∧
      (∃ last, Probe.run "core-data" (tenSeconds.start (.whole (-900))).watch pingBusy
          ((stopped "core-data").shift (-1000)) = some (.ok .cancelled, last) ∧
        last.clock = .whole (-895) ∧ last.sleeps = 1 ∧ last.calls.length = 1 ∧
        last.logs.map (·.severity) = [.info, .error, .warning]) ∧
      ∃ a, run id ["core-data"] tenSeconds.factory pingBusy
          (fun service => (stopped service).shift (-1000)) = some (.ok a) ∧ a.ready = false := by
  have hbusy : busy.OnWhole := by
    refine Http.Network.ofScripts_induction (P := fun e => e.elapsed.IsWhole) ?_ fun _ => ⟨0, rfl⟩
    intro p hp e he
    obtain rfl := List.mem_singleton.mp hp
    obtain rfl := List.mem_singleton.mp he
    exact ⟨2, rfl⟩
  have hgiven : pingBusy.Given := .requests hbusy _
  have hwhole : ∀ service, (stopped service).OnWhole := by
    refine fun service => ⟨⟨100, rfl⟩, fun t ht => ⟨104, ?_⟩⟩
    exact (Option.some.inj ht).symm
  have hcourse : ∃ made last, last.clock = .whole 105 ∧ last.sleeps = 1 ∧ last.calls.length = 1 ∧
      last.logs.map (·.severity) = [.info, .error, .warning] ∧
      Probe.Course "core-data" (tenSeconds.start (stopped "core-data").clock).watch pingBusy
        (stopped "core-data") made (.ok .cancelled) last :=
    ⟨_, _, rfl, rfl, rfl, rfl, .again rfl rfl rfl rfl rfl (.cancelled rfl rfl)⟩
  obtain ⟨made, last, hclock, hsleeps, hcalls, hlogs, hcourse⟩ := hcourse
  have hworker : runWorker tenSeconds.factory pingBusy stopped "core-data"
      = some ⟨"core-data", .ok .cancelled, last⟩ :=
    runWorker_factory_iff.mpr ⟨rfl, made, hcourse⟩
  have hcheck : ∃ a, run id ["core-data"] tenSeconds.factory pingBusy stopped = some (.ok a) ∧
      a.ready = false := by
    simp only [run, distinct, List.filter_nil, id, List.mapM_cons, List.mapM_nil, hworker]
    exact ⟨_, rfl, rfl⟩
  obtain ⟨a, hrun, hready⟩ := hcheck
  have hduration : tenSeconds.duration.IsWhole := ⟨10, rfl⟩
  have hinterval : tenSeconds.interval.IsWhole := ⟨3, rfl⟩
  obtain ⟨hprobes, hchecks⟩ := independent_of_epoch hgiven hduration hinterval hwhole (-1000)
  refine ⟨hgiven, hwhole, ⟨last.shift (-1000), ?_, ?_, hsleeps, hcalls, hlogs⟩,
    a.shift (-1000), ?_, hready⟩
  · have hmoved := (hprobes "core-data").1
    rw [hcourse.run_eq] at hmoved
    exact hmoved
  · exact Worker.clock_shift hclock (-1000)
  · rw [hchecks, hrun]
    rfl

end CheckAll

end StartupGate
