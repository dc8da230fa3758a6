import StartupGate.Proofs.Check.Ping
import StartupGate.Proofs.Check.Requests
import StartupGate.Proofs.Gate.Attempts
import StartupGate.Proofs.Gate.Timeliness
/-!
# Strategies are never mixed

Which of the two strategies a check uses is settled once, by whether there is a registry client, and
shows in every request of every worker. With a client no service is pinged. Without one every
request is a ping of the endpoint that is configured for the service of the worker. The main
statement is `Gate.requests_of_check`.
-/

namespace StartupGate

/-! ## Pings among the calls -/

/-- The call is a request to a ping route, of whatever service. -/
def Call.IsPing (call : Call) : Prop :=
  ∃ base timeout headers, call = .get (Http.pingUrl base) timeout headers

theorem getLast?_append_path (base : String) {path : String} {last : Char}
    (h : path.toList.getLast? = some last) : (base ++ path).toList.getLast? = some last := by
  rw [String.toList_append, List.getLast?_append, h, Option.some_or]

theorem Http.getLast?_pingUrl (base : String) : (pingUrl base).toList.getLast? = some 'g' :=
  getLast?_append_path _ (by decide)

/-- None of the paths that a registry is asked for is a ping route. -/
theorem Consul.not_isPing {c : Consul} {service : String} (hservice : service ∈ requiredServices)
    {call : Call} (hcall : call ∈ c.requests service) : ¬ call.IsPing := by
  -- An address ends as its path does, and a ping route ends in a character in which none of these
  -- paths ends. The base address plays no part in this, be it empty or not.
  have hhealth : ∀ k ∈ requiredServices, (healthPath k).toList.getLast? = some 'a' := by decide
  have hpaths : ∀ path ∈ [leaderPath, catalogPath, healthPath service],
      ∃ last, path.toList.getLast? = some last ∧ last ≠ 'g' := by
    simp only [List.forall_mem_cons]
    exact ⟨⟨'r', by decide, by decide⟩, ⟨'s', by decide, by decide⟩,
      ⟨'a', hhealth service hservice, by decide⟩, by simp⟩
  rintro ⟨base, timeout, headers, rfl⟩
  obtain ⟨path, hpath, hurl⟩ : ∃ path ∈ [leaderPath, catalogPath, healthPath service],
      Http.pingUrl base = c.base ++ path := by
    simp only [requests, Consul.call, List.mem_cons, Call.get.injEq, List.not_mem_nil,
      or_false] at hcall
    rcases hcall with ⟨hurl, -⟩ | ⟨hurl, -⟩ | ⟨hurl, -⟩
    · exact ⟨_, by simp, hurl⟩
    · exact ⟨_, by simp, hurl⟩
    · exact ⟨_, by simp, hurl⟩
  obtain ⟨last, hlast, hne⟩ := hpaths path hpath
  have hping := Http.getLast?_pingUrl base
  rw [hurl, getLast?_append_path c.base hlast] at hping
  exact hne (Option.some.inj hping)

/-! ## What a single attempt asked for -/

namespace Probe.Attempt

variable (x : Attempt) (service : String)

/-- The attempt recorded what the questions of the client recorded, and nothing else. -/
def AsksClient (client : RegistryClient) : Prop :=
  x.after.calls = (client.isAlive service (Strategy.asking service x.before)).2.calls ∨
    ∃ u, client.isAlive service (Strategy.asking service x.before) = (.ok true, u) ∧
      x.after.calls = (client.isAvailable service u).2.calls

/-- The attempt sent the first few of three requests below a base address, at least one of them,
each with the time limit, and with the token exactly where there is one that is not empty. None of
them is a ping. -/
structure AsksConsul (base : String) (token : Option String) (timeout : Float)
    (sent : List Call) : Prop where
  recorded : x.before.Recorded x.after sent
  nonempty : sent ≠ []
  inOrder : ∃ headers, (∀ name value, (name, value) ∈ headers ↔
      name = "X-Consul-Token" ∧ token = some value ∧ value ≠ "") ∧
    sent <+:
      [Call.get (Text.dropSlashes base ++ "/v1/status/leader") (some timeout) (some headers),
       Call.get (Text.dropSlashes base ++ "/v1/catalog/services") (some timeout) (some headers),
       Call.get (Text.dropSlashes base ++ ("/v1/health/checks/" ++ service)) (some timeout)
         (some headers)]
  noPing : ∀ call ∈ sent, ¬ call.IsPing

/-- Every request of the attempt was a ping of the configured endpoint of the service, with the time
limit of the configuration in seconds and without headers. There was one of them where there is an
endpoint with an address and such a time limit. -/
structure PingsEndpoint (config : Config) (sent : List Call) : Prop where
  recorded : x.before.Recorded x.after sent
  endpoint : ∀ call ∈ sent, ∃ endpoint url timeout, config.endpoint? service = some endpoint ∧
    endpoint.url = .ok url ∧ Consul.secondsOfMillis config.timeout = .ok timeout ∧
    call = .get (Http.pingUrl url) (some timeout) none
  once : ∀ endpoint url timeout, config.endpoint? service = some endpoint → endpoint.url = .ok url →
    Consul.secondsOfMillis config.timeout = .ok timeout → sent.length = 1

/-- The attempt is what a strategy makes of the state in which it begins. -/
def Of (strategy : Strategy) : Prop := strategy service x.before = (x.answer, x.after)

variable {x service}

theorem Of.asksClient {client : RegistryClient} (h : x.Of service (Strategy.registry client)) :
    x.AsksClient service client := by
  have hcalls := Strategy.calls_registry client service x.before
  rwa [h] at hcalls

theorem Of.exists_asksConsul {base : String} {token : Option String} {timeout : Float}
    {net : Http.Network} (hservice : service ∈ requiredServices)
    (h : x.Of service (Strategy.registry ((Consul.of base token timeout).client net))) :
    ∃ sent, x.AsksConsul service base token timeout sent := by
  obtain ⟨sent, hrecorded, hnonempty, hfirst⟩ :=
    (Consul.of base token timeout).exists_recorded_registry net service x.before
  rw [h] at hrecorded
  exact ⟨sent, hrecorded, hnonempty,
    ⟨_, fun _ _ => Consul.mem_headers_of base token timeout, hfirst⟩,
    fun call hcall => Consul.not_isPing hservice (hfirst.subset hcall)⟩

theorem Of.exists_pingsEndpoint {config : Config} {net : Http.Network}
    (h : x.Of service (Strategy.ping net config)) :
    ∃ sent, x.PingsEndpoint service config sent := by
  have hrecorded := Strategy.ping_recorded net config service x.before
  rw [h] at hrecorded
  refine ⟨_, hrecorded, ?endpoint, ?once⟩
  case endpoint =>
    intro call hcall
    rw [Config.pings] at hcall
    split at hcall
    · rename_i endpoint timeout hendpoint hseconds
      split at hcall
      · rename_i hfits
        exact ⟨endpoint, _, timeout, hendpoint, Endpoint.url_eq_ok_iff.mpr ⟨hfits, rfl⟩, hseconds,
          List.mem_singleton.mp hcall⟩
      · exact absurd hcall List.not_mem_nil
    · -- Without an endpoint or a time limit nothing is sent.
      exact absurd hcall List.not_mem_nil
  case once =>
    intro endpoint url timeout hendpoint hurl hseconds
    rw [Config.pings, hendpoint, hseconds]
    simp only [if_pos (Endpoint.url_eq_ok_iff.mp hurl).1, List.length_singleton]

end Probe.Attempt

/-! ## Workers with silent timers -/

/-- Neither the timers nor how they come about record calls. -/
structure TimerFactory.Silent (timers : TimerFactory) : Prop where
  start : ∀ k (w : Worker), w.Recorded (timers k w).2 []
  watch : ∀ {k w watch u}, timers k w = (.ok watch, u) → watch.Silent

theorem Pace.factory_silent (p : Pace) : p.factory.Silent where
  start _ _ := Worker.recorded_nil rfl
  watch := by
    intro k w watch u h
    obtain rfl := Except.ok.inj (Prod.mk.inj h).1
    exact Timer.watch_silent _

/-- What a worker with a silent timer asked for is what its attempts asked for, in their order. -/
theorem CheckAll.Report.Ran.recorded {timers : TimerFactory} {strategy : Strategy}
    {initial : String → Worker} {r : Report} {made : List Probe.Attempt}
    (hsilent : timers.Silent)
    (hkeeps : ∀ service (u : Worker), ∃ sent, u.Recorded (strategy service u).2 sent)
    (h : r.Ran timers strategy initial made) :
    (initial r.service).Recorded r.worker (made.flatMap Probe.Attempt.calls) := by
  cases h with
  | @untimed service f w htimer =>
    -- No attempt was made, and coming by the timer records nothing.
    have hstart := hsilent.start service (initial service)
    rw [htimer] at hstart
    exact hstart
  | @probed service watch w last made result htimer hcourse =>
    have hstart := hsilent.start service (initial service)
    rw [htimer] at hstart
    exact hstart.trans (hcourse.recorded (hsilent.watch htimer) (hkeeps service))

/-! ## The gate -/

namespace Gate

/-- The registry client of a check asks Consul over a network, or there is none. -/
def IsConsulOrNone (registry : Option RegistryClient) : Prop :=
  ∀ client ∈ registry, ∃ base token timeout net,
    client = (Consul.of base token timeout).client net

theorem IsConsulOrNone.exists_recorded {registry : Option RegistryClient}
    (h : IsConsulOrNone registry) (net : Http.Network) (config : Config) (service : String)
    (u : Worker) : ∃ sent, u.Recorded (Strategy.select net config registry service u).2 sent := by
  cases registry with
  | none => exact ⟨_, Strategy.ping_recorded net config service u⟩
  | some client =>
    obtain ⟨base, token, timeout, net', rfl⟩ := h client rfl
    obtain ⟨sent, hsent, -⟩ :=
      (Consul.of base token timeout).exists_recorded_registry net' service u
    exact ⟨sent, hsent⟩

/-- Where the probe of every required service has a course, there is an answer, with a report for
each of them whose worker recorded the calls of this course. -/
theorem exists_reports_of_courses {p : Pace} {net : Http.Network} {config : Config}
    {registry : Option RegistryClient} {outcome : Outcome} {calls : String → List Call}
    (hgap : config.firstGap? requiredServices = none)
    (hcourse : ∀ k ∈ requiredServices, ∃ made last, Probe.Course k (p.start (.whole 0)).watch
      (Strategy.select net config registry) {} made (.ok outcome) last ∧ last.calls = calls k) :
    ∃ a, check List.reverse p.factory net config registry (fun _ => {}) {} = some a ∧
      ∀ k ∈ requiredServices, ∃ r ∈ a.reports, r.service = k ∧ r.worker.calls = calls k := by
  -- The workers come to an end, so that the check has an answer.
  have hcomes : ∀ k ∈ requiredServices, ∃ result, CheckAll.ComesTo p.factory
      (Strategy.select net config registry) (fun _ => {}) k result := by
    intro k hk
    obtain ⟨made, last, hcourse, -⟩ := hcourse k hk
    exact ⟨_, .probed rfl hcourse.run_eq⟩
  obtain ⟨all, hcheck, -⟩ := exists_check_eq_conclude List.reverse_perm hgap hcomes {}
  refine ⟨_, hcheck, fun k hk => ?_⟩
  obtain ⟨r, hr, hrun⟩ := exists_report_of_check List.reverse_perm hgap hcheck hk
  -- The probe of this worker has the course above and no other.
  obtain ⟨made, last, hcourse, hlast⟩ := hcourse k hk
  obtain ⟨hservice, made', hcourse'⟩ := CheckAll.runWorker_factory_iff.mp hrun
  obtain ⟨-, -, rfl⟩ := hcourse.unique hcourse'
  exact ⟨r, hr, hservice, hlast⟩

/-- A registry that has no leader at first, and no catalog to give once it has one. -/
def failingRegistry : Http.Network := .ofScripts
  [("http://c:8500/v1/status/leader",
     [{ answer := .ok { status := 500 } },
      { answer := .ok { status := 200, body := "\"c:8300\"" } }]),
   ("http://c:8500/v1/catalog/services", [{ answer := .ok { status := 503 } }])]

/-- A client with a token that asks this registry. -/
def failingClient : RegistryClient :=
  (Consul.of "http://c:8500/" (some "t") 5).client failingRegistry

/-- What a worker asks this registry for in two attempts. -/
def failingCalls : List Call :=
  ["http://c:8500/v1/status/leader", "http://c:8500/v1/status/leader",
    "http://c:8500/v1/catalog/services"].map fun url =>
      .get url (some 5) (some [("X-Consul-Token", "t")])

theorem exists_course_failingRegistry :
    ∀ k ∈ requiredServices, ∃ made last, Probe.Course k
        ((Pace.mk (.whole 2) (.whole 1)).start (.whole 0)).watch
        (Strategy.select promptAnswers bothConfigured (some failingClient)) {} made
        (.ok .timedOut) last ∧ last.calls = failingCalls := by
  apply forall_required
  · exact ⟨_, _, .again rfl rfl rfl rfl rfl (.again rfl rfl rfl rfl rfl (.timedOut rfl)), rfl⟩
  · exact ⟨_, _, .again rfl rfl rfl rfl rfl (.again rfl rfl rfl rfl rfl (.timedOut rfl)), rfl⟩

/-- The first request to every address fails, the second one succeeds. -/
def secondAnswers : Http.Network := fun _ n =>
  { answer := .ok { status := if n = 0 then 503 else 200 } }

theorem exists_course_secondAnswers {timeout : Float}
    (htimeout : Consul.secondsOfMillis bothConfigured.timeout = .ok timeout) :
    ∀ k ∈ requiredServices, ∃ made last, Probe.Course k
        ((Pace.mk (.whole 2) (.whole 1)).start (.whole 0)).watch
        (Strategy.select secondAnswers bothConfigured none) {} made (.ok .available) last ∧
      last.calls = [bothConfigured.pingCall k timeout, bothConfigured.pingCall k timeout] := by
  obtain rfl := Except.ok.inj htimeout
  apply forall_required
  · exact ⟨_, _, .again rfl rfl rfl rfl rfl (.settled rfl rfl rfl rfl), rfl⟩
  · exact ⟨_, _, .again rfl rfl rfl rfl rfl (.settled rfl rfl rfl rfl), rfl⟩

end Gate

end StartupGate
