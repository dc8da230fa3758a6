import StartupGate.Proofs.Check.Ping
import StartupGate.Proofs.Gate.Attempts
import StartupGate.Proofs.Gate.Timeliness
/-!
# Missing settings are found before the first attempt

The gate judges the settings of the required services once, and a ping looks the endpoint up again
in every attempt. The two agree (`Gate.settings_decide`): with complete settings no attempt finds a
service misconfigured, in whatever state it begins, and with a missing setting the gate answers at
once, with one message that names the first setting that is missing.
-/

namespace StartupGate

/-! ## The first missing setting -/

/-- `setting` is missing for `service`, and nothing is missing for the required services that are
judged before it. A missing host is found before a missing port. -/
structure Config.FirstMissing (c : Config) (service : String) (setting : Setting) : Prop where
  earlier : ∃ before after, requiredServices = before ++ service :: after ∧
    ∀ k ∈ before, (c.endpoint k).host ≠ "" ∧ (c.endpoint k).port ≠ 0
  missing : setting = .host ∧ (c.endpoint service).host = "" ∨
    setting = .port ∧ (c.endpoint service).host ≠ "" ∧ (c.endpoint service).port = 0

theorem Config.exists_firstMissing {c : Config} {gap : Gap}
    (h : c.firstGap? requiredServices = some gap) :
    ∃ setting, c.FirstMissing gap.service setting ∧ gap.setting = setting.name := by
  obtain ⟨before, after, setting, hsplit, hbefore, hmissing, hname⟩ := firstGap?_eq_some_iff.mp h
  exact ⟨setting, ⟨⟨before, after, hsplit, hbefore⟩, Endpoint.missing?_eq_some_iff.mp hmissing⟩,
    hname⟩

/-! ## Misconfigured services -/

theorem Strategy.ping_eq_misconfigured_iff {net : Http.Network} {config : Config}
    {service : String} {w : Worker} :
    (ping net config service w).1 = .ok .misconfigured ↔ config.endpoint? service = none := by
  simp only [ping]
  split
  · rename_i hendpoint
    exact iff_of_true rfl hendpoint
  · rename_i endpoint hendpoint
    refine iff_of_false ?_ (by simp [hendpoint])
    intro h
    -- Every other way to end has a verdict of its own, or is a fault: an address that cannot be
    -- written or a time limit that cannot be told in seconds, a request without answer, an answer.
    split at h
    · cases h
    split at h
    all_goals split at h <;> cases h

/-- A worker ends misconfigured by an attempt that finds its service misconfigured. -/
theorem CheckAll.Report.Ran.exists_misconfigured {timers : TimerFactory} {strategy : Strategy}
    {initial : String → Worker} {r : Report} {made : List Probe.Attempt}
    (h : r.Ran timers strategy initial made) (hmisconfigured : r.outcome = .misconfigured) :
    ∃ x ∈ made, x.answer = .ok .misconfigured := by
  cases h with
  | untimed => cases hmisconfigured
  | @probed service watch w last made result _ hcourse =>
    cases result with
    | error f => cases hmisconfigured
    | ok o =>
      obtain rfl : o = .misconfigured := hmisconfigured
      -- Neither the deadline nor the cancel flag ended the probe, so an attempt did.
      rcases hcourse.exists_verdict_of_ok with h | h | ⟨x, hx, d, hanswer, hverdict⟩
      · cases h
      · cases h
      · obtain rfl : d = .misconfigured := by
          cases d <;> simp_all [Verdict.outcome?]
        exact ⟨x, hx, hanswer⟩

/-! ## The gate -/

namespace Gate

theorem ping_ne_misconfigured {config : Config} (hgap : config.firstGap? requiredServices = none)
    {k : String} (hk : k ∈ requiredServices) (net : Http.Network) (w : Worker) :
    (Strategy.ping net config k w).1 ≠ .ok .misconfigured := by
  rw [ne_eq, Strategy.ping_eq_misconfigured_iff,
    Config.endpoint?_of_host (Config.firstGap?_eq_none_iff.mp hgap k hk).1]
  exact Option.some_ne_none _

/-- **The settings decide before the first attempt whether a service is misconfigured.** Where none
is missing, no attempt that pings a required service finds it misconfigured, whatever the network
answers and in whatever state the attempt begins, and no worker behind an answer ends misconfigured.
Where one is missing, the gate stays shut at once, for all timers, networks, registry clients and
workers alike: there is no worker, the directory is what it was, and the only message names the
first setting that is missing. -/
theorem settings_decide (config : Config) :
    (config.firstGap? requiredServices = none →
      (∀ k ∈ requiredServices, ∀ net w,
        (Strategy.select net config none k w).1 ≠ .ok .misconfigured) ∧
      ∀ (completion : List String → List String) (timers : TimerFactory) (net : Http.Network)
        (initial : String → Worker) (clients : Directory) (a : Answer),
        (∀ l, (completion l).Perm l) →
        check completion timers net config none initial clients = some a →
        ∀ r ∈ a.reports, r.outcome ≠ .misconfigured ∧
          ∃ made, r.Ran timers (Strategy.select net config none) initial made ∧
            ∀ x ∈ made, x.answer ≠ .ok .misconfigured) ∧
    ∀ gap, config.firstGap? requiredServices = some gap →
      ∃ setting, config.FirstMissing gap.service setting ∧
        ∀ (completion : List String → List String) (timers : TimerFactory) (net : Http.Network)
          (registry : Option RegistryClient) (initial : String → Worker) (clients : Directory),
          check completion timers net config registry initial clients = some
            { ready := .ok false
              logs := [⟨.error, "fatal error; " ++ setting.name ++ " setting for " ++ gap.service
                ++ " client not configured"⟩]
              reports := []
              clients } := by
  refine ⟨fun hgap => ⟨fun k hk net w => ping_ne_misconfigured hgap hk net w, ?workers⟩, ?gap⟩
  case workers =>
    intro completion timers net initial clients a hcompletion h r hr
    obtain ⟨hservice, made, hran⟩ := exists_ran_of_check hcompletion h hr
    have hanswers : ∀ x ∈ made, x.answer ≠ .ok .misconfigured := by
      intro x hx hanswer
      have hattempt := congrArg Prod.fst (hran.attempt_of_mem hx)
      apply ping_ne_misconfigured hgap hservice net x.before
      exact hattempt.trans hanswer
    refine ⟨?_, made, hran, hanswers⟩
    -- A worker could only end misconfigured by one of these attempts.
    intro hmisconfigured
    obtain ⟨x, hx, hanswer⟩ := hran.exists_misconfigured hmisconfigured
    exact hanswers x hx hanswer
  case gap =>
    intro gap hgap
    obtain ⟨setting, hfirst, hname⟩ := Config.exists_firstMissing hgap
    refine ⟨setting, hfirst, ?_⟩
    -- The gate answers before it looks at any of these.
    intro completion timers net registry initial clients
    rw [check, hgap, ← hname]
    rfl

/-- The endpoint of the data has no port. -/
def noPort : Config where
  clients := [(metadataService, ⟨"m", 1, "http"⟩), (dataService, ⟨"d", 0, "http"⟩)]

theorem settings_decide_noPort :
    bothConfigured.firstGap? requiredServices = none ∧
      (∃ a, check id (Pace.mk (.whole 5) (.whole 1)).factory slowAnswers bothConfigured none
          (fun _ => {}) {} = some a ∧ ∀ r ∈ a.reports, r.outcome ≠ .misconfigured) ∧
      noPort.firstGap? requiredServices = some ⟨dataService, "Port"⟩ ∧
      check id (Pace.mk (.whole 5) (.whole 1)).factory slowAnswers noPort none (fun _ => {}) {}
        = some
          { ready := .ok false
            logs := [⟨.error, "fatal error; Port setting for core-data client not configured"⟩]
            reports := []
            clients := {} } := by
  have hcomplete : bothConfigured.firstGap? requiredServices = none := by decide
  have hgap : noPort.firstGap? requiredServices = some ⟨dataService, "Port"⟩ := by decide
  obtain ⟨a, hcheck, -⟩ := exists_ready_slowAnswers
  refine ⟨hcomplete, ⟨a, hcheck, fun r hr => ?_⟩, hgap, ?_⟩
  · exact (((settings_decide bothConfigured).1 hcomplete).2 id _ _ _ _ a (fun _ => .refl _) hcheck
      r hr).1
  · obtain ⟨setting, hfirst, hanswer⟩ := (settings_decide noPort).2 _ hgap
    obtain ⟨-, hhost⟩ | ⟨rfl, -, -⟩ := hfirst.missing
    · exact absurd hhost (by decide)
    · exact hanswer id _ slowAnswers none (fun _ => {}) {}

end Gate

end StartupGate
