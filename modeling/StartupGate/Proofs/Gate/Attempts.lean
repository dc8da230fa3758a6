import StartupGate.Proofs.Check.Strategy
import StartupGate.Proofs.Check.Workers
import StartupGate.Proofs.Gate.Publication
/-!
# The attempts behind an answer

A report in an answer of the gate is that of the worker of a required service, and what this worker
did is a list of attempts: those of its probe, or none where it did not come by its timer
(`Gate.exists_ran_of_check`). What holds of every attempt of a strategy, in whatever state it
begins, therefore holds of every attempt behind an answer. On whole seconds every worker ends, so
that there is an answer (`Gate.exists_check_onWhole`).
-/

namespace StartupGate

namespace CheckAll

/-! ## Workers and their attempts -/

/-- `r.Ran timers strategy initial made`: the worker of the report `r` made the attempts `made`. -/
inductive Report.Ran (timers : TimerFactory) (strategy : Strategy) (initial : String → Worker) :
    Report → List Probe.Attempt → Prop where
  /-- The worker does not come by its timer. -/
  | untimed {service : String} {f : Fault} {w : Worker}
      (htimer : timers service (initial service) = (.error f, w)) :
      Report.Ran timers strategy initial ⟨service, .error f, w⟩ []
  /-- The worker comes by its timer, and its probe has a course. -/
  | probed {service : String} {watch : Watch} {w last : Worker} {made : List Probe.Attempt}
      {result : Except Fault Outcome} (htimer : timers service (initial service) = (.ok watch, w))
      (hcourse : Probe.Course service watch strategy w made result last) :
      Report.Ran timers strategy initial ⟨service, result, last⟩ made

variable {timers : TimerFactory} {strategy : Strategy} {initial : String → Worker} {r : Report}
  {made : List Probe.Attempt}

theorem exists_ran_of_runWorker {k : String} (h : runWorker timers strategy initial k = some r) :
    r.service = k ∧ ∃ made, r.Ran timers strategy initial made := by
  rw [runWorker] at h
  split at h
  · -- Without a timer there is no probe.
    rename_i f w htimer
    cases h
    exact ⟨rfl, [], .untimed htimer⟩
  · rename_i watch w htimer
    obtain ⟨⟨result, last⟩, hprobe, rfl⟩ := Option.map_eq_some_iff.mp h
    obtain ⟨made, hcourse⟩ := Probe.exists_course_of_run hprobe
    exact ⟨rfl, made, .probed htimer hcourse⟩

/-- Every attempt of a worker is what the strategy makes of the state in which it begins. -/
theorem Report.Ran.attempt_of_mem (h : r.Ran timers strategy initial made) {x : Probe.Attempt}
    (hx : x ∈ made) : strategy r.service x.before = (x.answer, x.after) := by
  cases h with
  | untimed => exact absurd hx List.not_mem_nil
  | probed _ hcourse => exact (hcourse.attempt_of_mem hx).2.2

/-- A worker that finds its service available does so by its last attempt, and leaves the state
which that attempt left. -/
theorem Report.Ran.exists_settling (h : r.Ran timers strategy initial made)
    (havailable : r.result = .ok .available) :
    ∃ x ∈ made, x.answer = .ok .available ∧ x.after = r.worker := by
  cases h with
  | untimed => cases havailable
  | probed _ hcourse =>
    obtain rfl := havailable
    obtain ⟨earlier, x, rfl, hanswer, hafter⟩ := hcourse.last_of_available
    exact ⟨x, List.mem_append_right earlier (List.mem_singleton_self x), hanswer, hafter⟩

end CheckAll

/-! ## Workers of an answer -/

namespace Gate

variable {completion : List String → List String} {timers : TimerFactory} {net : Http.Network}
  {config : Config} {registry : Option RegistryClient} {initial : String → Worker}
  {clients : Directory} {a : Answer}

theorem exists_reports_of_check (hcompletion : ∀ l, (completion l).Perm l)
    (hgap : config.firstGap? requiredServices = none)
    (h : check completion timers net config registry initial clients = some a) :
    ∃ report : String → CheckAll.Report,
      (∀ k ∈ requiredServices, CheckAll.runWorker timers (Strategy.select net config registry)
        initial k = some (report k)) ∧
      ∀ r, r ∈ a.reports ↔ ∃ k ∈ requiredServices, report k = r := by
  obtain ⟨gap, hfound, -⟩ | ⟨-, all, report, -, hreport, hsum, rfl⟩ := check_cases hcompletion h
  · cases hgap.symm.trans hfound
  obtain ⟨order, hperm, horder, -⟩ := hsum.completed
  -- The workers complete in some order, which lists the required services.
  have hmem : ∀ k, k ∈ order ↔ k ∈ requiredServices :=
    fun k => hperm.mem_iff.trans CheckAll.mem_distinct
  refine ⟨report, fun k hk => (hreport k hk).run_eq, fun r => ?_⟩
  simp only [conclude_reports, horder, List.mem_map, hmem]

/-- An answer of the gate to complete settings has the report of the worker of every required
service. -/
theorem exists_report_of_check (hcompletion : ∀ l, (completion l).Perm l)
    (hgap : config.firstGap? requiredServices = none)
    (h : check completion timers net config registry initial clients = some a) {k : String}
    (hk : k ∈ requiredServices) :
    ∃ r ∈ a.reports,
      CheckAll.runWorker timers (Strategy.select net config registry) initial k = some r := by
  obtain ⟨report, hrun, hmem⟩ := exists_reports_of_check hcompletion hgap h
  exact ⟨report k, (hmem _).mpr ⟨k, hk, rfl⟩, hrun k hk⟩

/-- Every report in an answer of the gate is that of the worker of a required service. -/
theorem exists_ran_of_check (hcompletion : ∀ l, (completion l).Perm l)
    (h : check completion timers net config registry initial clients = some a)
    {r : CheckAll.Report} (hr : r ∈ a.reports) :
    r.service ∈ requiredServices ∧
      ∃ made, r.Ran timers (Strategy.select net config registry) initial made := by
  cases hgap : config.firstGap? requiredServices with
  | some gap =>
    -- With a gap no worker is started.
    simp only [check, hgap] at h
    cases h
    exact absurd hr List.not_mem_nil
  | none =>
    obtain ⟨report, hrun, hmem⟩ := exists_reports_of_check hcompletion hgap h
    obtain ⟨k, hk, rfl⟩ := (hmem r).mp hr
    obtain ⟨hservice, hran⟩ := CheckAll.exists_ran_of_runWorker (hrun k hk)
    rw [hservice]
    exact ⟨hk, hran⟩

/-! ### Whole seconds -/

section OnWhole

variable (config registry) (duration : Int) {interval : Int} (hnet : net.TakesTime)
  (hregistry : ∀ client ∈ registry, client.TakesTime)
  (hclock : ∀ k ∈ requiredServices, ∃ c : Int, (initial k).clock = .whole c)
  (hinterval : 1 ≤ interval)
include hnet hregistry hclock hinterval

/-- On whole seconds the workers of the required services end. -/
theorem exists_comesTo_onWhole : ∀ k ∈ requiredServices, ∃ result, CheckAll.ComesTo
    (Pace.mk (.whole duration) (.whole interval)).factory (Strategy.select net config registry)
    initial k result := by
  intro k hk
  obtain ⟨c, hc⟩ := hclock k hk
  have htime := Strategy.select_takesTime hnet config hregistry k
  obtain ⟨r, hrun⟩ := CheckAll.exists_runWorker_onWhole duration hc htime hinterval
  exact ⟨r.result, (CheckAll.isReport_of_runWorker hrun).comesTo⟩

/-- On whole seconds a check has an answer with a report for every required service. -/
theorem exists_check_onWhole (hcompletion : ∀ l, (completion l).Perm l)
    (hgap : config.firstGap? requiredServices = none) (clients : Directory) :
    ∃ (a : Answer) (report : String → CheckAll.Report),
      check completion (Pace.mk (.whole duration) (.whole interval)).factory net config registry
        initial clients = some a ∧
      (∀ k ∈ requiredServices,
        CheckAll.runWorker (Pace.mk (.whole duration) (.whole interval)).factory
          (Strategy.select net config registry) initial k = some (report k)) ∧
      ∀ r, r ∈ a.reports ↔ ∃ k ∈ requiredServices, report k = r := by
  obtain ⟨all, hcheck, -⟩ := exists_check_eq_conclude hcompletion hgap
    (exists_comesTo_onWhole config registry duration hnet hregistry hclock hinterval) clients
  obtain ⟨report, hreport⟩ := exists_reports_of_check hcompletion hgap hcheck
  exact ⟨_, report, hcheck, hreport⟩

end OnWhole

theorem promptAnswers_takesTime : promptAnswers.TakesTime := fun _ _ => ⟨0, rfl⟩

theorem fresh_clock : ∀ k ∈ requiredServices,
    ∃ c : Int, ((fun _ => {} : String → Worker) k).clock = .whole c :=
  fun _ _ => ⟨0, rfl⟩

end Gate

end StartupGate
