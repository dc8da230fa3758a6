import StartupGate.Proofs.Check.Independence
import StartupGate.Proofs.Probe.Termination
/-!
# Workers with timers of a pace

The worker of a service starts a timer when it begins and then runs a probe. So its report is that
of a course of this probe (`CheckAll.runWorker_factory_iff`), and on whole seconds there always is
such a report, since the probe ends (`CheckAll.exists_runWorker_onWhole`). A check passes exactly
when every worker, run alone, finds its service available (`CheckAll.passes_iff`).
-/

namespace StartupGate.CheckAll

variable {strategy : Strategy} {initial : String → Worker} {k : String}

/-- A worker with a timer of a pace has a report exactly when its probe has a course. -/
theorem runWorker_factory_iff {p : Pace} {r : Report} :
    runWorker p.factory strategy initial k = some r ↔
      r.service = k ∧ ∃ made, Probe.Course k (p.start (initial k).clock).watch strategy (initial k)
        made r.result r.worker := by
  simp only [runWorker, Pace.factory]
  constructor
  · intro h
    obtain ⟨⟨result, last⟩, hprobe, rfl⟩ := Option.map_eq_some_iff.mp h
    exact ⟨rfl, Probe.exists_course_of_run hprobe⟩
  · rintro ⟨rfl, made, hcourse⟩
    rw [hcourse.run_eq]
    rfl

/-! ## Whole seconds -/

section OnWhole

variable {duration interval c : Int}

/-- On whole seconds the timer of a worker starts at the time at which the worker begins, and the
course of its probe is that of its report. -/
theorem runWorker_onWhole_iff (hclock : (initial k).clock = .whole c) {r : Report} :
    runWorker (Pace.mk (.whole duration) (.whole interval)).factory strategy initial k = some r ↔
      r.service = k ∧ ∃ made, Probe.Course k (Timer.onWhole c duration interval).watch strategy
        (initial k) made r.result r.worker := by
  rw [runWorker_factory_iff, Pace.start, hclock]
  rfl

theorem exists_runWorker_onWhole (duration : Int) (hclock : (initial k).clock = .whole c)
    (htime : (strategy k).TakesTime) (hinterval : 1 ≤ interval) :
    ∃ r, runWorker (Pace.mk (.whole duration) (.whole interval)).factory strategy initial k
      = some r := by
  obtain ⟨made, result, last, hcourse⟩ := Probe.exists_course_onWhole htime hinterval hclock
  exact ⟨⟨k, result, last⟩, (runWorker_onWhole_iff hclock).mpr ⟨rfl, made, hcourse⟩⟩

end OnWhole

/-! ## The verdict of a check -/

/-- The check has an answer, and all services are available by it. -/
def Passes (completion : List String → List String) (services : List String)
    (timers : TimerFactory) (strategy : Strategy) (initial : String → Worker) : Prop :=
  ∃ a, run completion services timers strategy initial = some (.ok a) ∧ a.ready = true

theorem passes_iff {completion : List String → List String} {services : List String}
    {timers : TimerFactory} (hcompletion : ∀ l, (completion l).Perm l) :
    Passes completion services timers strategy initial ↔
      ∀ k ∈ services, ComesTo timers strategy initial k (.ok .available) := by
  constructor
  · rintro ⟨a, hrun, hready⟩
    -- An answer sums up the reports of the workers, and so does its verdict.
    obtain ⟨a', report, ha, hreport, hsum⟩ := exists_sumsUp_of_run hcompletion hrun
    obtain rfl := Except.ok.inj ha
    rw [hsum.ready] at hready
    exact (verdict_iff hreport).mp hready
  · intro havailable
    -- Every worker has a report, so that the check has an answer.
    obtain ⟨report, hreport⟩ := exists_reports fun k hk => ⟨_, havailable k hk⟩
    obtain ⟨a, hrun, hsum⟩ := exists_answer hreport hcompletion
    refine ⟨a, hrun, ?_⟩
    rw [hsum.ready]
    exact (verdict_iff hreport).mpr havailable

end StartupGate.CheckAll
