import StartupGate.Proofs.Check.Strategy
import StartupGate.Proofs.Gate.Verdict
/-!
# Answers in time

The deadline and the cancel flag are looked at before an attempt and not while it is under way. So
when the gate opens, the attempt that found a service available began before the deadline and with
the flag not set (`Gate.ready_attempt_in_time`). The answer itself may come later, by the time that
the requests of this one attempt take, and a cancellation that comes with it is not seen
(`Gate.exists_ready_late`).
-/

namespace StartupGate

namespace Gate

variable {completion : List String → List String} {timers : TimerFactory} {net : Http.Network}
  {config : Config} {registry : Option RegistryClient} {initial : String → Worker}
  {clients : Directory} {a : Answer}

/-- A probe from `start` on was settled by the attempt `settling`, its last one, which found the
service available and began before the deadline and with the cancel flag not set. -/
structure SettledInTime (strategy : Strategy) (k : String) (start duration interval : Int)
    (first last : Worker) (settling : Probe.Attempt) : Prop where
  course : ∃ earlier, Probe.Course k (Timer.onWhole start duration interval).watch strategy first
    (earlier ++ [settling]) (.ok .available) last
  answer : settling.answer = .ok .available
  after : settling.after = last
  uncancelled : settling.before.isCancelled = false
  /-- Between the beginning of the attempt and its answer goes the time that the attempt takes. -/
  early : ∃ (c : Int) (elapsed : Nat), settling.before.clock = .whole c ∧ c < start + duration ∧
    last.clock = .whole (c + elapsed)

/-- A probe on whole seconds that finds its service available was settled in time. -/
theorem exists_settledInTime {strategy : Strategy} {k : String} {start duration : Int}
    {interval : Nat} {first last : Worker} {made : List Probe.Attempt}
    (hclock : first.clock = .whole start) (hstrategy : (strategy k).TakesTime)
    (hcourse : Probe.Course k (Timer.onWhole start duration interval).watch strategy first made
      (.ok .available) last) :
    ∃ settling, SettledInTime strategy k start duration interval first last settling := by
  obtain ⟨earlier, settling, rfl, hanswer, hafter⟩ := hcourse.last_of_available
  have hmem : settling ∈ earlier ++ [settling] := List.mem_append_right _ List.mem_cons_self
  have hrel : ∀ a ∈ earlier ++ [settling], first.Later a.before ∧ a.before.Later a.after := by
    refine hcourse.relates Worker.Later.trans (fun u => Worker.later_of_clock_eq rfl) hstrategy ?_
    exact Worker.sleep_takesTime interval
  obtain ⟨hbefore, hlater⟩ := hrel settling hmem
  obtain ⟨before, hc⟩ := hbefore _ hclock
  obtain ⟨elapsed, helapsed⟩ := hlater _ hc
  -- The timer was found running in the very state in which the attempt begins.
  obtain ⟨⟨u, hwatch⟩, hflag, -⟩ := hcourse.attempt_of_mem hmem
  obtain rfl : u = settling.before := (Prod.mk.inj hwatch).2
  rw [Timer.isRunning_onWhole hc] at hwatch
  have hearly : start + before < start + duration := by simpa using hwatch
  rw [hafter] at helapsed
  exact ⟨settling, ⟨earlier, hcourse⟩, hanswer, hafter, hflag, start + before, elapsed, hc, hearly,
    helapsed⟩

/-- **When the gate opens, it opens for attempts that began in time.** Whatever the requests or the
registry answer and however long they take, the worker of every required service was settled by an
attempt that began before the deadline of this worker and with its cancel flag not set. -/
theorem ready_attempt_in_time (hcompletion : ∀ l, (completion l).Perm l) (hnet : net.TakesTime)
    (hregistry : ∀ client ∈ registry, client.TakesTime) {start : String → Int}
    (hstart : ∀ k ∈ requiredServices, (initial k).clock = .whole (start k))
    {duration interval : Int} (hinterval : 1 ≤ interval)
    (h : check completion (Pace.mk (.whole duration) (.whole interval)).factory net config registry
      initial clients = some a)
    (hready : a.ready = .ok true) {k : String} (hk : k ∈ requiredServices) :
    ∃ r ∈ a.reports, r.service = k ∧ r.result = .ok .available ∧
      ∃ settling, SettledInTime (Strategy.select net config registry) k (start k) duration interval
        (initial k) r.worker settling := by
  obtain ⟨r, hr, hservice, hresult, hrun⟩ := exists_report_of_ready hcompletion h hready hk
  -- A sleep must not take time back, which is all that is asked of the interval.
  obtain ⟨interval, rfl⟩ := Int.eq_ofNat_of_zero_le (show 0 ≤ interval by omega)
  obtain ⟨-, made, hcourse⟩ := CheckAll.runWorker_factory_iff.mp hrun
  rw [Pace.start, hstart k hk, hresult] at hcourse
  exact ⟨r, hr, hservice, hresult, exists_settledInTime (hstart k hk)
    (Strategy.select_takesTime hnet config hregistry k) hcourse⟩

/-! ## Answers that come late -/

/-- The metadata answer after ten seconds, the data at once but together with a cancellation. -/
def slowAnswers : Http.Network := .ofScripts
  [("http://m:1/api/v2/ping", [{ elapsed := .whole 10, answer := .ok { status := 200 } }]),
   ("http://d:2/api/v2/ping", [{ cancels := true, answer := .ok { status := 200 } }])]

/-- A worker that gets these answers, with five seconds to go. -/
def slowWorker (k : String) : Option CheckAll.Report :=
  CheckAll.runWorker (Pace.mk (.whole 5) (.whole 1)).factory
    (Strategy.select slowAnswers bothConfigured none) (fun _ => {}) k

theorem exists_slowWorker_metadata :
    ∃ late, slowWorker metadataService = some ⟨metadataService, .ok .available, late⟩ ∧
      late.clock = .whole 10 := by
  have hcourse : ∃ made late, Probe.Course metadataService
      ((Pace.mk (.whole 5) (.whole 1)).start (.whole 0)).watch
      (Strategy.select slowAnswers bothConfigured none) {} made (.ok .available) late ∧
      late.clock = .whole 10 :=
    ⟨_, _, .settled rfl rfl rfl rfl, rfl⟩
  obtain ⟨made, late, hcourse, hclock⟩ := hcourse
  exact ⟨late, CheckAll.runWorker_factory_iff.mpr ⟨rfl, made, hcourse⟩, hclock⟩

theorem exists_slowWorker_data :
    ∃ stopped, slowWorker dataService = some ⟨dataService, .ok .available, stopped⟩ ∧
      stopped.isCancelled = true := by
  have hcourse : ∃ made stopped, Probe.Course dataService
      ((Pace.mk (.whole 5) (.whole 1)).start (.whole 0)).watch
      (Strategy.select slowAnswers bothConfigured none) {} made (.ok .available) stopped ∧
      stopped.isCancelled = true :=
    ⟨_, _, .settled rfl rfl rfl rfl, rfl⟩
  obtain ⟨made, stopped, hcourse, hflag⟩ := hcourse
  exact ⟨stopped, CheckAll.runWorker_factory_iff.mpr ⟨rfl, made, hcourse⟩, hflag⟩

theorem exists_ready_slowAnswers :
    ∃ a, check id (Pace.mk (.whole 5) (.whole 1)).factory slowAnswers bothConfigured none
      (fun _ => {}) {} = some a ∧ a.ready = .ok true := by
  obtain ⟨late, hlate, -⟩ := exists_slowWorker_metadata
  obtain ⟨stopped, hstopped, -⟩ := exists_slowWorker_data
  have havailable : ∀ k ∈ requiredServices, CheckAll.ComesTo
      (Pace.mk (.whole 5) (.whole 1)).factory (Strategy.select slowAnswers bothConfigured none)
      (fun _ => {}) k (.ok .available) := by
    apply forall_required
    · exact (CheckAll.isReport_of_runWorker hlate).comesTo
    · exact (CheckAll.isReport_of_runWorker hstopped).comesTo
  have hid : ∀ l : List String, (id l).Perm l := fun _ => .refl _
  obtain ⟨all, hcheck, hverdict⟩ :=
    exists_check_eq_conclude hid (by decide) (fun k hk => ⟨_, havailable k hk⟩) {}
  exact ⟨_, hcheck, conclude_opens_iff.mpr ⟨hverdict.mpr havailable, by decide⟩⟩

theorem ready_attempt_in_time_slowAnswers :
    ∃ a, check id (Pace.mk (.whole 5) (.whole 1)).factory slowAnswers bothConfigured none
        (fun _ => {}) {} = some a ∧ a.ready = .ok true ∧
      ∃ r ∈ a.reports, r.service = metadataService ∧ r.result = .ok .available ∧
        ∃ settling, SettledInTime (Strategy.select slowAnswers bothConfigured none) metadataService
          0 5 1 {} r.worker settling := by
  obtain ⟨a, hcheck, hready⟩ := exists_ready_slowAnswers
  have htime : slowAnswers.TakesTime :=
    Http.Network.ofScripts_takesTime (by simpa using ⟨⟨10, rfl⟩, ⟨0, rfl⟩⟩)
  have hstart : ∀ k ∈ requiredServices,
      ((fun _ => {} : String → Worker) k).clock = .whole ((fun _ => 0 : String → Int) k) :=
    fun _ _ => rfl
  exact ⟨a, hcheck, hready, ready_attempt_in_time (fun _ => .refl _) htime (by simp) hstart
    (by decide) hcheck hready (by decide)⟩

/-- The gate opens for an answer that comes five seconds after the deadline, and for one that comes
together with a cancellation. -/
theorem exists_ready_late :
    ∃ a, check id (Pace.mk (.whole 5) (.whole 1)).factory slowAnswers bothConfigured none
        (fun _ => {}) {} = some a ∧ a.ready = .ok true ∧
      (∃ r ∈ a.reports, r.service = metadataService ∧ r.result = .ok .available ∧
        r.worker.clock = .whole 10) ∧
      ∃ r ∈ a.reports, r.service = dataService ∧ r.result = .ok .available ∧
        r.worker.isCancelled = true := by
  obtain ⟨a, hcheck, hready⟩ := exists_ready_slowAnswers
  refine ⟨a, hcheck, hready, ?_, ?_⟩
  · obtain ⟨late, hlate, hclock⟩ := exists_slowWorker_metadata
    obtain ⟨r, hr, hservice, hresult, hrun⟩ :=
      exists_report_of_ready (fun _ => .refl _) hcheck hready (k := metadataService) (by decide)
    obtain rfl := Option.some.inj (hlate.symm.trans hrun)
    exact ⟨_, hr, hservice, hresult, hclock⟩
  · obtain ⟨stopped, hstopped, hflag⟩ := exists_slowWorker_data
    obtain ⟨r, hr, hservice, hresult, hrun⟩ :=
      exists_report_of_ready (fun _ => .refl _) hcheck hready (k := dataService) (by decide)
    obtain rfl := Option.some.inj (hstopped.symm.trans hrun)
    exact ⟨_, hr, hservice, hresult, hflag⟩

end Gate

end StartupGate
