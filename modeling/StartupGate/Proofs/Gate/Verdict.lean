import StartupGate.Proofs.Check.Workers
import StartupGate.Proofs.Gate.Publication
/-!
# The verdict of the gate

The gate opens for a check that passes where the base addresses can be written, and then the report
of every worker is in its answer (`Gate.exists_report_of_ready`). Whether it opens depends on nothing
but the settings of the required services and what each of their workers comes to alone
(`Gate.opens_iff`), so that neither the order in which the workers complete nor the directory of
clients matters.
-/

namespace StartupGate.Gate

variable {completion : List String → List String} {timers : TimerFactory} {net : Http.Network}
  {config : Config} {registry : Option RegistryClient} {initial : String → Worker}
  {clients : Directory} {a : Answer}

/-- An answer by which the gate is open is concluded from a check that passed, without a gap. -/
theorem exists_conclude_of_ready (hcompletion : ∀ l, (completion l).Perm l)
    (h : check completion timers net config registry initial clients = some a)
    (hready : a.ready = .ok true) :
    config.firstGap? requiredServices = none ∧
      ∃ (all : CheckAll.Answer) (report : String → CheckAll.Report),
        CheckAll.run completion requiredServices timers (Strategy.select net config registry)
          initial = some (.ok all) ∧
        (∀ k ∈ requiredServices, CheckAll.IsReport timers (Strategy.select net config registry)
          initial k (report k)) ∧
        CheckAll.SumsUp (CheckAll.distinct requiredServices) report all ∧
        a = conclude config clients all ∧ all.ready = true ∧ config.FitsAddresses := by
  obtain ⟨gap, -, rfl⟩ | ⟨hgap, all, report, hrun, hreport, hsum, rfl⟩ := check_cases hcompletion h
  · -- With a gap the gate stays shut.
    cases hready
  · exact ⟨hgap, all, report, hrun, hreport, hsum, rfl, conclude_opens_iff.mp hready⟩

/-- When the gate opens, the clients of its configuration were published. -/
theorem publish_of_ready (hcompletion : ∀ l, (completion l).Perm l)
    (h : check completion timers net config registry initial clients = some a)
    (hready : a.ready = .ok true) : clients.publish config = .ok a.clients := by
  obtain ⟨-, all, report, -, -, -, rfl, -⟩ := exists_conclude_of_ready hcompletion h hready
  exact publish_conclude hready

/-- When the gate opens, the worker of every required service was run and found it available. -/
theorem exists_report_of_ready (hcompletion : ∀ l, (completion l).Perm l)
    (h : check completion timers net config registry initial clients = some a)
    (hready : a.ready = .ok true) {k : String} (hk : k ∈ requiredServices) :
    ∃ r ∈ a.reports, r.service = k ∧ r.result = .ok .available ∧
      CheckAll.runWorker timers (Strategy.select net config registry) initial k = some r := by
  obtain ⟨-, all, report, -, hreport, hsum, rfl, hall, -⟩ :=
    exists_conclude_of_ready hcompletion h hready
  obtain ⟨order, hperm, horder, -⟩ := hsum.completed
  have hkeys := CheckAll.mem_distinct.mpr hk
  have havailable : (report k).outcome = .available := by
    rw [hsum.ready, List.all_eq_true] at hall
    exact beq_iff_eq.mp (hall k hkeys)
  refine ⟨report k, ?_, (hreport k hk).service,
    (hreport k hk).outcome_eq_available.mp havailable, (hreport k hk).run_eq⟩
  rw [conclude_reports, horder]
  exact List.mem_map_of_mem (hperm.mem_iff.mpr hkeys)

/-- The gate has an answer, and is open by it. -/
def Opens (completion : List String → List String) (timers : TimerFactory) (net : Http.Network)
    (config : Config) (registry : Option RegistryClient) (initial : String → Worker)
    (clients : Directory) : Prop :=
  ∃ a, check completion timers net config registry initial clients = some a ∧ a.ready = .ok true

theorem opens_iff (hcompletion : ∀ l, (completion l).Perm l) :
    Opens completion timers net config registry initial clients ↔
      (∀ k ∈ requiredServices, (config.endpoint k).host ≠ "" ∧ (config.endpoint k).port ≠ 0) ∧
      (∀ k ∈ requiredServices, CheckAll.ComesTo timers (Strategy.select net config registry)
        initial k (.ok .available)) ∧ config.FitsAddresses := by
  rw [← Config.firstGap?_eq_none_iff, ← CheckAll.passes_iff hcompletion]
  constructor
  · rintro ⟨a, hcheck, hready⟩
    obtain ⟨hgap, all, report, hrun, -, -, -, hall, hfits⟩ :=
      exists_conclude_of_ready hcompletion hcheck hready
    exact ⟨hgap, ⟨all, hrun, hall⟩, hfits⟩
  · rintro ⟨hgap, ⟨all, hrun, hall⟩, hfits⟩
    exact ⟨_, check_of_run hgap hrun, conclude_opens_iff.mpr ⟨hall, hfits⟩⟩

/-- Workers may complete in the order in which they are run. -/
theorem perm_id (l : List String) : (id l).Perm l := .refl l

/-- The order in which the workers complete does not matter. -/
theorem opens_congr {completion' : List String → List String}
    (hcompletion : ∀ l, (completion l).Perm l) (hcompletion' : ∀ l, (completion' l).Perm l) :
    Opens completion timers net config registry initial clients ↔
      Opens completion' timers net config registry initial clients := by
  rw [opens_iff hcompletion, opens_iff hcompletion']

end StartupGate.Gate
