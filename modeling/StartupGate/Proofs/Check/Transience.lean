import StartupGate.Proofs.Check.Independence
import StartupGate.Proofs.Probe.Course
/-!
# Failures of a registry are transient

An attempt that asks a registry has two verdicts, whatever the client of the registry answers and
whatever faults it ends in: the service is available, or it is worth another attempt. So the probe
of a service ends well as long as its timer does, and never finds the service misconfigured. The
main statement is `Strategy.registry_failures_pass`.
-/

namespace StartupGate

/-! ## One attempt -/

namespace Strategy

section Attempt

variable (client : RegistryClient) (service : String) (w : Worker)

/-- The state in which an attempt asks its first question. -/
def asking : Worker := w.log .info ("Check " ++ service ++ " service's status via Registry...")

/-- The attempt that begins in `w` is told that the registry is alive. -/
def FindsAlive : Prop := ∃ u, client.isAlive service (asking service w) = (.ok true, u)

/-- Both questions of the attempt that begins in `w` are answered with yes. -/
def Confirmed : Prop :=
  ∃ u v, client.isAlive service (asking service w) = (.ok true, u) ∧
    client.isAvailable service u = (.ok true, v)

/-- The attempt that begins in `w` asks whether the service is available: with another answer to
this question, or with another effect of it, the attempt would not be what it is. -/
def AsksForService : Prop :=
  ∃ isAvailable : String → Step Bool,
    registry { client with isAvailable } service w ≠ registry client service w

/-- An attempt has one of two verdicts, and finds the service available when both questions are
answered with yes. -/
theorem exists_registry_eq :
    ∃ d u, registry client service w = (.ok d, u) ∧ (d = .available ∨ d = .unavailable) ∧
      (d = .available ↔ Confirmed client service w) := by
  simp only [registry, Confirmed, asking]
  split
  · -- Whether the registry is alive cannot be told.
    rename_i halive
    exact ⟨_, _, rfl, .inr rfl, by simp [halive]⟩
  · rename_i halive
    exact ⟨_, _, rfl, .inr rfl, by simp [halive]⟩
  · rename_i u halive
    split
    · rename_i havailable
      exact ⟨_, _, rfl, .inr rfl, by simp [halive, havailable]⟩
    · rename_i havailable
      exact ⟨_, _, rfl, .inr rfl, by simp [halive, havailable]⟩
    · rename_i v havailable
      exact ⟨_, _, rfl, .inl rfl, iff_of_true rfl ⟨u, v, halive, havailable⟩⟩

variable {client service w}

/-- Equal attempts are both confirmed or neither of them is. -/
theorem Confirmed.congr {client' : RegistryClient}
    (h : registry client service w = registry client' service w) :
    Confirmed client service w ↔ Confirmed client' service w := by
  obtain ⟨d, u, hd, -, hconfirmed⟩ := exists_registry_eq client service w
  obtain ⟨d', u', hd', -, hconfirmed'⟩ := exists_registry_eq client' service w
  rw [hd, hd', Prod.mk.injEq, Except.ok.injEq] at h
  rw [← hconfirmed, ← hconfirmed', h.1]

/-- Where the registry is not said to be alive, the question for the service plays no part. -/
theorem registry_eq_of_not_findsAlive (h : ¬ FindsAlive client service w)
    (isAvailable : String → Step Bool) :
    registry { client with isAvailable } service w = registry client service w := by
  simp only [registry]
  split
  · rfl
  · rfl
  · rename_i u halive
    exact absurd ⟨u, halive⟩ h

/-- The question for the service is asked exactly when the registry is said to be alive. -/
theorem asksForService_iff : AsksForService client service w ↔ FindsAlive client service w := by
  constructor
  · rintro ⟨isAvailable, hne⟩
    by_contra hdead
    exact hne (registry_eq_of_not_findsAlive hdead isAvailable)
  · rintro ⟨u, halive⟩
    -- Were the question answered the other way round, so would be the verdict.
    by_cases hconfirmed : Confirmed client service w
    · refine ⟨fun _ x => (.ok false, x), fun heq => ?_⟩
      obtain ⟨_, _, _, hno⟩ := (Confirmed.congr heq).mpr hconfirmed
      cases hno
    · refine ⟨fun _ x => (.ok true, x), fun heq => ?_⟩
      exact hconfirmed ((Confirmed.congr heq).mp ⟨u, u, halive, rfl⟩)

end Attempt

/-! ## The probe of a service -/

variable {client : RegistryClient} {service : String} {watch : Watch} {w last : Worker}
  {made : List Probe.Attempt} {result : Except Fault Outcome}

/-- An attempt of a probe that ends something has found both questions answered with yes. -/
theorem result?_eq_some_iff
    (hcourse : Probe.Course service watch (registry client) w made result last)
    {a : Probe.Attempt} (ha : a ∈ made) {x : Except Fault Outcome} :
    a.result? = some x ↔ x = .ok .available ∧ Confirmed client service a.before := by
  obtain ⟨-, -, hattempt⟩ := hcourse.attempt_of_mem ha
  obtain ⟨d, u, hd, hverdict, hconfirmed⟩ := exists_registry_eq client service a.before
  have hanswer : a.answer = .ok d := by
    rw [hd] at hattempt
    exact (Prod.mk.inj hattempt).1.symm
  rw [← hconfirmed, Probe.Attempt.result?, hanswer]
  rcases hverdict with rfl | rfl <;> simp [Verdict.outcome?, eq_comm]

/-- A probe that asks a registry, with a timer that serves it, is ended by its last attempt only
where that attempt finds both questions answered with yes. -/
theorem exists_outcome (hcourse : Probe.Course service watch (registry client) w made result last)
    (hserves : Probe.Serves watch w made) :
    ∃ o, result = .ok o ∧ (o = .available ∨ o = .cancelled ∨ o = .timedOut) ∧
      (o = .available ↔ ∃ a ∈ made.getLast?, Confirmed client service a.before) := by
  rcases hcourse.ended hserves with ⟨hretried, hend⟩ | ⟨earlier, a, rfl, -, ha⟩
  · -- No attempt ended anything, so none was confirmed.
    have hnone : ¬ ∃ a ∈ made.getLast?, Confirmed client service a.before := by
      rintro ⟨a, hlast, hconfirmed⟩
      have hmem : a ∈ made := List.mem_of_getLast? hlast
      have := (result?_eq_some_iff hcourse hmem).mpr ⟨rfl, hconfirmed⟩
      rw [hretried a hmem] at this
      cases this
    rcases hend with rfl | rfl
    · exact ⟨_, rfl, .inr (.inr rfl), by simpa using hnone⟩
    · exact ⟨_, rfl, .inr (.inl rfl), by simpa using hnone⟩
  · obtain ⟨rfl, hconfirmed⟩ := (result?_eq_some_iff hcourse (by simp)).mp ha
    exact ⟨_, rfl, .inl rfl, iff_of_true rfl ⟨a, by simp, hconfirmed⟩⟩

end Strategy

/-! ## Checks of several services -/

namespace CheckAll

/-- The worker of a service has a timer, which serves it up to the end of its probe. -/
def Served (timers : TimerFactory) (strategy : Strategy) (initial : String → Worker)
    (k : String) : Prop :=
  ∃ watch w made result last, timers k (initial k) = (.ok watch, w) ∧
    Probe.Course k watch strategy w made result last ∧ Probe.Serves watch w made

variable {timers : TimerFactory} {client : RegistryClient} {initial : String → Worker} {k : String}

/-- A worker that asks a registry, with a timer that serves it, neither fails nor finds its service
misconfigured. -/
theorem IsReport.outcome_of_served {r : Report}
    (h : IsReport timers (Strategy.registry client) initial k r)
    (hserved : Served timers (Strategy.registry client) initial k) :
    (r.outcome = .available ∨ r.outcome = .cancelled ∨ r.outcome = .timedOut) ∧
      r.failure? = none := by
  obtain ⟨watch, w, made, result, last, htimer, hcourse, hserves⟩ := hserved
  obtain ⟨o, rfl, houtcome, -⟩ := Strategy.exists_outcome hcourse hserves
  have hresult : r.result = .ok o := h.comesTo.unique (.probed htimer hcourse.run_eq)
  rw [h.outcome, h.failure, hresult]
  exact ⟨houtcome, rfl⟩

theorem Served.exists_comesTo {strategy : Strategy} (h : Served timers strategy initial k) :
    ∃ result, ComesTo timers strategy initial k result := by
  obtain ⟨watch, w, made, result, last, htimer, hcourse, -⟩ := h
  exact ⟨result, .probed htimer hcourse.run_eq⟩

end CheckAll

namespace Strategy

/-- **Failures of a registry are transient.** Whatever the client of a registry answers and whatever
faults it ends in, an attempt that asks it has an answer, and asks for the service exactly when the
registry is said to be alive. A probe with a timer that serves it is ended by its last attempt only
where both questions were answered with yes, so that no worker of a check fails or finds its service
misconfigured. -/
theorem registry_failures_pass (client : RegistryClient) :
    (∀ service w, (AsksForService client service w ↔ FindsAlive client service w) ∧
      ∃ d u, registry client service w = (.ok d, u) ∧ (d = .available ∨ d = .unavailable)) ∧
    (∀ service watch w result last,
      Probe.run service watch (registry client) w = some (result, last) →
      ∃ made, Probe.Course service watch (registry client) w made result last ∧
        (Probe.Serves watch w made →
          ∃ o, result = .ok o ∧ (o = .available ∨ o = .cancelled ∨ o = .timedOut) ∧
            (o = .available ↔ ∃ a ∈ made.getLast?, Confirmed client service a.before))) ∧
    ∀ (completion : List String → List String) (services : List String) (timers : TimerFactory)
      (initial : String → Worker), (∀ l, (completion l).Perm l) →
      (∀ k ∈ services, CheckAll.Served timers (registry client) initial k) →
      ∃ a, CheckAll.run completion services timers (registry client) initial = some (.ok a) ∧
        ∀ r ∈ a.reports,
          (r.outcome = .available ∨ r.outcome = .cancelled ∨ r.outcome = .timedOut) ∧
            r.failure? = none := by
  refine ⟨fun service w => ⟨asksForService_iff, ?_⟩, ?_, ?_⟩
  · obtain ⟨d, u, hd, hverdict, -⟩ := exists_registry_eq client service w
    exact ⟨d, u, hd, hverdict⟩
  · intro service watch w result last hrun
    obtain ⟨made, hcourse⟩ := Probe.exists_course_of_run hrun
    exact ⟨made, hcourse, exists_outcome hcourse⟩
  · intro completion services timers initial hcompletion hserved
    obtain ⟨report, hreport⟩ :=
      CheckAll.exists_reports fun k hk => (hserved k hk).exists_comesTo
    obtain ⟨a, hrun, hsum⟩ := CheckAll.exists_answer hreport hcompletion
    obtain ⟨order, hperm, horder, -⟩ := hsum.completed
    refine ⟨a, hrun, fun r hr => ?_⟩
    -- Every report is that of a service of the request.
    rw [horder] at hr
    obtain ⟨k, hk, rfl⟩ := List.mem_map.mp hr
    have hk : k ∈ services := CheckAll.mem_distinct.mp (hperm.mem_iff.mp hk)
    exact (hreport k hk).outcome_of_served (hserved k hk)

/-- A registry that names its leader, and whose catalog breaks off in the middle. -/
def brokenCatalog : RegistryClient :=
  (Consul.of "http://c:8500" none 5).client (.ofScripts
    [("http://c:8500/v1/status/leader", [{ answer := .ok { status := 200, body := "\"a:1\"" } }]),
     ("http://c:8500/v1/catalog/services", [{ answer := .ok { status := 200, body := "[1" } }])])

theorem registry_failures_pass_brokenCatalog :
    FindsAlive brokenCatalog "core-data" {} ∧ AsksForService brokenCatalog "core-data" {} ∧
    CheckAll.Served (Pace.mk (.whole 1) (.whole 1)).factory (registry brokenCatalog) (fun _ => {})
      "core-data" ∧
    ∃ a, CheckAll.run id ["core-data"] (Pace.mk (.whole 1) (.whole 1)).factory
        (registry brokenCatalog) (fun _ => {}) = some (.ok a) ∧
      ∀ r ∈ a.reports,
        (r.outcome = .available ∨ r.outcome = .cancelled ∨ r.outcome = .timedOut) ∧
          r.failure? = none := by
  obtain ⟨hattempt, -, hall⟩ := registry_failures_pass brokenCatalog
  have halive : FindsAlive brokenCatalog "core-data" {} := ⟨_, rfl⟩
  have hserved : CheckAll.Served (Pace.mk (.whole 1) (.whole 1)).factory (registry brokenCatalog)
      (fun _ => {}) "core-data" :=
    ⟨_, _, _, _, _, rfl, .again rfl rfl rfl rfl rfl (.timedOut rfl), ⟨_, _, rfl⟩,
      fun _ => ⟨_, rfl, _, _, rfl⟩⟩
  exact ⟨halive, (hattempt "core-data" {}).1.mpr halive, hserved,
    hall id ["core-data"] _ (fun _ => {}) (fun _ => .refl _) (by simpa using hserved)⟩

end Strategy

end StartupGate
