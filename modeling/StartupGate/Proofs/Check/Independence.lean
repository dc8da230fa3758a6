import Mathlib.Data.List.Basic
import StartupGate.Check.Coordinator
import StartupGate.Proofs.Probe.Time
/-!
# Independence of the workers

A check of several services is the sum of its workers, each run alone. The main statement is
`CheckAll.run_eq_sum`: whatever becomes of the workers and in whatever order they complete, a check
has an answer, runs one worker for each service of the request, and its verdict and its summary
depend on nothing but what each worker comes to by itself.
-/

namespace StartupGate.CheckAll

/-! ## The services of a request -/

/-- `keys` are the services of a request, each once and in the order of first mention. -/
structure ListsOnce (services keys : List String) : Prop where
  nodup : keys.Nodup
  mem_iff : ∀ k, k ∈ keys ↔ k ∈ services
  ordered : keys.Pairwise fun j k => services.idxOf j < services.idxOf k

theorem mem_distinct {services : List String} {k : String} :
    k ∈ distinct services ↔ k ∈ services := by
  induction services with
  | nil => rfl
  | cons j rest ih =>
    rw [distinct, List.mem_cons, List.mem_cons, List.mem_filter, ih]
    by_cases h : k = j <;> simp [h]

theorem nodup_distinct (services : List String) : (distinct services).Nodup := by
  induction services with
  | nil => exact List.nodup_nil
  | cons j rest ih =>
    rw [distinct, List.nodup_cons]
    exact ⟨by simp [List.mem_filter], ih.filter _⟩

theorem pairwise_distinct (services : List String) :
    (distinct services).Pairwise fun j k => services.idxOf j < services.idxOf k := by
  induction services with
  | nil => exact .nil
  | cons i rest ih =>
    have hne : ∀ k ∈ (distinct rest).filter (· != i), i ≠ k := by
      intro k hk
      have := (List.mem_filter.mp hk).2
      exact fun h => by simp [h] at this
    rw [distinct, List.pairwise_cons]
    -- The first service has index zero, and all others move up by one.
    refine ⟨fun k hk => ?_, ?_⟩
    · rw [List.idxOf_cons_self, List.idxOf_cons_ne _ (hne k hk)]
      exact Nat.succ_pos _
    · refine (ih.filter _).imp_of_mem fun {j k} hj hk hjk => ?_
      rw [List.idxOf_cons_ne _ (hne j hj), List.idxOf_cons_ne _ (hne k hk)]
      exact Nat.succ_lt_succ hjk

theorem listsOnce_distinct (services : List String) : ListsOnce services (distinct services) :=
  ⟨nodup_distinct services, fun _ => mem_distinct, pairwise_distinct services⟩

/-! ## Workers run alone -/

section Workers

variable (timers : TimerFactory) (strategy : Strategy) (initial : String → Worker)

/-- What the worker of a service comes to, alone with a timer and a world of its own: its timer
fails to come about, or its probe ends. -/
inductive ComesTo (k : String) : Except Fault Outcome → Prop where
  | untimed {f : Fault} {w : Worker} (htimer : timers k (initial k) = (.error f, w)) :
      ComesTo k (.error f)
  | probed {watch : Watch} {w last : Worker} {result : Except Fault Outcome}
      (htimer : timers k (initial k) = (.ok watch, w))
      (hrun : Probe.run k watch strategy w = some (result, last)) : ComesTo k result

/-- The report of the worker of a service: one run, from its timer to its result. -/
structure IsReport (k : String) (r : Report) : Prop where
  run_eq : runWorker timers strategy initial k = some r
  service : r.service = k
  comesTo : ComesTo timers strategy initial k r.result
  /-- A worker that ended in a fault has failed. -/
  outcome : r.outcome = match r.result with
    | .ok o => o
    | .error _ => .failed
  /-- There is a message about a worker that ended in a fault, and it names the service. -/
  failure : r.failure? = match r.result with
    | .ok _ => none
    | .error f => some ⟨.error, "dependency " ++ k ++ " service checking failed: " ++ f.text⟩

variable {timers strategy initial}

theorem isReport_of_runWorker {k : String} {r : Report}
    (h : runWorker timers strategy initial k = some r) :
    IsReport timers strategy initial k r := by
  have hrun := h
  rw [runWorker] at h
  split at h
  · rename_i f w htimer
    cases h
    exact ⟨hrun, rfl, .untimed htimer, rfl, rfl⟩
  · rename_i watch w htimer
    obtain ⟨⟨result, last⟩, hprobe, rfl⟩ := Option.map_eq_some_iff.mp h
    exact ⟨hrun, rfl, .probed htimer hprobe, rfl, rfl⟩

theorem ComesTo.exists_runWorker {k : String} {result : Except Fault Outcome}
    (h : ComesTo timers strategy initial k result) :
    ∃ r, runWorker timers strategy initial k = some r ∧ r.result = result := by
  cases h with
  | @untimed f w htimer => exact ⟨⟨k, .error f, w⟩, by rw [runWorker, htimer], rfl⟩
  | @probed watch w last _ htimer hrun =>
    exact ⟨⟨k, result, last⟩, by rw [runWorker, htimer]; simp [hrun], rfl⟩

/-- A worker comes to one result only. -/
theorem ComesTo.unique {k : String} {result result' : Except Fault Outcome}
    (h : ComesTo timers strategy initial k result)
    (h' : ComesTo timers strategy initial k result') : result = result' := by
  obtain ⟨r, hr, rfl⟩ := h.exists_runWorker
  obtain ⟨r', hr', rfl⟩ := h'.exists_runWorker
  rw [Option.some.inj (hr.symm.trans hr')]

theorem IsReport.outcome_eq_available {k : String} {r : Report}
    (h : IsReport timers strategy initial k r) :
    r.outcome = .available ↔ r.result = .ok .available := by
  rw [h.outcome]
  cases r.result <;> simp

theorem IsReport.available_iff {k : String} {r : Report}
    (h : IsReport timers strategy initial k r) :
    r.outcome = .available ↔ ComesTo timers strategy initial k (.ok .available) := by
  rw [h.outcome_eq_available]
  exact ⟨fun hr => hr ▸ h.comesTo, fun hr => h.comesTo.unique hr⟩

end Workers

/-! ## Collecting the reports -/

private theorem mapM_eq_pure_map {m : Type → Type} [Monad m] [LawfulMonad m] {α β : Type}
    {f : α → m β} {g : α → β} {l : List α} (h : ∀ x ∈ l, f x = pure (g x)) :
    l.mapM f = pure (l.map g) := by
  induction l with
  | nil => rfl
  | cons x rest ih =>
    have hx := h x List.mem_cons_self
    have hrest := ih fun y hy => h y (List.mem_cons_of_mem x hy)
    simp only [List.mapM_cons, hx, hrest, pure_bind, List.map_cons]

private theorem exists_of_mapM_eq_some {α β : Type} {f : α → Option β} {l : List α} {ys : List β}
    (h : l.mapM f = some ys) {x : α} (hx : x ∈ l) : ∃ y, f x = some y := by
  induction l generalizing ys with
  | nil => exact absurd hx List.not_mem_nil
  | cons z rest ih =>
    rw [List.mapM_cons] at h
    obtain ⟨y, hy, hrest⟩ := Option.bind_eq_some_iff.mp h
    obtain ⟨ys', hys', -⟩ := Option.bind_eq_some_iff.mp hrest
    rcases List.mem_cons.mp hx with rfl | hmem
    · exact ⟨y, hy⟩
    · exact ih hys' hmem

/-- Each service once, with its outcome: what is collected in whatever order workers complete. -/
theorem outcomes_map {report : String → Report} {order : List String} (hnodup : order.Nodup)
    (hservice : ∀ k ∈ order, (report k).service = k) :
    outcomes (order.map report) = order.map fun k => (k, (report k).outcome) := by
  have hpairs : (order.map report).map (fun r => (r.service, r.outcome))
      = order.map fun k => (k, (report k).outcome) := by
    rw [List.map_map]
    exact List.map_congr_left fun k hk => by simp [hservice k hk]
  rw [outcomes, hpairs, Named.assignAll_of_nodup, List.nil_append]
  simpa [Named.names, Function.comp_def] using hnodup

/-- The entries of a summary, in the order of the request. -/
theorem summary_map {outcome : String → Outcome} {keys order : List String}
    (hmem : ∀ k ∈ keys, k ∈ order) :
    summary keys (order.map fun k => (k, outcome k))
      = .ok ⟨.debug, "dependency check outcomes: "
          ++ ", ".intercalate (keys.map fun k => k ++ "=" ++ (outcome k).name)⟩ := by
  have hentries : keys.mapM (entry (order.map fun k => (k, outcome k)))
      = pure (keys.map fun k => k ++ "=" ++ (outcome k).name) := by
    refine mapM_eq_pure_map fun k hk => ?_
    rw [entry, List.lookup_graph outcome (hmem k hk)]
    rfl
  rw [summary, hentries]
  rfl

/-- The message that lists the outcomes of services. -/
def summaryOf (keys : List String) (report : String → Report) : Log.Entry :=
  ⟨.debug, "dependency check outcomes: "
    ++ ", ".intercalate (keys.map fun k => k ++ "=" ++ (report k).outcome.name)⟩

/-- The reports of all services sum up to an answer, in whatever order the workers complete. -/
theorem collect_map {report : String → Report} {keys order : List String} (hnodup : keys.Nodup)
    (hperm : order.Perm keys) (hservice : ∀ k ∈ keys, (report k).service = k) :
    collect keys (order.map report) = .ok
      { ready := keys.all fun k => (report k).outcome == .available
        logs := order.filterMap (fun k => (report k).failure?) ++ [summaryOf keys report]
        reports := order.map report } := by
  -- The dictionary has the order of completion, the summary and the verdict do not depend on it.
  have hfound := outcomes_map (hperm.nodup_iff.mpr hnodup)
    fun k hk => hservice k (hperm.mem_iff.mp hk)
  have hsummary : summary keys (outcomes (order.map report)) = .ok (summaryOf keys report) := by
    rw [hfound]
    exact summary_map fun k => hperm.mem_iff.mpr
  have hready : (outcomes (order.map report)).all (fun e => e.2 == .available)
      = keys.all fun k => (report k).outcome == .available := by
    rw [hfound, List.all_map]
    exact hperm.all_eq
  rw [collect, hsummary, List.filterMap_map]
  exact congrArg Except.ok (by rw [← hready]; rfl)

/-! ## The answer of a check -/

section Sum

variable {timers : TimerFactory} {strategy : Strategy} {initial : String → Worker}

/-- The reports of services whose workers all end. -/
theorem exists_reports {services : List String}
    (hends : ∀ k ∈ services, ∃ result, ComesTo timers strategy initial k result) :
    ∃ report : String → Report, ∀ k ∈ services, IsReport timers strategy initial k (report k) := by
  have hreport : ∀ k, ∃ r, k ∈ services → IsReport timers strategy initial k r := by
    intro k
    by_cases hk : k ∈ services
    · obtain ⟨result, hresult⟩ := hends k hk
      obtain ⟨r, hr, -⟩ := hresult.exists_runWorker
      exact ⟨r, fun _ => isReport_of_runWorker hr⟩
    · exact ⟨⟨k, .ok .failed, initial k⟩, fun h => absurd h hk⟩
  choose report hreport using hreport
  exact ⟨report, hreport⟩

/-- `a` is the answer to a check of the services `keys`, whose workers completed in some order:
there is one worker for each service, those that failed are logged as they complete, and the summary
comes last, in an order of its own. -/
structure SumsUp (keys : List String) (report : String → Report) (a : Answer) : Prop where
  ready : a.ready = keys.all fun k => (report k).outcome == .available
  completed : ∃ order : List String, order.Perm keys ∧ a.reports = order.map report ∧
    a.logs = order.filterMap (fun k => (report k).failure?) ++
      if keys = [] then [] else [summaryOf keys report]

/-- A check whose workers all end has an answer, which sums up their reports. -/
theorem exists_answer {services : List String} {report : String → Report}
    (hreport : ∀ k ∈ services, IsReport timers strategy initial k (report k))
    {completion : List String → List String} (hcompletion : ∀ l, (completion l).Perm l) :
    ∃ a, run completion services timers strategy initial = some (.ok a) ∧
      SumsUp (distinct services) report a := by
  have hkeys : ∀ k ∈ distinct services, IsReport timers strategy initial k (report k) :=
    fun k hk => hreport k (mem_distinct.mp hk)
  have hperm := hcompletion (distinct services)
  by_cases hnil : distinct services = []
  · -- Without services there are no workers and no summary.
    refine ⟨⟨true, [], []⟩, ?_, ?_⟩
    · rw [run, hnil]
      rfl
    · rw [hnil]
      exact ⟨rfl, [], .nil, rfl, rfl⟩
  · have hcompleted : (completion (distinct services)).mapM (runWorker timers strategy initial)
        = some ((completion (distinct services)).map report) :=
      mapM_eq_pure_map fun k hk => (hkeys k (hperm.mem_iff.mp hk)).run_eq
    have hcollect := collect_map (nodup_distinct services) hperm fun k hk => (hkeys k hk).service
    have hrun : run completion services timers strategy initial
        = some (collect (distinct services) ((completion (distinct services)).map report)) := by
      rw [run, if_neg (by simpa using hnil), hcompleted, Option.map_some]
    rw [hcollect] at hrun
    exact ⟨_, hrun, rfl, completion (distinct services), hperm, rfl, by rw [if_neg hnil]⟩

/-- What a check comes to is an answer that sums up the reports of workers all of which end. It never
comes to a fault, since there is an outcome for every service of the request. -/
theorem exists_sumsUp_of_run {services : List String} {completion : List String → List String}
    (hcompletion : ∀ l, (completion l).Perm l) {x : Except Fault Answer}
    (h : run completion services timers strategy initial = some x) :
    ∃ (a : Answer) (report : String → Report), x = .ok a ∧
      (∀ k ∈ services, IsReport timers strategy initial k (report k)) ∧
      SumsUp (distinct services) report a := by
  -- A check waits for every worker, so none of them is still at work when it comes to something.
  have hends : ∀ k ∈ services, ∃ result, ComesTo timers strategy initial k result := by
    intro k hk
    have hk := mem_distinct.mpr hk
    rw [run, if_neg (by simpa using List.ne_nil_of_mem hk)] at h
    obtain ⟨completed, hcompleted, -⟩ := Option.map_eq_some_iff.mp h
    obtain ⟨r, hr⟩ := exists_of_mapM_eq_some hcompleted ((hcompletion _).mem_iff.mpr hk)
    exact ⟨_, (isReport_of_runWorker hr).comesTo⟩
  obtain ⟨report, hreport⟩ := exists_reports hends
  obtain ⟨a, hrun, hsum⟩ := exists_answer hreport hcompletion
  exact ⟨a, report, Option.some.inj (h.symm.trans hrun), hreport, hsum⟩

/-- The verdict tells whether every worker, run alone, finds its service available. -/
theorem verdict_iff {services : List String} {report : String → Report}
    (hreport : ∀ k ∈ services, IsReport timers strategy initial k (report k)) :
    (distinct services).all (fun k => (report k).outcome == .available) = true ↔
      ∀ k ∈ services, ComesTo timers strategy initial k (.ok .available) := by
  rw [List.all_eq_true]
  refine forall_congr' fun k => ?_
  rw [mem_distinct]
  refine forall_congr' fun hk => ?_
  rw [beq_iff_eq, (hreport k hk).available_iff]

/-- **A check is the sum of its workers, each run alone.** Whatever becomes of the workers, as long
as each of them ends, and in whatever order they complete, the check has an answer. The reports and
the summary are those of the services of the request, each once, and the verdict is the same for
every request of the same services. -/
theorem run_eq_sum (services : List String) (timers : TimerFactory) (strategy : Strategy)
    (initial : String → Worker)
    (hends : ∀ k ∈ services, ∃ result, ComesTo timers strategy initial k result) :
    ∃ (keys : List String) (report : String → Report),
      ListsOnce services keys ∧
      (∀ k ∈ keys, IsReport timers strategy initial k (report k)) ∧
      (∀ completion : List String → List String, (∀ l, (completion l).Perm l) →
        ∃ a, run completion services timers strategy initial = some (.ok a) ∧
          SumsUp keys report a ∧
          (a.ready = true ↔ ∀ k ∈ services, ComesTo timers strategy initial k (.ok .available)) ∧
          ∀ (completion' : List String → List String) (services' : List String),
            (∀ l, (completion' l).Perm l) → (∀ k, k ∈ services' ↔ k ∈ services) →
            ∃ a', run completion' services' timers strategy initial = some (.ok a') ∧
              a'.ready = a.ready) := by
  obtain ⟨report, hreport⟩ := exists_reports hends
  refine ⟨distinct services, report, listsOnce_distinct services,
    fun k hk => hreport k (mem_distinct.mp hk), fun completion hcompletion => ?_⟩
  obtain ⟨a, hrun, hsum⟩ := exists_answer hreport hcompletion
  have hverdict := hsum.ready ▸ verdict_iff hreport
  -- The reports of this request serve for every other one of the same services.
  refine ⟨a, hrun, hsum, hverdict, fun completion' services' hcompletion' hmem => ?_⟩
  have hreport' : ∀ k ∈ services', IsReport timers strategy initial k (report k) :=
    fun k hk => hreport k ((hmem k).mp hk)
  obtain ⟨a', hrun', hsum'⟩ := exists_answer hreport' hcompletion'
  refine ⟨a', hrun', Bool.eq_iff_iff.mpr ?_⟩
  rw [hsum'.ready, verdict_iff hreport', hverdict]
  exact forall_congr' fun k => by rw [hmem]

end Sum

/-- One service is down in a way that no probe expects; all others are available. -/
def oneDown : Strategy := fun k w =>
  if k = "down" then (.error (.foreign "RuntimeError" (some "unexpected")), w)
  else (.ok .available, w)

/-- The timer of `late` does not come about. -/
def onePace : TimerFactory := fun k w =>
  if k = "late" then (.error (.foreign "ValueError" none), w)
  else (.ok (Timer.onWhole 0 5 1).watch, w)

theorem run_eq_sum_oneDown :
    (∀ k ∈ ["up", "down", "up", "late"], ∃ result, ComesTo onePace oneDown (fun _ => {}) k result) ∧
      ∃ a, run List.reverse ["up", "down", "up", "late"] onePace oneDown (fun _ => {})
        = some (.ok a) ∧ a.ready = false := by
  have hdown : ComesTo onePace oneDown (fun _ => {}) "down"
      (.error (.foreign "RuntimeError" (some "unexpected"))) :=
    .probed rfl (by rw [Probe.run, Watch.probe]; rfl)
  have hends : ∀ k ∈ ["up", "down", "up", "late"],
      ∃ result, ComesTo onePace oneDown (fun _ => {}) k result := by
    have hup : ComesTo onePace oneDown (fun _ => {}) "up" (.ok .available) :=
      .probed rfl (by rw [Probe.run, Watch.probe]; rfl)
    have hlate : ComesTo onePace oneDown (fun _ => {}) "late"
        (.error (.foreign "ValueError" none)) :=
      .untimed rfl
    simp only [List.forall_mem_cons]
    exact ⟨⟨_, hup⟩, ⟨_, hdown⟩, ⟨_, hup⟩, ⟨_, hlate⟩, by simp⟩
  obtain ⟨keys, report, -, -, hall⟩ := run_eq_sum _ onePace oneDown (fun _ => {}) hends
  obtain ⟨a, hrun, -, hverdict, -⟩ := hall List.reverse List.reverse_perm
  refine ⟨hends, a, hrun, Bool.eq_false_iff.mpr fun hready => ?_⟩
  have := hdown.unique (hverdict.mp hready "down" (by simp))
  cases this

end StartupGate.CheckAll
