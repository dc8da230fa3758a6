import StartupGate.Proofs.Check.Independence
import StartupGate.Proofs.Config.Accepted
import StartupGate.Proofs.Gate.Gaps
import StartupGate.Proofs.Probe.Course
/-!
# What the gate publishes

The gate opens exactly when no setting of a required service is missing, the worker of each, run
alone, finds its service available, and the base addresses can be written; then the five handles of
the configuration are in the directory and all other handles are what they were. Otherwise the
directory is what it was, and the gate stays shut, or ends in a fault where nothing but the addresses
stood in the way: `Gate.check_publishes_or_keeps`.

- `Gate.check_cases` says what an answer of the gate comes from, and `Gate.conclude_cases` what it
  concludes from a check.
- A port of any size passes validation, so that there are configurations with which the gate ends in
  the fault (`Gate.exists_raised`).
-/

namespace StartupGate

/-! ## The directory after a publication -/

/-- The names under which handles are published. -/
def publishedNames : List String :=
  ["MetadataDeviceClient", "MetadataDeviceServiceClient", "MetadataDeviceProfileClient",
    "MetadataProvisionWatcherClient", "CoredataEventClient"]

/-- `new` holds the five handles of a configuration, four for the metadata and one for the data,
and under every other name the handle of `old`. -/
structure Directory.Publishes (config : Config) (old new : Directory) : Prop where
  device : new.get? "MetadataDeviceClient"
    = some ⟨.device, (config.endpoint metadataService).address⟩
  deviceService : new.get? "MetadataDeviceServiceClient"
    = some ⟨.deviceService, (config.endpoint metadataService).address⟩
  deviceProfile : new.get? "MetadataDeviceProfileClient"
    = some ⟨.deviceProfile, (config.endpoint metadataService).address⟩
  provisionWatcher : new.get? "MetadataProvisionWatcherClient"
    = some ⟨.provisionWatcher, (config.endpoint metadataService).address⟩
  event : new.get? "CoredataEventClient" = some ⟨.event, (config.endpoint dataService).address⟩
  others : ∀ name, name ∉ publishedNames → new.get? name = old.get? name

theorem Directory.publishes_of_publish {config : Config} {d published : Directory}
    (h : d.publish config = .ok published) : d.Publishes config published := by
  obtain ⟨-, rfl⟩ := publish_eq_ok_iff.mp h
  exact
    { device := get?_update ..
      deviceService := get?_update ..
      deviceProfile := get?_update ..
      provisionWatcher := get?_update ..
      event := get?_update ..
      others := by
        intro name hname
        rw [get?_update_of_nodup (Config.nodup_names_handles _ _), Named.lookup_eq_none_iff.mpr hname,
          Option.none_or] }

/-! ## The answers of the gate -/

namespace Gate

/-- What the gate concludes from a check: it opens and publishes, it ends in the fault that kept it
from publishing, or it stays shut. -/
theorem conclude_cases (config : Config) (clients : Directory) (all : CheckAll.Answer) :
    (all.ready = true ∧ ∃ published, clients.publish config = .ok published ∧
      (conclude config clients all).ready = .ok true ∧
      (conclude config clients all).clients = published) ∨
    (all.ready = true ∧ ∃ f, clients.publish config = .error f ∧
      (conclude config clients all).ready = .error f ∧
      (conclude config clients all).clients = clients) ∨
    all.ready = false ∧ (conclude config clients all).ready = .ok false ∧
      (conclude config clients all).clients = clients := by
  rw [conclude]
  split
  · rename_i hready
    split
    · rename_i published hpublished
      exact .inl ⟨hready, published, hpublished, rfl, rfl⟩
    · rename_i f hfault
      exact .inr (.inl ⟨hready, f, hfault, rfl, rfl⟩)
  · rename_i hshut
    exact .inr (.inr ⟨Bool.eq_false_iff.mpr hshut, rfl, rfl⟩)

section Conclude

variable {config : Config} {clients : Directory} {all : CheckAll.Answer}

@[simp] theorem conclude_reports : (conclude config clients all).reports = all.reports := by
  rw [conclude]
  split
  · split <;> rfl
  · rfl

theorem conclude_opens_iff :
    (conclude config clients all).ready = .ok true ↔ all.ready = true ∧ config.FitsAddresses := by
  obtain ⟨hready, published, hpublished, hopen, -⟩ | ⟨hready, f, hfault, hraised, -⟩ |
    ⟨hready, hshut, -⟩ := conclude_cases config clients all
  · exact iff_of_true hopen ⟨hready, (Directory.publish_eq_ok_iff.mp hpublished).1⟩
  · have hlong := (Directory.publish_eq_error_iff.mp hfault).1
    exact iff_of_false (by simp [hraised]) (by simp [hlong])
  · exact iff_of_false (by simp [hshut]) (by simp [hready])

theorem conclude_raises_iff {f : Fault} :
    (conclude config clients all).ready = .error f ↔
      all.ready = true ∧ ¬ config.FitsAddresses ∧ f = .tooManyDigits := by
  obtain ⟨hready, published, hpublished, hopen, -⟩ | ⟨hready, f', hfault, hraised, -⟩ |
    ⟨hready, hshut, -⟩ := conclude_cases config clients all
  · have hfits := (Directory.publish_eq_ok_iff.mp hpublished).1
    exact iff_of_false (by simp [hopen]) (by simp [hfits])
  · obtain ⟨hlong, rfl⟩ := Directory.publish_eq_error_iff.mp hfault
    simp [hraised, hready, hlong, eq_comm]
  · exact iff_of_false (by simp [hshut]) (by simp [hready])

theorem conclude_shut_iff :
    (conclude config clients all).ready = .ok false ↔ all.ready = false := by
  obtain ⟨hready, published, -, hopen, -⟩ | ⟨hready, f, -, hraised, -⟩ | ⟨hready, hshut, -⟩ :=
    conclude_cases config clients all
  · simp [hready, hopen]
  · simp [hready, hraised]
  · simp [hready, hshut]

/-- Where the gate opens, the handles of the configuration were published. -/
theorem publish_conclude (hopen : (conclude config clients all).ready = .ok true) :
    clients.publish config = .ok (conclude config clients all).clients := by
  obtain ⟨-, published, hpublished, -, hclients⟩ | ⟨-, f, -, hraised, -⟩ | ⟨-, hshut, -⟩ :=
    conclude_cases config clients all
  · rw [hpublished, hclients]
  · cases hraised.symm.trans hopen
  · cases hshut.symm.trans hopen

/-- Where it does not, the directory is what it was. -/
theorem clients_conclude (hclosed : (conclude config clients all).ready ≠ .ok true) :
    (conclude config clients all).clients = clients := by
  obtain ⟨-, -, -, hopen, -⟩ | ⟨-, -, -, -, hclients⟩ | ⟨-, -, hclients⟩ :=
    conclude_cases config clients all
  · exact absurd hopen hclosed
  · exact hclients
  · exact hclients

end Conclude

section Check

variable {completion : List String → List String} {timers : TimerFactory} {net : Http.Network}
  {config : Config} {registry : Option RegistryClient} {initial : String → Worker}
  {clients : Directory}

/-- An answer of the gate names a gap, or it is concluded from a check of the required services. -/
theorem check_cases (hcompletion : ∀ l, (completion l).Perm l) {a : Answer}
    (h : check completion timers net config registry initial clients = some a) :
    (∃ gap, config.firstGap? requiredServices = some gap ∧
      a = { ready := .ok false, logs := [⟨.error, gap.message⟩], reports := [], clients }) ∨
    config.firstGap? requiredServices = none ∧
      ∃ (all : CheckAll.Answer) (report : String → CheckAll.Report),
        CheckAll.run completion requiredServices timers (Strategy.select net config registry)
          initial = some (.ok all) ∧
        (∀ k ∈ requiredServices, CheckAll.IsReport timers (Strategy.select net config registry)
          initial k (report k)) ∧
        CheckAll.SumsUp (CheckAll.distinct requiredServices) report all ∧
        a = conclude config clients all := by
  rw [check] at h
  split at h
  · rename_i gap hgap
    exact .inl ⟨gap, hgap, (Option.some.inj h).symm⟩
  · rename_i hgap
    obtain ⟨x, hrun, rfl⟩ := Option.map_eq_some_iff.mp h
    obtain ⟨all, report, rfl, hreport, hsum⟩ := CheckAll.exists_sumsUp_of_run hcompletion hrun
    exact .inr ⟨hgap, all, report, hrun, hreport, hsum, rfl⟩

/-- Without a gap the gate concludes from the check of the required services. -/
theorem check_of_run (hgap : config.firstGap? requiredServices = none) {all : CheckAll.Answer}
    (hrun : CheckAll.run completion requiredServices timers (Strategy.select net config registry)
      initial = some (.ok all)) :
    check completion timers net config registry initial clients
      = some (conclude config clients all) := by
  rw [check, hgap]
  simp only [hrun]
  rfl

/-- Without a gap, and where all workers end, the gate concludes from a check that tells whether
every one of them finds its service available. -/
theorem exists_check_eq_conclude (hcompletion : ∀ l, (completion l).Perm l)
    (hgap : config.firstGap? requiredServices = none)
    (hends : ∀ k ∈ requiredServices, ∃ result,
      CheckAll.ComesTo timers (Strategy.select net config registry) initial k result)
    (clients : Directory) :
    ∃ all, check completion timers net config registry initial clients
        = some (conclude config clients all) ∧
      (all.ready = true ↔ ∀ k ∈ requiredServices,
        CheckAll.ComesTo timers (Strategy.select net config registry) initial k
          (.ok .available)) := by
  -- The answer of the check sums up one report for each service.
  obtain ⟨report, hreport⟩ := CheckAll.exists_reports hends
  obtain ⟨all, hrun, hsum⟩ := CheckAll.exists_answer hreport hcompletion
  exact ⟨all, check_of_run hgap hrun, hsum.ready ▸ CheckAll.verdict_iff hreport⟩

end Check

/-- **The gate publishes or it changes nothing.** Whatever the network or the registry answers,
whatever becomes of the timers, and in whatever order the workers complete, as long as each of them
ends the gate has an answer. It opens exactly when no setting is missing, every required service is
found available by its worker, and the base addresses can be written, and the directory of clients
changes only when it opens. Where a base address has a port with too many digits, and nothing else is
amiss, the gate ends in a fault; in all other cases it stays shut. -/
theorem check_publishes_or_keeps (completion : List String → List String) (timers : TimerFactory)
    (net : Http.Network) (config : Config) (registry : Option RegistryClient)
    (initial : String → Worker) (clients : Directory)
    (hcompletion : ∀ l, (completion l).Perm l)
    (hends : ∀ k ∈ requiredServices, ∃ result,
      CheckAll.ComesTo timers (Strategy.select net config registry) initial k result) :
    ∃ a, check completion timers net config registry initial clients = some a ∧
      (a.ready = .ok true ↔
        (∀ k ∈ requiredServices, (config.endpoint k).host ≠ "" ∧ (config.endpoint k).port ≠ 0) ∧
        (∀ k ∈ requiredServices, CheckAll.ComesTo timers (Strategy.select net config registry)
          initial k (.ok .available)) ∧ config.FitsAddresses) ∧
      (a.ready = .ok true → clients.Publishes config a.clients) ∧
      (a.ready ≠ .ok true → a.clients = clients) ∧
      ∀ f, a.ready = .error f ↔
        (∀ k ∈ requiredServices, (config.endpoint k).host ≠ "" ∧ (config.endpoint k).port ≠ 0) ∧
        (∀ k ∈ requiredServices, CheckAll.ComesTo timers (Strategy.select net config registry)
          initial k (.ok .available)) ∧ ¬ config.FitsAddresses ∧ f = .tooManyDigits := by
  cases hgap : config.firstGap? requiredServices with
  | some gap =>
    -- No worker is started, and the gate stays shut.
    have hmissing : ¬ ∀ k ∈ requiredServices,
        (config.endpoint k).host ≠ "" ∧ (config.endpoint k).port ≠ 0 := by
      rw [← Config.firstGap?_eq_none_iff, hgap]
      simp
    exact ⟨_, by rw [check, hgap], by simp [hmissing], by simp, fun _ => rfl, by simp [hmissing]⟩
  | none =>
    have hcomplete := Config.firstGap?_eq_none_iff.mp hgap
    obtain ⟨all, hcheck, hverdict⟩ := exists_check_eq_conclude hcompletion hgap hends clients
    -- The rest is about what is concluded from a check with this verdict.
    refine ⟨_, hcheck, ?_, fun hopen => ?_, clients_conclude, fun f => ?_⟩
    · rw [conclude_opens_iff, hverdict, and_iff_right hcomplete]
    · exact Directory.publishes_of_publish (publish_conclude hopen)
    · rw [conclude_raises_iff, hverdict, and_iff_right hcomplete]

/-- Both required services have an endpoint. -/
def bothConfigured : Config where
  clients := [(metadataService, ⟨"m", 1, "http"⟩), (dataService, ⟨"d", 2, "http"⟩)]

/-- Every request is answered at once with success. -/
def promptAnswers : Http.Network := fun _ _ => { answer := .ok { status := 200 } }

theorem check_publishes_or_keeps_promptAnswers :
    (∀ l : List String, l.reverse.Perm l) ∧
      ∃ a, check List.reverse (Pace.mk (.whole 5) (.whole 1)).factory promptAnswers bothConfigured
          none (fun _ => {}) ⟨[("Other", ⟨.event, "http://o:3"⟩)]⟩ = some a ∧
        a.ready = .ok true ∧
        a.clients.get? "Other" = some ⟨.event, "http://o:3"⟩ ∧
        a.clients.get? "CoredataEventClient" = some ⟨.event, "http://d:2"⟩ := by
  have havailable : ∀ k ∈ requiredServices, CheckAll.ComesTo
      (Pace.mk (.whole 5) (.whole 1)).factory (Strategy.select promptAnswers bothConfigured none)
      (fun _ => {}) k (.ok .available) := by
    apply forall_required
    · exact .probed rfl (Probe.Course.settled rfl rfl rfl rfl).run_eq
    · exact .probed rfl (Probe.Course.settled rfl rfl rfl rfl).run_eq
  obtain ⟨a, hcheck, hopens, hpublishes, -⟩ := check_publishes_or_keeps List.reverse _
    promptAnswers bothConfigured none (fun _ => {}) ⟨[("Other", ⟨.event, "http://o:3"⟩)]⟩
    List.reverse_perm fun k hk => ⟨_, havailable k hk⟩
  have hopen : a.ready = .ok true := hopens.mpr ⟨by decide, havailable, by decide⟩
  have hnew := hpublishes hopen
  exact ⟨List.reverse_perm, a, hcheck, hopen, hnew.others "Other" (by decide), hnew.event⟩

/-! ## Ports that are accepted -/

/-- Both required services have an endpoint, the data at any port, and the time limit may be any. -/
def dataAt (timeout port : Int) : Config where
  timeout
  clients := [(metadataService, ⟨"m", 1, "http"⟩), (dataService, ⟨"d", port, "http"⟩)]

variable {timeout port : Int}

theorem complete_dataAt (timeout : Int) (h : port ≠ 0) : ∀ k ∈ requiredServices,
    ((dataAt timeout port).endpoint k).host ≠ "" ∧
      ((dataAt timeout port).endpoint k).port ≠ 0 := by
  have hmetadata : (dataAt timeout port).endpoint metadataService = ⟨"m", 1, "http"⟩ := rfl
  have hdata : (dataAt timeout port).endpoint dataService = ⟨"d", port, "http"⟩ := rfl
  apply forall_required
  · simp [hmetadata]
  · simp [hdata, h]

theorem validate_dataAt (htimeout : 1 ≤ timeout) (hport : 0 ≤ port) :
    Config.validate (dataAt timeout port).toData = .ok (dataAt timeout port) := by
  have hnames : [metadataService, dataService].Nodup := by decide
  exact Config.validate_toData
    { timeout := htimeout
      ports := by simp [dataAt, hport]
      names := hnames
      registry := by simp [dataAt]
      startup := ⟨by simp [dataAt], by simp [dataAt]⟩ }

/-- The least port with more digits than are written. -/
def longPort : Int := (Number.tenPow Number.digitLimit : Nat)

theorem longPort_pos : 0 < longPort := by
  have hpos := Number.tenPow_pos Number.digitLimit
  rw [longPort]
  omega

theorem complete_longPort : ∀ k ∈ requiredServices,
    ((dataAt 5000 longPort).endpoint k).host ≠ "" ∧
      ((dataAt 5000 longPort).endpoint k).port ≠ 0 :=
  complete_dataAt 5000 (Int.ne_of_gt longPort_pos)

theorem validate_longPort :
    Config.validate (dataAt 5000 longPort).toData = .ok (dataAt 5000 longPort) :=
  validate_dataAt (by decide) (Int.le_of_lt longPort_pos)

theorem not_fitsAddress_longPort : ¬ FitsAddress longPort :=
  not_fitsAddress_iff.mpr (Nat.le_of_eq (Int.natAbs_natCast _).symm)

theorem not_fitsAddresses_dataAt : ¬ (dataAt 5000 longPort).FitsAddresses := fun h =>
  not_fitsAddress_longPort (h dataService (by decide))

/-- A registry that says yes to every question. -/
def willingRegistry : RegistryClient := .scripted [] []

/-- **A configuration that is accepted can make the gate end in a fault**, although its endpoints are
complete and every worker finds its service available. -/
theorem exists_raised :
    ∃ config a, Config.validate config.toData = .ok config ∧
      (∀ k ∈ requiredServices, (config.endpoint k).host ≠ "" ∧ (config.endpoint k).port ≠ 0) ∧
      (∀ k ∈ requiredServices, CheckAll.ComesTo (Pace.mk (.whole 5) (.whole 1)).factory
        (Strategy.select promptAnswers config (some willingRegistry)) (fun _ => {}) k
        (.ok .available)) ∧
      check List.reverse (Pace.mk (.whole 5) (.whole 1)).factory promptAnswers config
        (some willingRegistry) (fun _ => {}) {} = some a ∧
      a.ready = .error .tooManyDigits ∧ a.clients = {} := by
  -- Nobody looks at the port as long as the registry is asked.
  have havailable : ∀ k ∈ requiredServices, CheckAll.ComesTo
      (Pace.mk (.whole 5) (.whole 1)).factory
      (Strategy.select promptAnswers (dataAt 5000 longPort) (some willingRegistry)) (fun _ => {}) k
      (.ok .available) := by
    apply forall_required
    · exact .probed rfl (Probe.Course.settled rfl rfl rfl rfl).run_eq
    · exact .probed rfl (Probe.Course.settled rfl rfl rfl rfl).run_eq
  obtain ⟨all, hcheck, hverdict⟩ := exists_check_eq_conclude List.reverse_perm
    (Config.firstGap?_eq_none_iff.mpr complete_longPort) (fun k hk => ⟨_, havailable k hk⟩) {}
  have hraised : (conclude (dataAt 5000 longPort) {} all).ready = .error .tooManyDigits :=
    conclude_raises_iff.mpr ⟨hverdict.mpr havailable, not_fitsAddresses_dataAt, rfl⟩
  refine ⟨dataAt 5000 longPort, _, validate_longPort, complete_longPort, havailable, hcheck,
    hraised, clients_conclude ?_⟩
  rw [hraised]
  simp

end Gate

end StartupGate
