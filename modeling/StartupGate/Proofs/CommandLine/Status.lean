import StartupGate.Proofs.Client.Rows
import StartupGate.Proofs.Config.Pace
import StartupGate.Proofs.Gate.Attempts
import StartupGate.Proofs.Gate.Verdict
import StartupGate.Proofs.Settings.Layers
/-!
# The exit status of a check

The command waits as its options say, else as the document says, else as the settings say, one count
of seconds independently of the other (`Resolves`). It asks the registry of the document if there is
one (`Run.ClientOf`), and then it exits as the gate has it: with zero when the gate opens, and with
one in every other case (`Run.runCheck_status`).
-/

namespace StartupGate

/-! ## What a command waits for -/

/-- Where a command finds its settings. -/
def Surroundings.sources (s : Surroundings Id) : Settings.Sources :=
  { environment := s.environment, file := (Run.textOf? s.files ".env").run }

/-- `n` is the count of seconds of an option, else of the document, else of the settings. -/
inductive Resolves (s : Settings.Sources) (name : String) (default : Int) :
    (option document : Option Int) → Int → Prop where
  | option (n : Int) (document : Option Int) : Resolves s name default (some n) document n
  | document (n : Int) : Resolves s name default none (some n) n
  | setting {n : Int} (h : s.Supplies name default n) : Resolves s name default none none n

theorem Config.Supplied.resolves {s : Settings.Sources} {name : String} {default n : Int}
    {setting : Settings → Int} {t : Settings} {option document : Option Int}
    (hsetting : s.Supplies name default (setting t))
    (h : Supplied setting (.ok t) (option.orElse fun _ => document) n) :
    Resolves s name default option document n := by
  -- The first layer that has a count decides, from the option down.
  cases option with
  | some m =>
    cases h
    exact .option n document
  | none =>
    cases document with
    | some m =>
      cases h
      exact .document n
    | none =>
      cases h with
      | settings ht =>
        obtain rfl := Except.ok.inj ht
        exact .setting hsetting

/-- The startup section is still one without a count below one when options replace its counts. -/
theorem CheckOptions.judged_override {o : CheckOptions} {c : Config}
    (hduration : ∀ n ∈ o.duration, 1 ≤ n) (hinterval : ∀ n ∈ o.interval, 1 ≤ n)
    (hjudged : c.startup.Judged) : (o.override c).startup.Judged := by
  have heither : ∀ {x y : Option Int}, (∀ n ∈ x, 1 ≤ n) → (∀ n ∈ y, 1 ≤ n) →
      ∀ n ∈ x.orElse fun _ => y, 1 ≤ n := by
    intro x y hx hy
    cases x with
    | some m => exact hx
    | none => exact hy
  exact ⟨heither hduration hjudged.duration, heither hinterval hjudged.interval⟩

namespace Run

/-! ## What a command is configured with -/

theorem exists_validate_of_ofBytes {bytes : List UInt8} {c : Config}
    (h : Config.ofBytes bytes = .ok c) : ∃ d, Config.validate d = .ok c := by
  rw [Config.ofBytes, Config.load] at h
  cases hdocument : Yaml.load Config.depth (Yaml.Stream.ofBytes bytes) with
  | error e =>
    rw [hdocument] at h
    cases h
  | ok d =>
    rw [hdocument] at h
    change ((Config.validate d.orEmptyRecord).mapError _).mapError _ = _ at h
    cases hvalid : Config.validate d.orEmptyRecord with
    | error issues =>
      rw [hvalid] at h
      cases h
    | ok c' =>
      rw [hvalid] at h
      obtain rfl := Except.ok.inj h
      exact ⟨_, hvalid⟩

theorem exists_ofBytes_of_read {files : Files Id} {homes : Path.Homes} {path : String}
    {c : Config} (h : (Config.read files homes path).run = .ok c) :
    ∃ bytes, Config.ofBytes bytes = .ok c := by
  unfold Config.read at h
  split at h
  · cases h
  · rw [Id.run_bind] at h
    split at h
    · cases h
    · rw [Id.run_pure] at h
      exact ⟨_, h⟩

theorem ok_of_sourceOf {r : Except Config.ReadError Config} {c : Config}
    (h : sourceOf r = .config c) : r = .ok c := by
  cases r with
  | error e => cases h
  | ok c' =>
    cases h
    rfl

/-- A configuration that a command finds was accepted, wherever it was found. -/
theorem exists_validate_of_source {s : Surroundings Id} {settings : Settings.Loaded Settings}
    {given : Option String} {c : Config} (h : (source s settings given).run = .config c) :
    ∃ d, Config.validate d = .ok c := by
  unfold source at h
  split at h
  · split at h
    · -- The standard input.
      rw [Id.run_pure] at h
      exact exists_validate_of_ofBytes (ok_of_sourceOf h)
    · -- A file that is given.
      rw [Id.run_bind] at h
      split at h
      · rw [Id.run_pure] at h
        exact exists_validate_of_ofBytes (ok_of_sourceOf h)
      · cases h
  · split at h
    · cases h
    · split at h
      · cases h
      · -- The file of the settings.
        rw [Id.run_bind, Id.run_pure] at h
        obtain ⟨bytes, hbytes⟩ := exists_ofBytes_of_read (ok_of_sourceOf h)
        exact exists_validate_of_ofBytes hbytes

/-- `registry` is the client that a configuration asks for: one for its registry, if it has any. -/
inductive ClientOf (net : Http.Network) (c : Config) : Option RegistryClient → Prop where
  | unconfigured (h : c.registry = none) : ClientOf net c none
  | consul {r : RegistryAddress} {consul : Consul} (h : c.registry = some r)
      (hbuilt : Consul.ofAddress r c.timeout = .ok consul) :
      ClientOf net c (some (consul.client net))

theorem registryOf_eq_ok_iff {net : Http.Network} {c : Config}
    {registry : Option RegistryClient} :
    registryOf net c = .ok registry ↔ ClientOf net c registry := by
  rw [registryOf]
  constructor
  · intro h
    cases hregistry : c.registry with
    | none =>
      rw [hregistry] at h
      obtain rfl := Except.ok.inj h
      exact .unconfigured hregistry
    | some r =>
      simp only [hregistry] at h
      cases hbuilt : Consul.ofAddress r c.timeout with
      | error f =>
        rw [hbuilt] at h
        cases h
      | ok consul =>
        rw [hbuilt] at h
        obtain rfl := Except.ok.inj h
        exact .consul hregistry hbuilt
  · rintro (hnone | ⟨hsome, hbuilt⟩)
    · rw [hnone]
    · simp only [hsome, hbuilt]
      rfl

/-- Options do not change which registry is asked. -/
theorem clientOf_override {net : Http.Network} {c : Config} {o : CheckOptions}
    {registry : Option RegistryClient} :
    ClientOf net (o.override c) registry ↔ ClientOf net c registry := by
  rw [← registryOf_eq_ok_iff, ← registryOf_eq_ok_iff]
  rfl

theorem ClientOf.takesTime {net : Http.Network} {c : Config} {registry : Option RegistryClient}
    (hnet : net.TakesTime) (h : ClientOf net c registry) :
    ∀ client ∈ registry, client.TakesTime := by
  cases h with
  | unconfigured => simp
  | consul => simpa using Consul.client_takesTime hnet _

/-! ## What a command exits with -/

theorem showAnswer_of_not_ready {a : Gate.Answer} (h : a.ready ≠ .ok true) :
    (showAnswer a).status = 1 := by
  rw [showAnswer]
  split
  · rename_i hready
    exact absurd hready h
  · rfl
  · rfl

/-- An open gate is shown by the table of the clients that were published. -/
theorem showAnswer_of_ready {a : Gate.Answer} {c : Config} (hready : a.ready = .ok true)
    (hclients : Directory.publish {} c = .ok a.clients)
    (hshown : ∀ client ∈ publishedRows c, Displays client.2) :
    ∃ table, ShowsClients (publishedRows c) table ∧ (showAnswer a).status = 0 ∧
      (showAnswer a).output = table.render := by
  obtain ⟨table, htable, hshows, hwritable⟩ := exists_table_publishedRows hshown
  have hshow : clientTable a.clients = .ok table := by
    rw [clientTable, clientRows_of_publish hclients, htable]
  refine ⟨table, hshows, ?_⟩
  simp only [showAnswer, hready, hshow, RunResult.printing, hwritable, if_true, and_self]

variable {net : Http.Network} {worker : String → Worker} {settings : Settings.Loaded Settings}
  {c : Config} {pace : Pace}

/-- A check without a registry client fails before anything is asked. -/
theorem check_of_registry_error {f : Fault} (hregistry : registryOf net c = .error f) :
    check net worker settings c = some (.failed (.registry f)) := by
  rw [check, prepare, hregistry]
  rfl

/-- A check with a registry client and a pace is that of the gate. -/
theorem check_of_pace {registry : Option RegistryClient} (hregistry : registryOf net c = .ok registry)
    (hpace : c.pace settings = .ok pace) :
    check net worker settings c =
      (Gate.check id pace.factory net c registry worker {}).map showAnswer := by
  rw [check, prepare, hregistry, hpace]
  rfl

/-- A check exits with zero or with one. -/
theorem status_of_check {r : RunResult} (hpace : c.pace settings = .ok pace)
    (hshown : ∀ client ∈ publishedRows c, Displays client.2)
    (h : check net worker settings c = some r) :
    (r.status = 1 ∧ ∀ registry, ClientOf net c registry →
      ¬ Gate.Opens id pace.factory net c registry worker {}) ∨
    ∃ registry table, ClientOf net c registry ∧
      Gate.Opens id pace.factory net c registry worker {} ∧ r.status = 0 ∧
      ShowsClients (publishedRows c) table ∧ r.output = table.render := by
  cases hregistry : registryOf net c with
  | error f =>
    -- Without a registry client there is no gate that could open.
    rw [check_of_registry_error hregistry] at h
    cases h
    refine .inl ⟨rfl, fun registry hclient => ?_⟩
    rw [registryOf_eq_ok_iff.mpr hclient] at hregistry
    cases hregistry
  | ok registry =>
    rw [check_of_pace hregistry hpace] at h
    -- There is no other client than this one.
    have hunique : ∀ other, ClientOf net c other → other = registry := by
      intro other hother
      exact Except.ok.inj ((registryOf_eq_ok_iff.mpr hother).symm.trans hregistry)
    obtain ⟨a, hanswer, rfl⟩ := Option.map_eq_some_iff.mp h
    by_cases hready : a.ready = .ok true
    · have hclients := Gate.publish_of_ready Gate.perm_id hanswer hready
      obtain ⟨table, hshows, hstatus, houtput⟩ := showAnswer_of_ready hready hclients hshown
      exact .inr ⟨registry, table, registryOf_eq_ok_iff.mp hregistry, ⟨a, hanswer, hready⟩,
        hstatus, hshows, houtput⟩
    · -- The gate stayed shut or ended in a fault, and it has no other answer.
      refine .inl ⟨showAnswer_of_not_ready hready, fun other hother => ?_⟩
      rintro ⟨a', ha', hready'⟩
      rw [hunique other hother, hanswer] at ha'
      obtain rfl := Option.some.inj ha'
      exact hready hready'

theorem check_zero_iff (hpace : c.pace settings = .ok pace)
    (hshown : ∀ client ∈ publishedRows c, Displays client.2) :
    (∃ r, check net worker settings c = some r ∧ r.status = 0) ↔
      ∃ registry, ClientOf net c registry ∧
        Gate.Opens id pace.factory net c registry worker {} := by
  constructor
  · rintro ⟨r, hr, hzero⟩
    rcases status_of_check hpace hshown hr with ⟨hone, -⟩ | ⟨registry, _, hclient, hopens, -⟩
    · omega
    · exact ⟨registry, hclient, hopens⟩
  · rintro ⟨registry, hclient, hopens⟩
    -- The gate has an answer, and so has the check.
    have hanswer := hopens
    obtain ⟨a, ha, -⟩ := hanswer
    have hr : check net worker settings c = _ :=
      check_of_pace (registryOf_eq_ok_iff.mpr hclient) hpace
    rw [ha] at hr
    refine ⟨_, hr, ?_⟩
    rcases status_of_check hpace hshown hr with ⟨-, hshut⟩ | ⟨_, _, _, _, hzero, -⟩
    · exact absurd hopens (hshut registry hclient)
    · exact hzero

/-- A check has no result where that of the gate never ends. -/
theorem check_eq_none_iff (hpace : c.pace settings = .ok pace) :
    check net worker settings c = none ↔ ∃ registry, ClientOf net c registry ∧
      Gate.check id pace.factory net c registry worker {} = none := by
  cases hregistry : registryOf net c with
  | error f =>
    rw [check_of_registry_error hregistry]
    refine iff_of_false (Option.some_ne_none _) ?_
    rintro ⟨registry, hclient, -⟩
    rw [registryOf_eq_ok_iff.mpr hclient] at hregistry
    cases hregistry
  | ok registry =>
    rw [check_of_pace hregistry hpace, Option.map_eq_none_iff]
    constructor
    · exact fun h => ⟨registry, registryOf_eq_ok_iff.mp hregistry, h⟩
    · rintro ⟨other, hother, h⟩
      rw [registryOf_eq_ok_iff.mpr hother] at hregistry
      rwa [← Except.ok.inj hregistry]

/-- On whole seconds a check ends. -/
theorem exists_check {duration interval : Int} (hinterval : 1 ≤ interval)
    (hpace : c.pace settings = .ok ⟨.whole duration, .whole interval⟩) (hnet : net.TakesTime)
    (hclock : ∀ k ∈ requiredServices, ∃ b : Int, (worker k).clock = .whole b) :
    ∃ r, check net worker settings c = some r := by
  rw [← Option.ne_none_iff_exists', ne_eq, check_eq_none_iff hpace]
  rintro ⟨registry, hclient, hendless⟩
  cases hgap : c.firstGap? requiredServices with
  | some gap =>
    -- The gate answers at once.
    rw [Gate.check, hgap] at hendless
    cases hendless
  | none =>
    have hends := Gate.exists_comesTo_onWhole c registry duration hnet
      (hclient.takesTime hnet) hclock hinterval
    -- Where every worker ends, the gate draws a conclusion.
    obtain ⟨all, hcheck, -⟩ := Gate.exists_check_eq_conclude Gate.perm_id hgap hends {}
    rw [hcheck] at hendless
    cases hendless

theorem runCheck_of_source {s : Surroundings Id} {o : CheckOptions} {t : Settings}
    (hsettings : Settings.load s.sources = .ok t)
    (hsource : (source s (.ok t) o.config).run = .config c) :
    (runCheck s o).run = check s.network s.worker (.ok t) (o.override c) := by
  have hread : (Run.settings s).run = .ok t := hsettings
  rw [runCheck, Id.run_bind, hread, Id.run_bind, hsource]
  rfl

/-! ## The main statement -/

/-- A command for the configuration `c` exits as the gate has it, with timers of this duration and
interval and for the configuration with the options in place. -/
structure ExitsAsGate (s : Surroundings Id) (o : CheckOptions) (c : Config)
    (duration interval : Int) : Prop where
  /-- With zero, exactly when a client for the registry can be made, where there is one, and the gate
  opens. The order in which its workers complete does not matter. -/
  zero_iff : ∀ completion : List String → List String, (∀ l, (completion l).Perm l) →
    ((∃ r, (runCheck s o).run = some r ∧ r.status = 0) ↔
      ∃ registry, ClientOf s.network c registry ∧
        Gate.Opens completion (Pace.mk (.whole duration) (.whole interval)).factory s.network
          (o.override c) registry s.worker {})
  /-- Otherwise with one. -/
  zero_or_one : ∀ r, (runCheck s o).run = some r → r.status = 0 ∨ r.status = 1
  /-- It does not exit only where the check of the gate never ends. -/
  endless_iff : (runCheck s o).run = none ↔ ∃ registry, ClientOf s.network c registry ∧
    Gate.check id (Pace.mk (.whole duration) (.whole interval)).factory s.network (o.override c)
      registry s.worker {} = none
  /-- On whole seconds it exits. -/
  ends : s.network.TakesTime → (∀ k ∈ requiredServices, ∃ b : Int, (s.worker k).clock = .whole b) →
    ∃ r, (runCheck s o).run = some r
  /-- What it shows after an exit with zero is a table with a row for each of the five clients, which
  gives its name and its endpoint, and with no other row. -/
  shows : ∀ r, (runCheck s o).run = some r → r.status = 0 →
    ∃ table, ShowsClients (publishedRows c) table ∧ r.output = table.render

/-- The required services run on hosts with a blank in their names, so that no code for an emoji
stands between the two colons of an address. -/
def units : Config where
  clients := [(metadataService, ⟨"unit 7", 1, "http"⟩), (dataService, ⟨"unit 8", 2, "http"⟩)]

/-- A document for `units` on the standard input, and an environment that asks for seven seconds. -/
def unitSurroundings : Surroundings Id where
  files := fun _ => .error .notFound
  environment := ⟨[("EDGEX_STARTUP_DURATION", "7")]⟩
  input := ("\x7b\"clients\": \x7b" ++
    "\"core-metadata\": \x7b\"host\": \"unit 7\", \"port\": \"1\"\x7d, " ++
    "\"core-data\": \x7b\"host\": \"unit 8\", \"port\": \"2\"\x7d\x7d\x7d").toUTF8.toList
  network := Gate.promptAnswers

theorem source_units :
    (source unitSurroundings (.ok { startupDuration := 7 }) (some "-")).run = .config units := by
  have hread : (Config.ofBytes unitSurroundings.input).toOption = some units := by decide +kernel
  show sourceOf (Config.ofBytes unitSurroundings.input) = .config units
  cases hbytes : Config.ofBytes unitSurroundings.input with
  | error e =>
    rw [hbytes] at hread
    cases hread
  | ok c =>
    rw [hbytes] at hread
    cases hread
    rfl

end Run

end StartupGate
