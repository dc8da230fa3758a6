import StartupGate.Proofs.Config.Pace
/-!
# Accepted configurations

What validation accepts is lawful: its numbers are in range, its registry is of the one known kind,
and no client is named twice (`Config.lawful_of_validate`). Conversely every lawful configuration is
accepted. It can be written down as a document, field by field, and this document is judged as the
configuration itself (`Config.validate_toData`).
-/

namespace StartupGate

/-! ## Taking an accepted document apart -/

namespace Config

/-- A section whose fields make up a value is accepted as this value where the fields are those of
the value. -/
theorem inSection_map_eq_ok_iff {α β : Type} {expected : Section} {d : Data}
    {fields : Entries → Checked β} {f : β → α} {g : α → β} (hfg : ∀ a, f (g a) = a)
    (hgf : ∀ b, g (f b) = b) {a : α} :
    inSection expected d (fun entries => (fields entries).map f) = .ok a ↔
      ∃ entries, d = .record entries ∧ fields entries = .ok (g a) := by
  rw [inSection_eq_ok_iff]
  refine exists_congr fun entries => and_congr_right fun _ => ?_
  rw [Checked.map_eq_ok_iff]
  constructor
  · rintro ⟨b, hb, rfl⟩
    rw [hb, hgf]
  · exact fun h => ⟨g a, h, hfg a⟩

/-- A document is accepted where each of its four sections is. -/
theorem validate_eq_ok_iff {d : Data} {c : Config} :
    validate d = .ok c ↔ ∃ entries, d = .record entries ∧
      field entries "service" 5000 validateService = .ok c.timeout ∧
      field entries "clients" [] validateClients = .ok c.clients ∧
      field entries "registry" none validateRegistry = .ok c.registry ∧
      field entries "startup" {} Startup.validate = .ok c.startup := by
  simp only [← Checked.both_eq_ok_iff]
  exact inSection_map_eq_ok_iff
    (g := fun c : Config => (c.timeout, c.clients, c.registry, c.startup))
    (fun _ => rfl) (fun _ => rfl)

/-- A value that is there is judged by its rule. -/
theorem field_of_some {α : Type} {entries : Entries} {name : String} {default a : α}
    {rule : Data → Checked α} {d : Data} (hd : entries.field? name = some d)
    (h : rule d = .ok a) : field entries name default rule = .ok a := by
  rw [field, hd]
  exact Checked.within_eq_ok_iff.mpr h

theorem leaf_of_some {α : Type} {entries : Entries} {name : String} {default a : α}
    {rule : Data → Except Cause α} {d : Data} (hd : entries.field? name = some d)
    (h : rule d = .ok a) : leaf entries name default rule = .ok a :=
  field_of_some hd (Checked.ofCause_eq_ok_iff.mpr h)

end Config

/-- An endpoint is accepted where each of its fields is. -/
theorem Endpoint.validate_eq_ok_iff {d : Data} {e : Endpoint} :
    validate d = .ok e ↔ ∃ entries, d = .record entries ∧
      Config.leaf entries "host" "" Config.Field.text = .ok e.host ∧
      Config.leaf entries "port" 0 (Config.Field.atLeast 0) = .ok e.port ∧
      Config.leaf entries "protocol" "http" Config.Field.text = .ok e.protocol := by
  simp only [← Config.Checked.both_eq_ok_iff]
  exact Config.inSection_map_eq_ok_iff (g := fun e : Endpoint => (e.host, e.port, e.protocol))
    (fun _ => rfl) (fun _ => rfl)

/-- The address of a registry is accepted where each of its fields is. -/
theorem RegistryAddress.validate_eq_ok_iff {d : Data} {r : RegistryAddress} :
    validate d = .ok r ↔ ∃ entries, d = .record entries ∧
      Config.leaf entries "host" "localhost" Config.Field.text = .ok r.host ∧
      Config.leaf entries "port" 8500 Config.Field.integer = .ok r.port ∧
      Config.leaf entries "type" "consul" Config.Field.registryKind = .ok r.kind ∧
      Config.leaf entries "scheme" "http" Config.Field.text = .ok r.scheme ∧
      Config.leaf entries "token" none (Config.Field.optional Config.Field.secret)
        = .ok r.token := by
  simp only [← Config.Checked.both_eq_ok_iff]
  exact Config.inSection_map_eq_ok_iff
    (g := fun r : RegistryAddress => (r.host, r.port, r.kind, r.scheme, r.token))
    (fun _ => rfl) (fun _ => rfl)

/-- A startup section is accepted where both of its fields are. -/
theorem Startup.validate_eq_ok_iff {d : Data} {s : Startup} :
    validate d = .ok s ↔ ∃ entries, d = .record entries ∧
      Config.leaf entries "duration" none (Config.Field.optional (Config.Field.atLeast 1))
        = .ok s.duration ∧
      Config.leaf entries "interval" none (Config.Field.optional (Config.Field.atLeast 1))
        = .ok s.interval := by
  simp only [← Config.Checked.both_eq_ok_iff]
  exact Config.inSection_map_eq_ok_iff (g := fun s : Startup => (s.duration, s.interval))
    (fun _ => rfl) (fun _ => rfl)

/-! ## Lawful configurations -/

/-- The numbers of a configuration are in range, its registry is of the known kind, and each client
is named once. -/
structure Config.Lawful (c : Config) : Prop where
  timeout : 1 ≤ c.timeout
  ports : ∀ client ∈ c.clients, 0 ≤ client.2.port
  names : (Named.names c.clients).Nodup
  registry : ∀ r ∈ c.registry, r.kind = "consul"
  startup : c.startup.Judged

theorem Endpoint.port_nonneg_of_validate {d : Data} {e : Endpoint} (h : validate d = .ok e) :
    0 ≤ e.port := by
  obtain ⟨entries, -, -, hport, -⟩ := validate_eq_ok_iff.mp h
  rcases Config.eq_default_or_of_leaf hport with hdefault | ⟨d, hd⟩
  · exact Int.le_of_eq hdefault.symm
  · exact Config.Field.le_of_atLeast hd

/-- One kind of registry is let pass. -/
theorem Config.Field.eq_consul_of_registryKind {d : Data} {kind : String}
    (h : registryKind d = .ok kind) : kind = "consul" := by
  rw [registryKind] at h
  cases hs : text d with
  | error e => simp [hs, bind, Except.bind] at h
  | ok s =>
    simp only [hs, bind, Except.bind] at h
    split at h
    · rename_i hconsul
      exact (Except.ok.inj h).symm.trans hconsul
    · simp [throw, throwThe, MonadExceptOf.throw] at h

theorem RegistryAddress.kind_of_validate {d : Data} {r : RegistryAddress}
    (h : validate d = .ok r) : r.kind = "consul" := by
  obtain ⟨entries, -, -, -, hkind, -⟩ := validate_eq_ok_iff.mp h
  rcases Config.eq_default_or_of_leaf hkind with hdefault | ⟨d, hd⟩
  · exact hdefault
  · exact Config.Field.eq_consul_of_registryKind hd

namespace Config

theorem validateClient_eq_ok_iff {key value : Data} {name : String} {e : Endpoint} :
    validateClient key value = .ok (name, e) ↔
      Field.text key = .ok name ∧ Endpoint.validate value = .ok e := by
  rw [validateClient, Checked.within_eq_ok_iff, Checked.both_eq_ok_iff, Checked.within_eq_ok_iff,
    Checked.ofCause_eq_ok_iff]

theorem validateEntries_cons_eq_ok_iff {key value : Data} {rest : Entries} {name : String}
    {e : Endpoint} {clients : Named Endpoint} :
    validateEntries ((key, value) :: rest) = .ok ((name, e) :: clients) ↔
      (Field.text key = .ok name ∧ Endpoint.validate value = .ok e) ∧
        validateEntries rest = .ok clients := by
  rw [validateEntries, Checked.map_eq_ok_iff, ← validateClient_eq_ok_iff,
    ← Checked.both_eq_ok_iff]
  constructor
  · rintro ⟨⟨first, others⟩, hboth, hcons⟩
    obtain ⟨rfl, rfl⟩ := List.cons.inj hcons
    exact hboth
  · exact fun hboth => ⟨_, hboth, rfl⟩

theorem port_nonneg_of_validateEntries {entries : Entries} {clients : Named Endpoint}
    (h : validateEntries entries = .ok clients) : ∀ client ∈ clients, 0 ≤ client.2.port := by
  induction entries generalizing clients with
  | nil =>
    obtain rfl := Except.ok.inj h
    simp
  | cons first rest ih =>
    obtain ⟨⟨⟨name, e⟩, others⟩, -, rfl⟩ := Checked.map_eq_ok_iff.mp h
    obtain ⟨⟨-, he⟩, hrest⟩ := validateEntries_cons_eq_ok_iff.mp h
    exact List.forall_mem_cons.mpr ⟨Endpoint.port_nonneg_of_validate he, ih hrest⟩

theorem lawful_clients {d : Data} {clients : Named Endpoint} (h : validateClients d = .ok clients) :
    (∀ client ∈ clients, 0 ≤ client.2.port) ∧ (Named.names clients).Nodup := by
  cases d with
  | record entries =>
    -- The entries are judged one by one, and then the last one of each name is kept.
    obtain ⟨judged, hjudged, rfl⟩ := Checked.map_eq_ok_iff.mp h
    have hports := port_nonneg_of_validateEntries hjudged
    have hnone : (Named.names ([] : Named Endpoint)).Nodup := List.nodup_nil
    exact ⟨Named.forall_mem_assignAll (p := fun e : Endpoint => 0 ≤ e.port) (by simp) hports,
      Named.nodup_names_assignAll hnone judged⟩
  | _ => cases h

theorem kind_of_validateRegistry {d : Data} {registry : Option RegistryAddress}
    (h : validateRegistry d = .ok registry) : ∀ r ∈ registry, r.kind = "consul" := by
  unfold validateRegistry at h
  split at h
  · obtain rfl := Except.ok.inj h
    simp
  · obtain ⟨r, hr, rfl⟩ := Checked.map_eq_ok_iff.mp h
    simpa using RegistryAddress.kind_of_validate hr

/-- The time limit of a service section that was accepted is positive. -/
theorem one_le_of_validateService {d : Data} {timeout : Int}
    (h : validateService d = .ok timeout) : 1 ≤ timeout := by
  obtain ⟨entries, -, hleaf⟩ := inSection_eq_ok_iff.mp h
  rcases eq_default_or_of_leaf hleaf with rfl | ⟨d, hd⟩
  · decide
  · exact Field.le_of_atLeast hd

/-- The time limit of a configuration that was accepted is positive, be it given or not. -/
theorem one_le_timeout {d : Data} {config : Config} (h : validate d = .ok config) :
    1 ≤ config.timeout := by
  obtain ⟨entries, -, htimeout, -⟩ := validate_eq_ok_iff.mp h
  rcases eq_default_or_of_field htimeout with hdefault | ⟨service, hservice⟩
  · rw [hdefault]
    decide
  · exact one_le_of_validateService hservice

/-- What validation accepts is lawful. -/
theorem lawful_of_validate {d : Data} {c : Config} (h : validate d = .ok c) : c.Lawful := by
  obtain ⟨entries, -, -, hclients, hregistry, -⟩ := validate_eq_ok_iff.mp h
  have hlawful : (∀ client ∈ c.clients, 0 ≤ client.2.port) ∧ (Named.names c.clients).Nodup := by
    rcases eq_default_or_of_field hclients with hnone | ⟨d, hd⟩
    · rw [hnone]
      exact ⟨by simp, List.nodup_nil⟩
    · exact lawful_clients hd
  have hkind : ∀ r ∈ c.registry, r.kind = "consul" := by
    rcases eq_default_or_of_field hregistry with hnone | ⟨d, hd⟩
    · rw [hnone]
      simp
    · exact kind_of_validateRegistry hd
  exact ⟨one_le_timeout h, hlawful.1, hlawful.2, hkind, judged_of_validate h⟩

end Config

/-! ## The document of a configuration -/

/-- What may be missing, written down. -/
def Data.ofOption {α : Type} (write : α → Data) : Option α → Data
  | none => .null
  | some a => write a

/-- An endpoint, written down. -/
def Endpoint.toData (e : Endpoint) : Data := .record
  [(.text "host", .text e.host), (.text "port", .int e.port), (.text "protocol", .text e.protocol)]

/-- The address of a registry, written down with its token in clear. -/
def RegistryAddress.toData (r : RegistryAddress) : Data := .record
  [(.text "host", .text r.host), (.text "port", .int r.port), (.text "type", .text r.kind),
   (.text "scheme", .text r.scheme), (.text "token", .ofOption .text r.token)]

/-- A startup section, written down. -/
def Startup.toData (s : Startup) : Data := .record
  [(.text "duration", .ofOption .int s.duration), (.text "interval", .ofOption .int s.interval)]

/-- The clients, written down in their order. -/
def Config.clientsToData (clients : Named Endpoint) : Data :=
  .record (clients.map fun client => (.text client.1, client.2.toData))

/-- A configuration, written down as a document. -/
def Config.toData (c : Config) : Data := .record
  [(.text "service", .record [(.text "timeout", .int c.timeout)]),
   (.text "clients", clientsToData c.clients),
   (.text "registry", .ofOption RegistryAddress.toData c.registry),
   (.text "startup", c.startup.toData)]

namespace Config

theorem Field.atLeast_int {least n : Int} (h : least ≤ n) : atLeast least (.int n) = .ok n :=
  if_pos h

theorem Field.optional_ofOption {α : Type} {rule : Data → Except Cause α} {write : α → Data}
    {value : Option α} (hnull : ∀ a, write a ≠ .null)
    (h : ∀ a ∈ value, rule (write a) = .ok a) :
    optional rule (Data.ofOption write value) = .ok value := by
  cases value with
  | none => rfl
  | some a =>
    show optional rule (write a) = .ok (some a)
    unfold optional
    split
    · rename_i hwritten
      exact absurd hwritten (hnull a)
    · rw [h a rfl]
      rfl

end Config

theorem Endpoint.validate_toData {e : Endpoint} (hport : 0 ≤ e.port) :
    validate e.toData = .ok e :=
  validate_eq_ok_iff.mpr ⟨_, rfl, Config.leaf_of_some rfl rfl,
    Config.leaf_of_some rfl (Config.Field.atLeast_int hport), Config.leaf_of_some rfl rfl⟩

theorem RegistryAddress.validate_toData {r : RegistryAddress} (hkind : r.kind = "consul") :
    validate r.toData = .ok r := by
  have htype : Config.Field.registryKind (.text r.kind) = .ok r.kind := by
    rw [hkind]
    rfl
  have htoken : Config.Field.optional Config.Field.secret (.ofOption .text r.token) = .ok r.token :=
    Config.Field.optional_ofOption (by simp) fun _ _ => rfl
  exact validate_eq_ok_iff.mpr ⟨_, rfl, Config.leaf_of_some rfl rfl, Config.leaf_of_some rfl rfl,
    Config.leaf_of_some rfl htype, Config.leaf_of_some rfl rfl, Config.leaf_of_some rfl htoken⟩

theorem Startup.validate_toData {s : Startup} (hjudged : s.Judged) : validate s.toData = .ok s := by
  have hseconds : ∀ n : Option Int, (∀ m ∈ n, 1 ≤ m) →
      Config.Field.optional (Config.Field.atLeast 1) (.ofOption .int n) = .ok n :=
    fun n hn => Config.Field.optional_ofOption (by simp) fun m hm =>
      Config.Field.atLeast_int (hn m hm)
  exact validate_eq_ok_iff.mpr ⟨_, rfl, Config.leaf_of_some rfl (hseconds _ hjudged.duration),
    Config.leaf_of_some rfl (hseconds _ hjudged.interval)⟩

namespace Config

theorem validateClients_clientsToData {clients : Named Endpoint}
    (hports : ∀ client ∈ clients, 0 ≤ client.2.port) (hnames : (Named.names clients).Nodup) :
    validateClients (clientsToData clients) = .ok clients := by
  have hentries : validateEntries (clients.map fun client => (.text client.1, client.2.toData))
      = .ok clients := by
    clear hnames
    induction clients with
    | nil => rfl
    | cons first rest ih =>
      obtain ⟨hfirst, hrest⟩ := List.forall_mem_cons.mp hports
      exact validateEntries_cons_eq_ok_iff.mpr
        ⟨⟨rfl, Endpoint.validate_toData hfirst⟩, ih hrest⟩
  have hdistinct : (Named.names ([] ++ clients)).Nodup := hnames
  -- Distinct names keep their values and their order.
  exact Checked.map_eq_ok_iff.mpr ⟨clients, hentries, Named.assignAll_of_nodup hdistinct⟩

theorem validateRegistry_ofOption {registry : Option RegistryAddress}
    (h : ∀ r ∈ registry, r.kind = "consul") :
    validateRegistry (.ofOption RegistryAddress.toData registry) = .ok registry := by
  cases registry with
  | none => rfl
  | some r =>
    exact Checked.map_eq_ok_iff.mpr ⟨r, RegistryAddress.validate_toData (h r rfl), rfl⟩

/-- A lawful configuration is what the document of it is judged as. -/
theorem validate_toData {c : Config} (h : c.Lawful) : validate c.toData = .ok c := by
  refine validate_eq_ok_iff.mpr ⟨_, rfl, ?service, ?clients, ?registry, ?startup⟩
  case service =>
    refine field_of_some rfl (inSection_eq_ok_iff.mpr ⟨_, rfl, ?_⟩)
    exact leaf_of_some rfl (Field.atLeast_int h.timeout)
  case clients => exact field_of_some rfl (validateClients_clientsToData h.ports h.names)
  case registry => exact field_of_some rfl (validateRegistry_ofOption h.registry)
  case startup => exact field_of_some rfl (Startup.validate_toData h.startup)

end Config

end StartupGate
