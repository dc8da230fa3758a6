import StartupGate.Proofs.Config.Leaves
/-!
# The documents of a configuration

Many documents are judged as one configuration. One of them is the configuration itself, written
down field by field. Others come about where fields are added that nobody declared: next to the
sections of a document, inside of a section, or inside of an endpoint. The map of clients is no such
place, since every key of it is the name of a client.

* `Entries.Adds`: a record with more fields, and what is known of its declared fields;
* `Config.MoreFields`: a document with more fields, whatever its sections;
* `Config.validate_of_moreFields`: such a document is judged as it was;
* `Config.validate_stable`: what was accepted stays the same when it is written down and judged
  again, and when fields are added.
-/

namespace StartupGate

/-! ## Records with more fields -/

/-- A record with more fields. The fields that were there keep their order, and `kept` relates the
value of a key to what it was before. -/
inductive Entries.Adds (declared : List String) (kept : Data → Data → Data → Prop) :
    Entries → Entries → Prop where
  /-- Nothing was there, and nothing is added. -/
  | nil : Adds declared kept [] []
  /-- A field that was there. -/
  | keep {key value value' : Data} {entries entries' : Entries} :
      kept key value value' → Adds declared kept entries entries' →
      Adds declared kept ((key, value) :: entries) ((key, value') :: entries')
  /-- A new field, under a name that is not declared. -/
  | add {key : Data} (value : Data) {entries entries' : Entries} :
      (∀ name ∈ declared, key ≠ .text name) → Adds declared kept entries entries' →
      Adds declared kept entries ((key, value) :: entries')

/-- A new field does not stand in the way of a declared one. -/
theorem Entries.Adds.field? {declared : List String} {kept : Data → Data → Data → Prop}
    {entries entries' : Entries} (h : Adds declared kept entries entries') {name : String}
    (hname : name ∈ declared) :
    Option.Rel (kept (.text name)) (entries.field? name) (entries'.field? name) := by
  induction h with
  | nil => exact .none
  | @keep key value value' entries entries' hvalue _ ih =>
    by_cases hkey : key = .text name
    · subst hkey
      rw [field?_cons_self, field?_cons_self]
      exact .some hvalue
    · rw [field?_cons_of_ne hkey, field?_cons_of_ne hkey]
      exact ih
  | add value hkey _ ih =>
    rw [field?_cons_of_ne (hkey name hname)]
    exact ih

namespace Config

/-- Data with more fields where it is a record. -/
inductive Widens (declared : List String) (kept : Data → Data → Data → Prop) :
    Data → Data → Prop where
  | same (d : Data) : Widens declared kept d d
  | record {entries entries' : Entries} : entries.Adds declared kept entries' →
      Widens declared kept (.record entries) (.record entries')

/-- A section with more fields; the fields that were there are as they were. -/
abbrev WidensSection (fields : Fields) : Data → Data → Prop :=
  Widens (Named.names fields) fun _ => Eq

/-- The clients under the same keys in the same order, each with more fields. -/
inductive WidensClients : Entries → Entries → Prop where
  | nil : WidensClients [] []
  | cons (key : Data) {value value' : Data} {entries entries' : Entries} :
      WidensSection endpointFields value value' → WidensClients entries entries' →
      WidensClients ((key, value) :: entries) ((key, value') :: entries')

/-- What stands under a key of a document, with more fields. -/
inductive WidensUnder : Data → Data → Data → Prop where
  | same (key d : Data) : WidensUnder key d d
  | service {d d' : Data} : WidensSection serviceFields d d' → WidensUnder (.text "service") d d'
  | clients {entries entries' : Entries} : WidensClients entries entries' →
      WidensUnder (.text "clients") (.record entries) (.record entries')
  | registry {d d' : Data} : WidensSection registryFields d d' →
      WidensUnder (.text "registry") d d'
  | startup {d d' : Data} : WidensSection startupFields d d' → WidensUnder (.text "startup") d d'

/-- A document with more fields: next to its sections, in its sections, and in its clients. -/
abbrev MoreFields : Data → Data → Prop := Widens (Named.names sections) WidensUnder

/-! ## How they are judged -/

section

variable {α : Type} {declared : List String} {kept : Data → Data → Data → Prop}
  {entries entries' : Entries} {d d' : Data}

/-- A field is judged as before if its rule cannot tell the new value from the old one. -/
theorem field_of_adds (hadds : entries.Adds declared kept entries') {name : String}
    (hname : name ∈ declared) {rule : Data → Checked α}
    (hrule : ∀ d d', kept (.text name) d d' → rule d' = rule d) (default : α) :
    field entries' name default rule = field entries name default rule := by
  have hrel := hadds.field? hname
  rw [field, field]
  generalize entries.field? name = old at hrel ⊢
  generalize entries'.field? name = new at hrel ⊢
  cases hrel with
  | none => rfl
  | some hvalue => exact congrArg (Checked.within _) (hrule _ _ hvalue)

theorem leaf_of_adds (hadds : entries.Adds declared (fun _ => Eq) entries') {name : String}
    (hname : name ∈ declared) (default : α) (rule : Data → Except Cause α) :
    leaf entries' name default rule = leaf entries name default rule :=
  field_of_adds hadds hname (fun _ _ hvalue => by rw [hvalue]) default

theorem inSection_of_widens {judge : Entries → Checked α} (expected : Section)
    (h : Widens declared kept d d')
    (hjudge : ∀ entries entries', entries.Adds declared kept entries' →
      judge entries' = judge entries) :
    inSection expected d' judge = inSection expected d judge := by
  cases h with
  | same => rfl
  | record hadds => exact hjudge _ _ hadds

end

variable {d d' : Data}

theorem validateService_of_widens (h : WidensSection serviceFields d d') :
    validateService d' = validateService d := by
  refine inSection_of_widens .service h fun entries entries' hadds => ?_
  exact leaf_of_adds hadds (by simp [Named.names, serviceFields]) _ _

theorem validateEndpoint_of_widens (h : WidensSection endpointFields d d') :
    Endpoint.validate d' = Endpoint.validate d := by
  refine inSection_of_widens .client h fun entries entries' hadds => ?_
  simp (disch := simp [Named.names, endpointFields]) only [leaf_of_adds hadds]

theorem validateAddress_of_widens (h : WidensSection registryFields d d') :
    RegistryAddress.validate d' = RegistryAddress.validate d := by
  refine inSection_of_widens .registry h fun entries entries' hadds => ?_
  simp (disch := simp [Named.names, registryFields]) only [leaf_of_adds hadds]

theorem validateRegistry_of_widens (h : WidensSection registryFields d d') :
    validateRegistry d' = validateRegistry d := by
  cases h with
  | same => rfl
  | record hadds =>
    show (RegistryAddress.validate _).map some = (RegistryAddress.validate _).map some
    rw [validateAddress_of_widens (.record hadds)]

theorem validateStartup_of_widens (h : WidensSection startupFields d d') :
    Startup.validate d' = Startup.validate d := by
  refine inSection_of_widens .startup h fun entries entries' hadds => ?_
  simp (disch := simp [Named.names, startupFields]) only [leaf_of_adds hadds]

theorem validateEntries_of_widens {entries entries' : Entries}
    (h : WidensClients entries entries') :
    validateEntries entries' = validateEntries entries := by
  induction h with
  | nil => rfl
  | cons key hvalue _ ih =>
    rw [validateEntries, validateEntries, validateClient, validateClient,
      validateEndpoint_of_widens hvalue, ih]

theorem validateClients_of_widens {entries entries' : Entries}
    (h : WidensClients entries entries') :
    validateClients (.record entries') = validateClients (.record entries) := by
  rw [validateClients, validateClients, validateEntries_of_widens h]

/-- The rule of each section judges what stands under its key as before. -/
theorem judged_of_widensUnder {key : Data} (h : WidensUnder key d d') :
    (key = .text "service" → validateService d' = validateService d) ∧
    (key = .text "clients" → validateClients d' = validateClients d) ∧
    (key = .text "registry" → validateRegistry d' = validateRegistry d) ∧
    (key = .text "startup" → Startup.validate d' = Startup.validate d) := by
  cases h with
  | same => simp
  | service h => simp [validateService_of_widens h]
  | clients h => simp [validateClients_of_widens h]
  | registry h => simp [validateRegistry_of_widens h]
  | startup h => simp [validateStartup_of_widens h]

/-- A document with more fields is judged as it was. -/
theorem validate_of_moreFields (h : MoreFields d d') : validate d' = validate d := by
  refine inSection_of_widens .config h fun entries entries' hadds => ?_
  have hservice := field_of_adds hadds (by simp [Named.names, sections])
    (fun _ _ hunder => (judged_of_widensUnder hunder).1 rfl) 5000
  have hclients := field_of_adds hadds (by simp [Named.names, sections])
    (fun _ _ hunder => (judged_of_widensUnder hunder).2.1 rfl) []
  have hregistry := field_of_adds hadds (by simp [Named.names, sections])
    (fun _ _ hunder => (judged_of_widensUnder hunder).2.2.1 rfl) none
  have hstartup := field_of_adds hadds (by simp [Named.names, sections])
    (fun _ _ hunder => (judged_of_widensUnder hunder).2.2.2 rfl) {}
  rw [hservice, hclients, hregistry, hstartup]

/-! ## The main statement -/

/-- **What was accepted stays the same.** The configuration of an accepted document, written down
field by field, is judged as itself: no value is read a second time in another way, the clients keep
their order, and every address is the one that it was. Nor does it change where the document has
more fields than were declared. -/
theorem validate_stable {d : Data} {c : Config} (h : validate d = .ok c) :
    validate c.toData = .ok c ∧ ∀ d', MoreFields d d' → validate d' = .ok c := by
  refine ⟨validate_toData (lawful_of_validate h), fun d' hmore => ?_⟩
  rw [validate_of_moreFields hmore, h]

/-- A document that says everything in a roundabout way: numbers as texts and truth values, the kind
of a registry in capitals, a section of defaults. -/
def roundabout : Data := .record
  [(.text "startup", .record [(.text "interval", .text " 7 "), (.text "duration", .bool true)]),
   (.text "registry", .record [(.text "type", .text "CONSUL"), (.text "token", .text "t")]),
   (.text "clients", .record
     [(.text "core-data", .record [(.text "port", .text "59880"), (.text "host", .text "d")]),
      (.text "core-metadata", .record [])]),
   (.text "service", .record [(.text "timeout", .text "0250")])]

/-- The same with fields that nobody declared. -/
def roundaboutWithMore : Data := .record
  [(.text "version", .int 3),
   (.text "startup", .record [(.text "interval", .text " 7 "), (.text "duration", .bool true),
     (.text "jitter", .int 1)]),
   (.text "registry", .record [(.text "path", .null), (.text "type", .text "CONSUL"),
     (.text "token", .text "t")]),
   (.text "clients", .record
     [(.text "core-data", .record [(.text "port", .text "59880"), (.text "timeout", .int (-1)),
        (.text "host", .text "d")]),
      (.text "core-metadata", .record [(.text "ports", .list [])])]),
   (.text "service", .record [(.text "timeout", .text "0250"), (.text "name", .text "x")]),
   (.text "services", .record [])]

/-- The configuration of both. -/
def straight : Config where
  timeout := 250
  clients := [("core-data", { host := "d", port := 59880 }), ("core-metadata", {})]
  registry := some { token := some "t" }
  startup := { duration := some 1, interval := some 7 }

theorem moreFields_roundabout : MoreFields roundabout roundaboutWithMore := by
  refine .record (.add _ ?version (.keep (.startup ?startup) (.keep (.registry ?registry)
    (.keep (.clients (.cons _ ?data (.cons _ ?metadata .nil))) (.keep (.service ?service)
      (.add _ ?services .nil))))))
  case version | services => simp [Named.names, sections]
  case startup =>
    exact .record (.keep rfl (.keep rfl (.add _ (by simp [Named.names, startupFields]) .nil)))
  case registry =>
    exact .record (.add _ (by simp [Named.names, registryFields]) (.keep rfl (.keep rfl .nil)))
  case data =>
    exact .record (.keep rfl (.add _ (by simp [Named.names, endpointFields]) (.keep rfl .nil)))
  case metadata => exact .record (.add _ (by simp [Named.names, endpointFields]) .nil)
  case service =>
    exact .record (.keep rfl (.add _ (by simp [Named.names, serviceFields]) .nil))

theorem validate_stable_roundabout :
    validate roundabout = .ok straight ∧ validate straight.toData = .ok straight ∧
      validate roundaboutWithMore = .ok straight := by
  have haccepted : validate roundabout = .ok straight := rfl
  obtain ⟨hwritten, hmore⟩ := validate_stable haccepted
  exact ⟨haccepted, hwritten, hmore _ moreFields_roundabout⟩

end Config

end StartupGate
