import StartupGate.Config.Basic
import StartupGate.Config.Field
/-!
# Validation of a configuration

`Config.validate` judges data as a configuration. Every field is judged by its own rule, a missing
field takes its default, and fields that are not known are passed over. All issues are reported, in
the order of the fields and, among the clients, of the document; a section of the wrong type counts
as one issue in place of its fields.
-/

namespace StartupGate

namespace Config

/-! ## Reading fields -/

/-- A field by its rule, or its default where it is missing. -/
def field {α : Type} (entries : Entries) (name : String) (default : α)
    (rule : Data → Checked α) : Checked α :=
  match entries.field? name with
  | none => .ok default
  | some d => (rule d).within (.name name)

/-- A field whose rule knows a single cause. -/
def leaf {α : Type} (entries : Entries) (name : String) (default : α)
    (rule : Data → Except Cause α) : Checked α :=
  field entries name default fun d => .ofCause (rule d)

/-- Judges the fields of a section, which has to be a record. -/
def inSection {α : Type} (expected : Section) (d : Data) (fields : Entries → Checked α) :
    Checked α :=
  match d with
  | .record entries => fields entries
  | _ => .error [⟨[], .notSection expected⟩]

/-- A field that was accepted is its default, or its rule accepted it. -/
theorem eq_default_or_of_field {α : Type} {entries : Entries} {name : String} {default a : α}
    {rule : Data → Checked α} (h : field entries name default rule = .ok a) :
    a = default ∨ ∃ d, rule d = .ok a := by
  rw [field] at h
  split at h
  · exact .inl (Except.ok.inj h).symm
  · exact .inr ⟨_, Checked.within_eq_ok_iff.mp h⟩

theorem eq_default_or_of_leaf {α : Type} {entries : Entries} {name : String} {default a : α}
    {rule : Data → Except Cause α} (h : leaf entries name default rule = .ok a) :
    a = default ∨ ∃ d, rule d = .ok a := by
  refine (eq_default_or_of_field h).imp_right ?_
  rintro ⟨d, hd⟩
  exact ⟨d, Checked.ofCause_eq_ok_iff.mp hd⟩

/-- A section is accepted where it is a record of accepted fields. -/
theorem inSection_eq_ok_iff {α : Type} {expected : Section} {d : Data}
    {fields : Entries → Checked α} {a : α} :
    inSection expected d fields = .ok a ↔
      ∃ entries, d = .record entries ∧ fields entries = .ok a := by
  cases d <;> simp [inSection]

end Config

/-! ## Sections -/

/-- Judges data as an endpoint. -/
def Endpoint.validate (d : Data) : Config.Checked Endpoint :=
  Config.inSection .client d fun entries =>
    (Config.Checked.both (Config.leaf entries "host" "" Config.Field.text)
      (Config.Checked.both (Config.leaf entries "port" 0 (Config.Field.atLeast 0))
        (Config.leaf entries "protocol" "http" Config.Field.text))).map
      fun (host, port, protocol) => { host, port, protocol }

/-- Judges data as the address of a registry. -/
def RegistryAddress.validate (d : Data) : Config.Checked RegistryAddress :=
  Config.inSection .registry d fun entries =>
    (Config.Checked.both (Config.leaf entries "host" "localhost" Config.Field.text)
      (Config.Checked.both (Config.leaf entries "port" 8500 Config.Field.integer)
        (Config.Checked.both (Config.leaf entries "type" "consul" Config.Field.registryKind)
          (Config.Checked.both (Config.leaf entries "scheme" "http" Config.Field.text)
            (Config.leaf entries "token" none (Config.Field.optional Config.Field.secret)))))).map
      fun (host, port, kind, scheme, token) => { host, port, kind, scheme, token }

/-- Judges data as the startup section. -/
def Startup.validate (d : Data) : Config.Checked Startup :=
  Config.inSection .startup d fun entries =>
    let seconds := Config.Field.optional (Config.Field.atLeast 1)
    (Config.Checked.both (Config.leaf entries "duration" none seconds)
      (Config.leaf entries "interval" none seconds)).map
      fun (duration, interval) => { duration, interval }

namespace Config

/-- Judges data as the service section, which holds the time limit of requests. -/
def validateService (d : Data) : Checked Int :=
  inSection .service d fun entries => leaf entries "timeout" 5000 (Field.atLeast 1)

/-- The place of a key that is no text: a number where it is an integer of 64 bits, else its text,
which stands in for an integer with too many digits to be written. -/
def placeOfKey : Data → Place
  | .text s => .name (Text.withoutHalves s)
  | .bool b => .number (if b then 1 else 0)
  | .int n =>
    if Number.fitsWord n then .number n
    else .name ((Number.write n).toOption.getD "<unprintable int object>")
  | d => .name d.display

/-- Judges one key and its endpoint. -/
def validateClient (key value : Data) : Checked (String × Endpoint) :=
  Checked.both ((Checked.ofCause (Field.text key)).within (.name "[key]")) (Endpoint.validate value)
    |>.within (placeOfKey key)

/-- Judges the entries of the clients in order. -/
def validateEntries : Entries → Checked (Named Endpoint)
  | [] => .ok []
  | (key, value) :: rest =>
    (Checked.both (validateClient key value) (validateEntries rest)).map fun (c, cs) => c :: cs

/-- Judges data as the map of clients. Of two keys with one text the last endpoint counts. -/
def validateClients : Data → Checked (Named Endpoint)
  | .record entries =>
    (validateEntries entries).map (Named.assignAll [])
  | _ => .error [⟨[], .notRecord⟩]

/-- Judges data as a registry section, which may hold nothing. -/
def validateRegistry : Data → Checked (Option RegistryAddress)
  | .null => .ok none
  | d => (RegistryAddress.validate d).map some

/-- Judges data as a configuration. -/
def validate (d : Data) : Checked Config :=
  inSection .config d fun entries =>
    (Checked.both (field entries "service" 5000 validateService)
      (Checked.both (field entries "clients" [] validateClients)
        (Checked.both (field entries "registry" none validateRegistry)
          (field entries "startup" {} Startup.validate)))).map
      fun (timeout, clients, registry, startup) => { timeout, clients, registry, startup }

end Config

end StartupGate
