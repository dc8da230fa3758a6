import StartupGate.Client.Handle
import StartupGate.Config.Basic
import StartupGate.Fault
import StartupGate.Named
/-!
# The directory of clients

A directory maps names to handles. Names are distinct and stand in the order in which they were
first published; publishing a name again replaces its handle and leaves it in its place. `publish`
puts the five handles of a configuration into a directory.
-/

namespace StartupGate

/-- Names with handles, in order. -/
abbrev Publication := Named Handle

/-- The directory of clients. -/
structure Directory where
  entries : Publication := []
deriving Repr, DecidableEq

namespace Directory

/-- Sets the handles of a publication, one after the other. -/
def update (d : Directory) (p : Publication) : Directory := ⟨Named.assignAll d.entries p⟩

/-- The directory of a publication; the last handle of a repeated name is valid. -/
def ofPublication (p : Publication) : Directory := update {} p

/-- The handle of a name, if there is one. -/
def get? (d : Directory) (name : String) : Option Handle := d.entries.lookup name

/-- The last handle of a publication is valid, else the one that was there before. -/
theorem get?_update (d : Directory) (p : Publication) (name : String) :
    (d.update p).get? name = (p.reverse.lookup name).or (d.get? name) :=
  Named.lookup_assignAll d.entries p name

/-- Where the names of a publication are distinct, it holds one handle for each. -/
theorem get?_update_of_nodup {p : Publication} (h : (Named.names p).Nodup) (d : Directory)
    (name : String) : (d.update p).get? name = (p.lookup name).or (d.get? name) := by
  rw [get?_update, Named.lookup_reverse h]

/-- The handle of a name that has to be there. -/
def handle (d : Directory) (name : String) : Except Fault Handle :=
  match d.get? name with
  | some h => .ok h
  | none => .error (.missingKey (some name))

theorem handle_eq_ok_iff {d : Directory} {name : String} {h : Handle} :
    d.handle name = .ok h ↔ d.get? name = some h := by
  rw [handle]
  cases d.get? name <;> simp

theorem handle_eq_error_iff {d : Directory} {name : String} {f : Fault} :
    d.handle name = .error f ↔ d.get? name = none ∧ f = .missingKey (some name) := by
  rw [handle]
  cases d.get? name <;> simp [eq_comm]

/-- The names, in order. -/
def names (d : Directory) : List String := Named.names d.entries

/-- The count of names. -/
def size (d : Directory) : Nat := d.entries.length

/-- Whether two directories hold the same handles under the same names, in whatever order. -/
def same (d e : Directory) : Bool :=
  d.size == e.size && d.entries.all fun p => e.get? p.1 == some p.2

/-- Sorts texts by code points. -/
def sortTexts (xs : List String) : List String :=
  xs.mergeSort fun a b =>
    !(decide (b.toList.map Text.codeOfChar < a.toList.map Text.codeOfChar))

/-- A directory as it is shown: its names in alphabetical order. -/
def display (d : Directory) : String :=
  "ClientRegistry([" ++ ", ".intercalate ((sortTexts d.names).map Text.quote) ++ "])"

end Directory

/-! ## Publication -/

namespace Config

/-- The handles for two base addresses: four for the metadata and one for the data. -/
def handles (metadata data : String) : Publication :=
  [("MetadataDeviceClient", ⟨.device, metadata⟩),
   ("MetadataDeviceServiceClient", ⟨.deviceService, metadata⟩),
   ("MetadataDeviceProfileClient", ⟨.deviceProfile, metadata⟩),
   ("MetadataProvisionWatcherClient", ⟨.provisionWatcher, metadata⟩),
   ("CoredataEventClient", ⟨.event, data⟩)]

theorem nodup_names_handles (metadata data : String) :
    (Named.names (handles metadata data)).Nodup := by
  simp [Named.names, handles]

/-- The handles that a configuration publishes. -/
def publication (c : Config) : Except Fault Publication := do
  return handles (← (c.endpoint metadataService).url) (← (c.endpoint dataService).url)

/-- Whether the base addresses of the required services can be written. -/
def FitsAddresses (c : Config) : Prop :=
  ∀ k ∈ requiredServices, FitsAddress (c.endpoint k).port

instance (c : Config) : Decidable c.FitsAddresses :=
  inferInstanceAs (Decidable (∀ k ∈ requiredServices, _))

theorem fitsAddresses_iff {c : Config} :
    c.FitsAddresses ↔ FitsAddress (c.endpoint metadataService).port ∧
      FitsAddress (c.endpoint dataService).port := by
  simp [FitsAddresses, requiredServices]

theorem publication_eq_ok_iff {c : Config} {p : Publication} :
    c.publication = .ok p ↔ c.FitsAddresses ∧
      p = handles (c.endpoint metadataService).address (c.endpoint dataService).address := by
  rw [fitsAddresses_iff]
  constructor
  · intro h
    obtain ⟨metadata, hmetadata, h⟩ := exists_of_bind_eq_ok h
    obtain ⟨data, hdata, h⟩ := exists_of_bind_eq_ok h
    obtain ⟨hfits, rfl⟩ := Endpoint.url_eq_ok_iff.mp hmetadata
    obtain ⟨hfits', rfl⟩ := Endpoint.url_eq_ok_iff.mp hdata
    exact ⟨⟨hfits, hfits'⟩, (Except.ok.inj h).symm⟩
  · rintro ⟨⟨hfits, hfits'⟩, rfl⟩
    rw [publication, Endpoint.url_eq_ok_iff.mpr ⟨hfits, rfl⟩,
      Endpoint.url_eq_ok_iff.mpr ⟨hfits', rfl⟩]
    rfl

theorem publication_eq_error_iff {c : Config} {f : Fault} :
    c.publication = .error f ↔ ¬ c.FitsAddresses ∧ f = .tooManyDigits := by
  rw [fitsAddresses_iff, publication]
  -- The address of the metadata is written first, and both can fail in one way only.
  cases hmetadata : (c.endpoint metadataService).url with
  | error f' =>
    obtain ⟨hlong, rfl⟩ := Endpoint.url_eq_error_iff.mp hmetadata
    simp [bind, Except.bind, hlong, eq_comm]
  | ok metadata =>
    have hfits := (Endpoint.url_eq_ok_iff.mp hmetadata).1
    cases hdata : (c.endpoint dataService).url with
    | error f' =>
      obtain ⟨hlong, rfl⟩ := Endpoint.url_eq_error_iff.mp hdata
      simp [bind, Except.bind, hlong, eq_comm]
    | ok data =>
      have hfits' := (Endpoint.url_eq_ok_iff.mp hdata).1
      simp [bind, Except.bind, pure, Except.pure, hfits, hfits']

end Config

namespace Directory

/-- Puts the handles of a configuration into a directory. -/
def publish (d : Directory) (c : Config) : Except Fault Directory := c.publication.map d.update

theorem publish_eq_ok_iff {d published : Directory} {c : Config} :
    d.publish c = .ok published ↔ c.FitsAddresses ∧ published = d.update
      (Config.handles (c.endpoint metadataService).address (c.endpoint dataService).address) := by
  rw [publish]
  cases hp : c.publication with
  | ok p =>
    obtain ⟨hfits, rfl⟩ := Config.publication_eq_ok_iff.mp hp
    simp [Except.map, hfits, eq_comm]
  | error f => simp [Except.map, (Config.publication_eq_error_iff.mp hp).1]

theorem publish_eq_error_iff {d : Directory} {c : Config} {f : Fault} :
    d.publish c = .error f ↔ ¬ c.FitsAddresses ∧ f = .tooManyDigits := by
  rw [publish, ← Config.publication_eq_error_iff]
  cases c.publication <;> simp [Except.map]

end Directory

end StartupGate
