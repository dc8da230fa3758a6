import StartupGate.Proofs.Config.Accepted
/-!
# The issues of a document

A document is judged leaf by leaf. `Config.leaves` lists the leaves of a document in the order in
which its fields are declared, the clients in the order of the document: every field that is there,
every key of a client, and in place of the fields of a section the section itself where it is none.
Each leaf has a rule of its own, and its value is all that this rule looks at.

Sections are put together by a few operations, and each of them keeps the leaves of its parts side
by side (`Checked.Tells`). So the issues of a document are those of its refused leaves, in their
order and nothing else. The main statement is `Config.issues_are_of_leaves`.
-/

namespace StartupGate.Config

/-! ## Leaves -/

/-- A value in a document that is judged by itself. -/
structure Leaf where
  path : List Place
  value : Data
  /-- Why a value is refused here, if it is. -/
  rule : Data → Option Cause

namespace Leaf

/-- Why a leaf is refused, if it is. -/
def cause? (l : Leaf) : Option Cause := l.rule l.value

/-- The issue of a leaf, if it is refused. -/
def issue? (l : Leaf) : Option Issue := l.cause?.map fun c => ⟨l.path, c⟩

/-- The leaf seen from one level further up. -/
def under (p : Place) (l : Leaf) : Leaf := { l with path := p :: l.path }

theorem issue?_under (p : Place) (l : Leaf) :
    (l.under p).issue? = l.issue?.map (Issue.within p) := by
  show l.cause?.map _ = (l.cause?.map _).map _
  rw [Option.map_map]
  rfl

end Leaf

/-- The issues of leaves, in their order. -/
def issuesOf (leaves : List Leaf) : List Issue := leaves.filterMap Leaf.issue?

theorem issuesOf_append (first second : List Leaf) :
    issuesOf (first ++ second) = issuesOf first ++ issuesOf second :=
  List.filterMap_append

theorem issuesOf_under (p : Place) (leaves : List Leaf) :
    issuesOf (leaves.map (Leaf.under p)) = (issuesOf leaves).map (Issue.within p) := by
  have hunder : Leaf.issue? ∘ Leaf.under p = fun l => l.issue?.map (Issue.within p) :=
    funext (Leaf.issue?_under p)
  rw [issuesOf, issuesOf, List.filterMap_map, List.map_filterMap, hunder]

theorem issuesOf_eq_nil_iff {leaves : List Leaf} :
    issuesOf leaves = [] ↔ ∀ l ∈ leaves, l.cause? = none := by
  rw [issuesOf, List.filterMap_eq_nil_iff]
  refine forall_congr' fun l => imp_congr_right fun _ => ?_
  rw [Leaf.issue?, Option.map_eq_none_iff]

/-! ## The leaves of a document -/

/-- Why a rule refuses data, if it does. -/
def refusal {α : Type} (rule : Data → Except Cause α) (d : Data) : Option Cause :=
  match rule d with
  | .ok _ => none
  | .error c => some c

/-- Names of fields with their rules, in the order of declaration. -/
abbrev Fields := List (String × (Data → Option Cause))

/-- The fields of the service section. -/
def serviceFields : Fields := [("timeout", refusal (Field.atLeast 1))]

/-- The fields of an endpoint. -/
def endpointFields : Fields :=
  [("host", refusal Field.text), ("port", refusal (Field.atLeast 0)),
   ("protocol", refusal Field.text)]

/-- The fields of the address of a registry. -/
def registryFields : Fields :=
  [("host", refusal Field.text), ("port", refusal Field.integer),
   ("type", refusal Field.registryKind), ("scheme", refusal Field.text),
   ("token", refusal (Field.optional Field.secret))]

/-- The fields of the startup section. -/
def startupFields : Fields :=
  [("duration", refusal (Field.optional (Field.atLeast 1))),
   ("interval", refusal (Field.optional (Field.atLeast 1)))]

/-- Data that is refused as a whole. -/
def refusedWhole (d : Data) (c : Cause) : List Leaf := [⟨[], d, fun _ => some c⟩]

/-- A field as a leaf, where it is there. -/
def fieldLeaf (entries : Entries) (name : String) (rule : Data → Option Cause) : List Leaf :=
  (entries.field? name).toList.map fun d => ⟨[.name name], d, rule⟩

/-- The leaves of a section: the fields that are there, or the section where it is no record. -/
def sectionLeaves (expected : Section) (fields : Fields) : Data → List Leaf
  | .record entries => fields.flatMap fun (name, rule) => fieldLeaf entries name rule
  | d => refusedWhole d (.notSection expected)

/-- The leaves of one client: its key, and those of its endpoint. -/
def clientLeaves (key value : Data) : List Leaf :=
  (⟨[.name "[key]"], key, refusal Field.text⟩ :: sectionLeaves .client endpointFields value).map
    (Leaf.under (placeOfKey key))

/-- The leaves of the clients in their order, or the map of clients where it is no record. -/
def clientsLeaves : Data → List Leaf
  | .record entries => entries.flatMap fun (key, value) => clientLeaves key value
  | d => refusedWhole d .notRecord

/-- The leaves of a registry section, which may hold nothing. -/
def registryLeaves : Data → List Leaf
  | .null => []
  | d => sectionLeaves .registry registryFields d

/-- The sections of a document with their leaves, in the order of declaration. -/
def sections : List (String × (Data → List Leaf)) :=
  [("service", sectionLeaves .service serviceFields), ("clients", clientsLeaves),
   ("registry", registryLeaves), ("startup", sectionLeaves .startup startupFields)]

/-- The leaves of a section, where it is there. -/
def leavesAt (entries : Entries) (name : String) (inside : Data → List Leaf) : List Leaf :=
  ((entries.field? name).toList.flatMap inside).map (Leaf.under (.name name))

/-- The leaves of a document. -/
def leaves : Data → List Leaf
  | .record entries => sections.flatMap fun (name, inside) => leavesAt entries name inside
  | d => refusedWhole d (.notSection .config)

/-! ## What judging tells of leaves -/

/-- The result of judging leaves: the issues are those of the leaves, and without one there is a
value. -/
structure Checked.Tells {α : Type} (r : Checked α) (leaves : List Leaf) : Prop where
  issues : r.issues = issuesOf leaves
  value : r.issues = [] → ∃ a, r = .ok a

namespace Checked

variable {α β : Type}

theorem tells_ok (a : α) : Tells (.ok a) [] := ⟨rfl, fun _ => ⟨a, rfl⟩⟩

theorem tells_refusedWhole (d : Data) (c : Cause) :
    Tells (.error [⟨[], c⟩] : Checked α) (refusedWhole d c) :=
  ⟨rfl, fun h => by cases h⟩

theorem tells_ofCause (rule : Data → Except Cause α) (d : Data) :
    (ofCause (rule d)).Tells [⟨[], d, refusal rule⟩] := by
  have hissue : issuesOf [⟨[], d, refusal rule⟩] = ((refusal rule d).map (⟨[], ·⟩)).toList := by
    show (List.filterMap _ [_]) = _
    rw [List.filterMap_cons]
    cases h : refusal rule d <;> simp [Leaf.issue?, Leaf.cause?, h]
  rw [refusal] at hissue
  cases hr : rule d with
  | ok a => exact ⟨by rw [hissue, hr]; rfl, fun _ => ⟨a, rfl⟩⟩
  | error c => exact ⟨by rw [hissue, hr]; rfl, fun h => by cases h⟩

theorem Tells.within {r : Checked α} {ls : List Leaf} (h : r.Tells ls) (p : Place) :
    (r.within p).Tells (ls.map (Leaf.under p)) := by
  have hissues : (r.within p).issues = r.issues.map (Issue.within p) := by cases r <;> rfl
  refine ⟨by rw [hissues, h.issues, issuesOf_under], fun hnone => ?_⟩
  rw [hissues, List.map_eq_nil_iff] at hnone
  obtain ⟨a, rfl⟩ := h.value hnone
  exact ⟨a, rfl⟩

/-- Neither result hides anything of the other. -/
theorem Tells.both {x : Checked α} {y : Checked β} {first second : List Leaf} (hx : x.Tells first)
    (hy : y.Tells second) : (x.both y).Tells (first ++ second) := by
  refine ⟨by rw [issues_both, hx.issues, hy.issues, issuesOf_append], fun hnone => ?_⟩
  rw [issues_both, List.append_eq_nil_iff] at hnone
  obtain ⟨a, rfl⟩ := hx.value hnone.1
  obtain ⟨b, rfl⟩ := hy.value hnone.2
  exact ⟨(a, b), rfl⟩

theorem Tells.map {r : Checked α} {ls : List Leaf} (h : r.Tells ls) (f : α → β) :
    Tells (r.map f) ls := by
  have hissues : Checked.issues (r.map f) = r.issues := by cases r <;> rfl
  refine ⟨hissues.trans h.issues, fun hnone => ?_⟩
  obtain ⟨a, rfl⟩ := h.value (hissues.symm.trans hnone)
  exact ⟨f a, rfl⟩

end Checked

/-! ## The sections of a document -/

theorem tells_field {α : Type} {rule : Data → Checked α} {inside : Data → List Leaf}
    (hrule : ∀ d, (rule d).Tells (inside d)) (entries : Entries) (name : String) (default : α) :
    (field entries name default rule).Tells (leavesAt entries name inside) := by
  rw [field, leavesAt]
  cases entries.field? name with
  | none => exact Checked.tells_ok default
  | some d =>
    rw [Option.toList_some, List.flatMap_singleton]
    exact (hrule d).within (.name name)

theorem tells_leaf {α : Type} (rule : Data → Except Cause α) (entries : Entries) (name : String)
    (default : α) :
    (leaf entries name default rule).Tells (fieldLeaf entries name (refusal rule)) := by
  have hfield := tells_field (fun d => Checked.tells_ofCause rule d) entries name default
  have hleaf : leavesAt entries name (fun d => [⟨[], d, refusal rule⟩])
      = fieldLeaf entries name (refusal rule) := by
    rw [leavesAt, fieldLeaf]
    cases entries.field? name <;> rfl
  rwa [hleaf] at hfield

theorem tells_inSection {α : Type} {expected : Section} {fields : Fields}
    {judge : Entries → Checked α}
    (hjudge : ∀ entries, (judge entries).Tells
      (fields.flatMap fun (name, rule) => fieldLeaf entries name rule)) (d : Data) :
    (inSection expected d judge).Tells (sectionLeaves expected fields d) := by
  cases d with
  | record entries => exact hjudge entries
  | _ => exact Checked.tells_refusedWhole _ _

theorem tells_validateService (d : Data) :
    (validateService d).Tells (sectionLeaves .service serviceFields d) := by
  refine tells_inSection (fun entries => ?_) d
  simp only [serviceFields, List.flatMap_cons, List.flatMap_nil, List.append_nil]
  exact tells_leaf _ _ _ _

theorem tells_validateEndpoint (d : Data) :
    (Endpoint.validate d).Tells (sectionLeaves .client endpointFields d) := by
  refine tells_inSection (fun entries => ?_) d
  simp only [endpointFields, List.flatMap_cons, List.flatMap_nil, List.append_nil]
  exact .map (.both (tells_leaf _ _ _ _) (.both (tells_leaf _ _ _ _) (tells_leaf _ _ _ _))) _

theorem tells_validateAddress (d : Data) :
    (RegistryAddress.validate d).Tells (sectionLeaves .registry registryFields d) := by
  refine tells_inSection (fun entries => ?_) d
  simp only [registryFields, List.flatMap_cons, List.flatMap_nil, List.append_nil]
  exact .map (.both (tells_leaf _ _ _ _) (.both (tells_leaf _ _ _ _) (.both (tells_leaf _ _ _ _)
    (.both (tells_leaf _ _ _ _) (tells_leaf _ _ _ _))))) _

theorem tells_validateRegistry (d : Data) : (validateRegistry d).Tells (registryLeaves d) := by
  by_cases hnone : d = .null
  · rw [hnone]
    exact Checked.tells_ok none
  · rw [validateRegistry.eq_2 d hnone, registryLeaves.eq_2 d hnone]
    exact (tells_validateAddress d).map some

theorem tells_validateStartup (d : Data) :
    (Startup.validate d).Tells (sectionLeaves .startup startupFields d) := by
  refine tells_inSection (fun entries => ?_) d
  simp only [startupFields, List.flatMap_cons, List.flatMap_nil, List.append_nil]
  exact .map (.both (tells_leaf _ _ _ _) (tells_leaf _ _ _ _)) _

theorem tells_validateClient (key value : Data) :
    (validateClient key value).Tells (clientLeaves key value) :=
  .within (.both ((Checked.tells_ofCause Field.text key).within _) (tells_validateEndpoint value)) _

/-- A client that is refused hides neither the clients before it nor those after it. -/
theorem tells_validateEntries (entries : Entries) :
    (validateEntries entries).Tells
      (entries.flatMap fun (key, value) => clientLeaves key value) := by
  induction entries with
  | nil => exact Checked.tells_ok []
  | cons first rest ih => exact .map (.both (tells_validateClient first.1 first.2) ih) _

theorem tells_validateClients (d : Data) : (validateClients d).Tells (clientsLeaves d) := by
  cases d with
  | record entries => exact (tells_validateEntries entries).map _
  | _ => exact Checked.tells_refusedWhole _ _

theorem tells_validate (d : Data) : (validate d).Tells (leaves d) := by
  cases d with
  | record entries =>
    simp only [leaves, sections, List.flatMap_cons, List.flatMap_nil, List.append_nil]
    exact .map (.both (tells_field tells_validateService _ _ _)
      (.both (tells_field tells_validateClients _ _ _)
        (.both (tells_field tells_validateRegistry _ _ _)
          (tells_field tells_validateStartup _ _ _)))) _
  | _ => exact Checked.tells_refusedWhole _ _

/-! ## The main statement -/

/-- **The issues of a document are those of its refused leaves.** A document is accepted exactly
when none of its leaves is refused, and then its configuration is lawful. Otherwise there is one
issue for each refused leaf, in the order of the leaves, whatever becomes of the other leaves. -/
theorem issues_are_of_leaves (d : Data) :
    ((∃ c, validate d = .ok c) ↔ ∀ l ∈ leaves d, l.cause? = none) ∧
    (∀ c, validate d = .ok c → c.Lawful) ∧
    ∀ issues, validate d = .error issues →
      issues ≠ [] ∧ issues = (leaves d).filterMap Leaf.issue? := by
  have htells := tells_validate d
  refine ⟨?accepted, fun c => lawful_of_validate, ?refused⟩
  case accepted =>
    rw [← issuesOf_eq_nil_iff, ← htells.issues]
    refine ⟨?_, htells.value⟩
    rintro ⟨c, hc⟩
    rw [hc]
    rfl
  case refused =>
    intro issues hissues
    rw [hissues] at htells
    refine ⟨?_, htells.issues⟩
    rintro rfl
    -- Without an issue there would be a configuration.
    obtain ⟨c, hc⟩ := htells.value rfl
    cases hc

/-- Clients with one fault, with two, and of a wrong type, and faults in two sections that the
document gives in another order than that of declaration. -/
def faulty : Data := .record
  [(.text "startup", .record [(.text "interval", .int 0)]),
   (.text "clients", .record
     [(.text "core-data", .record [(.text "port", .int (-1)), (.text "host", .int 5)]),
      (.text "other", .null),
      (.text "core-metadata", .record [(.text "host", .text "m"), (.text "port", .text "x")])]),
   (.text "registry", .record [(.text "type", .text "eureka")]),
   (.text "service", .record [(.text "timeout", .int 10), (.text "unknown", .null)])]

/-- The issues of this document. -/
def faultyIssues : List Issue :=
  [⟨[.name "clients", .name "core-data", .name "host"], .notText⟩,
   ⟨[.name "clients", .name "core-data", .name "port"], .below 0⟩,
   ⟨[.name "clients", .name "other"], .notSection .client⟩,
   ⟨[.name "clients", .name "core-metadata", .name "port"], .unreadableInteger⟩,
   ⟨[.name "registry", .name "type"], .unsupportedRegistry "eureka"⟩,
   ⟨[.name "startup", .name "interval"], .below 1⟩]

theorem issues_are_of_leaves_faulty :
    validate faulty = .error faultyIssues ∧
      faultyIssues ≠ [] ∧ faultyIssues = (leaves faulty).filterMap Leaf.issue? ∧
    ∃ c, validate (.record []) = .ok c ∧ c.Lawful := by
  have hfaulty : validate faulty = .error faultyIssues := rfl
  obtain ⟨-, -, hrefused⟩ := issues_are_of_leaves faulty
  obtain ⟨-, hlawful, -⟩ := issues_are_of_leaves (.record [])
  obtain ⟨hne, hleaves⟩ := hrefused _ hfaulty
  exact ⟨hfaulty, hne, hleaves, {}, rfl, hlawful {} rfl⟩

end StartupGate.Config
