import StartupGate.Fault
import StartupGate.Json.Reader
/-!
# What a JSON text stands for

Data has more kinds of values than JSON has. `Data.IsJson` tells which of them a JSON text can
stand for, as far as its outermost layer goes: no set, no bytes and no moment, and a record only
with texts for its keys. `Json.isJson_of_parse` says that the reader gives no others.
-/

namespace StartupGate

/-- The outermost layer of data is one that JSON has. -/
def Data.IsJson : Data → Prop
  | .null | .bool _ | .int _ | .float _ | .text _ | .list _ => True
  | .record entries => ∀ e ∈ entries, ∃ name, e.1 = .text name
  | .bytes _ | .moment _ | .clock _ _ _ _ | .set _ => False

/-! ## The keys of a record -/

namespace Entries

variable {κ : Type} {p : κ → Prop}

/-- What holds of all keys and of a new one holds of the keys after it is inserted. -/
theorem forall_key_insertBy {same : κ → κ → Bool} {entries : List (κ × Data)} {key : κ}
    {value : Data} (hentries : ∀ e ∈ entries, p e.1) (hkey : p key) :
    ∀ e ∈ insertBy same entries key value, p e.1 := by
  induction entries with
  | nil => simpa [insertBy] using hkey
  | cons first rest ih =>
    obtain ⟨k, v⟩ := first
    obtain ⟨hfirst, hrest⟩ := List.forall_mem_cons.mp hentries
    rw [insertBy]
    split
    · -- The key that is there stays, with its first spelling.
      exact List.forall_mem_cons.mpr ⟨hfirst, hrest⟩
    · exact List.forall_mem_cons.mpr ⟨hfirst, ih hrest⟩

/-- What holds of the keys of all settings holds of the keys of the record that they make. -/
theorem forall_key_ofPairs {p : Data → Prop} {pairs : List (Data × Data)}
    (h : ∀ e ∈ pairs, p e.1) : ∀ e ∈ ofPairs pairs, p e.1 := by
  suffices hfold : ∀ entries : Entries, (∀ e ∈ entries, p e.1) →
      ∀ e ∈ pairs.foldl (fun entries q => insert entries q.1 q.2) entries, p e.1 from
    hfold [] (by simp)
  induction pairs with
  | nil => exact fun entries hentries => hentries
  | cons first rest ih =>
    intro entries hentries
    obtain ⟨hfirst, hrest⟩ := List.forall_mem_cons.mp h
    exact ih hrest _ (forall_key_insertBy hentries hfirst)

end Entries

/-! ## The reader -/

namespace Json

/-- The reader finds nothing but texts for the keys of a record. -/
theorem key_of_readMembers {fuel room : Nat} {c next : Cursor} {pairs : List (Data × Data)}
    (h : readMembers fuel room c = .ok (pairs, next)) : ∀ e ∈ pairs, ∃ name, e.1 = .text name := by
  induction fuel generalizing room c pairs next with
  | zero => simp [readMembers] at h
  | succ fuel ih =>
    rw [readMembers] at h
    split at h
    · obtain ⟨⟨name, afterName⟩, -, h⟩ := exists_of_bind_eq_ok h
      dsimp only at h
      split at h
      · obtain ⟨⟨value, afterValue⟩, -, h⟩ := exists_of_bind_eq_ok h
        dsimp only at h
        split at h
        · -- This member is the last.
          cases h
          simp
        · obtain ⟨⟨members, last⟩, hmembers, h⟩ := exists_of_bind_eq_ok h
          cases h
          exact List.forall_mem_cons.mpr ⟨⟨name, rfl⟩, ih hmembers⟩
        · cases h
      · cases h
    · cases h

theorem isJson_of_readNumber {c next : Cursor} {d : Data} (h : readNumber c = .ok (d, next)) :
    d.IsJson := by
  simp only [readNumber] at h
  -- With or without a sign, there are digits and then perhaps a fraction or an exponent.
  split at h
  all_goals
    split at h
    · cases h
    · split at h
      · split at h
        · cases h
        · cases h
          trivial
      · cases h
        trivial

theorem isJson_of_readAtom {c next : Cursor} {d : Data} (h : readAtom c = .ok (d, next)) :
    d.IsJson := by
  rw [readAtom] at h
  split at h
  · rename_i word value hword
    cases h
    have hmem := List.mem_of_find?_eq_some hword
    simp only [words, List.mem_cons, Prod.mk.injEq, List.not_mem_nil, or_false] at hmem
    rcases hmem with ⟨-, rfl⟩ | ⟨-, rfl⟩ | ⟨-, rfl⟩ | ⟨-, rfl⟩ | ⟨-, rfl⟩ | ⟨-, rfl⟩ <;> trivial
  · exact isJson_of_readNumber h

theorem isJson_of_readValue {fuel room : Nat} {c next : Cursor} {d : Data}
    (h : readValue fuel room c = .ok (d, next)) : d.IsJson := by
  cases fuel with
  | zero => simp [readValue] at h
  | succ fuel =>
    rw [readValue] at h
    split at h
    · cases h
    · obtain ⟨⟨s, after⟩, -, h⟩ := exists_of_bind_eq_ok h
      cases h
      trivial
    · dsimp only at h
      split at h
      · cases h
      · cases h
        simp [Data.IsJson]
      · obtain ⟨⟨pairs, after⟩, hpairs, h⟩ := exists_of_bind_eq_ok h
        cases h
        exact Entries.forall_key_ofPairs (p := fun k => ∃ name, k = .text name)
          (key_of_readMembers hpairs)
    · dsimp only at h
      split at h
      · cases h
      · cases h
        trivial
      · obtain ⟨⟨items, after⟩, -, h⟩ := exists_of_bind_eq_ok h
        cases h
        trivial
    · exact isJson_of_readAtom h

/-- A JSON text stands for nothing but JSON data. -/
theorem isJson_of_parse {text : String} {d : Data} (h : parse text = .ok d) : d.IsJson := by
  simp only [parse] at h
  split at h
  · -- A byte order mark is no JSON.
    cases h
  · obtain ⟨⟨value, next⟩, hvalue, h⟩ := exists_of_bind_eq_ok h
    dsimp only at h
    split at h
    · cases h
      exact isJson_of_readValue hvalue
    · cases h

end Json

end StartupGate
