import StartupGate.Named
/-!
# Scripts

A script is a list of items that are played one at a time; once the last item was played it is
played again and again. `Tally` counts, for each script, how many items were played.
-/

namespace StartupGate

/-- The item that is played at a turn, the first turn being zero. -/
def Script.item? {α : Type} : List α → Nat → Option α
  | [], _ => none
  | [a], _ => some a
  | a :: _ :: _, 0 => some a
  | _ :: b :: r, n + 1 => Script.item? (b :: r) n

/-- Up to its end a script is played in order, and from there on its last item. -/
theorem Script.item?_eq_getElem? {α : Type} (s : List α) (n : Nat) :
    Script.item? s n = s[min n (s.length - 1)]? := by
  induction s generalizing n with
  | nil => rfl
  | cons a r ih =>
    cases r with
    | nil =>
      rw [List.length_singleton, Nat.sub_self, Nat.min_zero]
      rfl
    | cons b t =>
      cases n with
      | zero => rfl
      | succ n =>
        rw [Script.item?, ih]
        simp only [List.length_cons, Nat.add_sub_cancel, Nat.succ_min_succ,
          List.getElem?_cons_succ]

theorem Script.item?_of_lt {α : Type} {s : List α} {n : Nat} (h : n < s.length) :
    Script.item? s n = some s[n] := by
  have hmin : min n (s.length - 1) = n := by omega
  rw [Script.item?_eq_getElem?, hmin, List.getElem?_eq_getElem h]

/-- What is played is an item of the script. -/
theorem Script.mem_of_item?_eq_some {α : Type} {s : List α} {n : Nat} {a : α}
    (h : Script.item? s n = some a) : a ∈ s := by
  rw [Script.item?_eq_getElem?] at h
  exact List.mem_of_getElem? h

/-- How often something happened, by name. -/
abbrev Tally := Named Nat

namespace Tally

/-- The count of a name, zero for a name that is not there. -/
def count (t : Tally) (name : String) : Nat := (t.lookup name).getD 0

/-- Adds one to the count of a name. -/
def bump (t : Tally) (name : String) : Tally := Named.assign t name (count t name + 1)

theorem count_bump (t : Tally) (name other : String) :
    count (bump t name) other = count t other + if name = other then 1 else 0 := by
  rw [count, bump, Named.lookup_assign]
  by_cases h : other = name
  · subst h
    simp
  · rw [if_neg h, if_neg fun e => h e.symm]
    rfl

end Tally

end StartupGate
