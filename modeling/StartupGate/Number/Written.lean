import StartupGate.Fault
import StartupGate.Number.Power
/-!
# Integers as texts

An integer is written with all its decimal digits, unless there are more than `digitLimit` of them:
such an integer has no text, and to ask for one is a fault.
-/

namespace StartupGate.Number

/-- The count of decimal digits of an integer. -/
def digitCount (n : Int) : Nat := (Nat.toDigits 10 n.natAbs).length

/-- The text of an integer. -/
def write (n : Int) : Except Fault String :=
  if digitLimit < digitCount n then .error .tooManyDigits else .ok (toString n)

theorem write_eq_ok_iff {n : Int} {s : String} :
    write n = .ok s ↔ digitCount n ≤ digitLimit ∧ s = toString n := by
  rw [write]
  split
  · rename_i hlong
    simp [Nat.not_le.mpr hlong]
  · rename_i hfits
    simp [Nat.not_lt.mp hfits, eq_comm]

theorem write_eq_error_iff {n : Int} {f : Fault} :
    write n = .error f ↔ digitLimit < digitCount n ∧ f = .tooManyDigits := by
  rw [write]
  split
  · rename_i hlong
    simp [hlong, eq_comm]
  · rename_i hfits
    simp [hfits]

/-- An integer has more than a positive number of digits exactly when the power of ten with as many
zeros is no greater. -/
theorem lt_digitCount_iff {n : Int} {k : Nat} (hk : 0 < k) :
    k < digitCount n ↔ tenPow k ≤ n.natAbs := by
  have hlength : (Nat.toDigits 10 n.natAbs).length ≤ k ↔ n.natAbs < 10 ^ k :=
    Nat.length_toDigits_le_iff (by decide) hk
  rw [digitCount, tenPow, Nat.pow_eq, ← Nat.not_le, hlength, Nat.not_lt]

end StartupGate.Number
