/-!
# Powers of two and ten

The powers that the exact arithmetic on numbers is done with, and the range of a word of 64 bits
with a sign.
-/

namespace StartupGate.Number

/-- A power of two. -/
def twoPow (n : Nat) : Nat := Nat.pow 2 n

/-- A power of ten. -/
def tenPow (n : Nat) : Nat := Nat.pow 10 n

theorem twoPow_zero : twoPow 0 = 1 := rfl

theorem twoPow_succ (n : Nat) : twoPow (n + 1) = 2 * twoPow n := by
  simp only [twoPow, Nat.pow_eq, Nat.pow_succ, Nat.mul_comm]

theorem twoPow_add (m n : Nat) : twoPow (m + n) = twoPow m * twoPow n := by
  simp only [twoPow, Nat.pow_eq, Nat.pow_add]

theorem twoPow_add_sub (m n : Nat) : twoPow (m + n) - twoPow n = (twoPow m - 1) * twoPow n := by
  rw [twoPow_add, Nat.sub_mul, Nat.one_mul]

theorem tenPow_add (m n : Nat) : tenPow (m + n) = tenPow m * tenPow n := by
  simp only [tenPow, Nat.pow_eq, Nat.pow_add]

theorem tenPow_succ (n : Nat) : tenPow (n + 1) = 10 * tenPow n := by
  simp only [tenPow, Nat.pow_eq, Nat.pow_succ, Nat.mul_comm]

theorem twoPow_pos (n : Nat) : 0 < twoPow n := by
  induction n with
  | zero => decide
  | succ n ih => rw [twoPow_succ]; omega

theorem tenPow_pos (n : Nat) : 0 < tenPow n := by
  induction n with
  | zero => decide
  | succ n ih => rw [tenPow_succ]; omega

/-- Whether an integer fits into a word of 64 bits with a sign. -/
def fitsWord (n : Int) : Bool := -(twoPow 63 : Int) ≤ n && n < (twoPow 63 : Int)

end StartupGate.Number
