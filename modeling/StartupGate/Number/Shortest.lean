import StartupGate.Number.Binary64
/-!
# The fewest digits that read back

`Shortest.digits` gives a positive finite double as `d · 10 ^ k` with the fewest digits that round
to the same double, and of those the nearest. It tries one digit, two digits and so on: on each
decimal grid only the two neighbours of the exact value can lie in the interval of numbers that
round to the double.
-/

namespace StartupGate.Number.Shortest

/-- The numbers that round to a double: the ends of the interval and the double itself, all over
one denominator, and whether the ends belong to it. -/
structure Interval where
  /-- Numerator of the lower end. -/
  low : Nat
  /-- Numerator of the double. -/
  value : Nat
  /-- Numerator of the upper end. -/
  high : Nat
  /-- The common denominator. -/
  den : Nat
  /-- Whether the ends round to the double too. -/
  closed : Bool

/-- The interval of the double `m · 2 ^ q`. Below a power of two the grid of doubles is twice as
fine as above it. -/
def Interval.of (m : Nat) (q : Int) : Interval :=
  let below := if m = twoPow 52 ∧ -1074 < q then 1 else 2
  let up := twoPow q.toNat
  let den := 4 * twoPow (-q).toNat
  { low := (4 * m - below) * up, value := 4 * m * up, high := (4 * m + 2) * up, den,
    closed := m % 2 = 0 }

/-- Whether `n / d` lies in the interval. -/
def Interval.mem (i : Interval) (n d : Nat) : Bool :=
  let x := n * i.den
  let lo := i.low * d
  let hi := i.high * d
  if i.closed then lo ≤ x && x ≤ hi else lo < x && x < hi

/-- Compares `num / den` with a power of ten. -/
def geTenPow (num den : Nat) (k : Int) : Bool :=
  if 0 ≤ k then den * tenPow k.toNat ≤ num else den ≤ num * tenPow (-k).toNat

/-- The exponent of the first digit of `num / den`: the greatest `k` with `10 ^ k ≤ num / den`. -/
def magnitude (num den : Nat) : Int :=
  let guess := ((num.log2 : Int) - den.log2) * 30103 / 100000
  if geTenPow num den (guess + 1) then guess + 1
  else if geTenPow num den guess then guess
  else guess - 1

/-- The point of the grid `10 ^ k` in the interval that is nearest to the double, if there is
one. -/
def Interval.onGrid? (i : Interval) (k : Int) : Option Nat :=
  let up := tenPow k.toNat
  let down := tenPow (-k).toNat
  -- The double is `value * down / (den * up)` steps of the grid.
  let steps := i.value * down / (i.den * up)
  let inside (d : Nat) : Bool := i.mem (d * up) down
  let nearUpper := i.den * up * (2 * steps + 1) < 2 * i.value * down
  match inside steps, inside (steps + 1) with
  | true, true => some (if nearUpper then steps + 1 else steps)
  | true, false => some steps
  | false, true => some (steps + 1)
  | false, false => none

/-- Tries grids from `k` downwards. -/
def Interval.search (i : Interval) : (fuel : Nat) → (k : Int) → Nat × Int
  | 0, k => (0, k)
  | fuel + 1, k =>
    match i.onGrid? k with
    | some d => (d, k)
    | none => i.search fuel (k - 1)

/-- Moves trailing zeros of the digits into the exponent. -/
def dropZeros : (fuel : Nat) → Nat → Int → Nat × Int
  | 0, d, k => (d, k)
  | fuel + 1, d, k => if d % 10 = 0 then dropZeros fuel (d / 10) (k + 1) else (d, k)

/-- The fewest digits that read back as the double `m · 2 ^ q`, as `d · 10 ^ k`. Seventeen digits
always do. -/
def digits (m : Nat) (q : Int) : Nat × Int :=
  if m = 0 then (0, 0)
  else
    let i := Interval.of m q
    let (d, k) := i.search 20 (magnitude i.value i.den)
    dropZeros 20 d k

end StartupGate.Number.Shortest
