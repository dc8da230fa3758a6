import StartupGate.Number.Power
/-!
# Binary64 numbers as exact rationals

A finite double is `m · 2 ^ q` with `m < 2 ^ 53`. `parts` takes one apart, `ofRatio` goes the other
way: the double nearest to a quotient of natural numbers, ties to the even neighbour, and infinity
when the quotient is too large. Everything that reads, writes, divides or compares numbers exactly
goes through these two functions.
-/

namespace StartupGate.Number

/-- The quotient `num / den` rounded to the nearest natural number, a tie to the even one. -/
def roundDiv (num den : Nat) : Nat :=
  let q := num / den
  let r := num % den
  if 2 * r < den then q
  else if den < 2 * r then q + 1
  else if q % 2 = 0 then q
  else q + 1

namespace Binary64

/-! ## Taking a double apart -/

/-- What a double stands for. -/
inductive Parts where
  /-- No number at all. -/
  | nan
  /-- Plus or minus infinity. -/
  | infinite (negative : Bool)
  /-- The number `± mantissa · 2 ^ exponent`. -/
  | finite (negative : Bool) (mantissa : Nat) (exponent : Int)
deriving Repr, DecidableEq

/-- Reads sign, exponent field and fraction of a double. -/
def partsOfBits (bits : Nat) : Parts :=
  let negative := bits / twoPow 63 % 2 == 1
  let field : Nat := bits / twoPow 52 % twoPow 11
  let fraction : Nat := bits % twoPow 52
  if field = 2047 then
    if fraction = 0 then .infinite negative else .nan
  else if field = 0 then .finite negative fraction (-1074)
  else .finite negative (twoPow 52 + fraction) ((field : Int) - 1075)

/-- What a double stands for. -/
def parts (x : Float) : Parts := partsOfBits x.toBits.toNat

/-! ## Rounding to a double -/

/-- The pattern of bits of the positive infinity. -/
def infinityBits : Nat := 2047 * twoPow 52

/-- The bits of the double nearest to `num / den`, for a positive `den`. -/
def bitsOfRatio (num den : Nat) : Nat :=
  if num = 0 then 0
  else
    let scale (e : Int) : Nat × Nat :=
      if 0 ≤ e then (num, den * twoPow e.toNat) else (num * twoPow (-e).toNat, den)
    let guess : Int := (num.log2 : Int) - den.log2 - 52
    let exact : Int :=
      let (n, d) := scale guess
      if n < d * twoPow 52 then guess - 1 else guess
    let e := max exact (-1074)
    let (n, d) := scale e
    let m := roundDiv n d
    if 971 < e then infinityBits
    else if m < twoPow 52 then m
    else (e + 1075).toNat * twoPow 52 + (m - twoPow 52)

/-- The double with the given sign and the given bits below the sign. -/
def withSign (negative : Bool) (bits : Nat) : Float :=
  Float.ofBits (UInt64.ofNat (if negative then twoPow 63 + bits else bits))

/-- The double nearest to `num / den` with the given sign, for a positive `den`. -/
def ofRatio (negative : Bool) (num den : Nat) : Float :=
  withSign negative (bitsOfRatio num den)

/-- Plus or minus infinity. -/
def infinity (negative : Bool) : Float := withSign negative infinityBits

/-- What is no number. -/
def nan : Float := withSign false (infinityBits + twoPow 51)

/-- The double nearest to an integer, infinite when the integer is too large. -/
def ofInt (n : Int) : Float := ofRatio (n < 0) n.natAbs 1

/-- The double nearest to an integer, if there is a finite one. -/
def ofInt? (n : Int) : Option Float :=
  let x := ofInt n
  if x.isFinite then some x else none

/-- The double nearest to the quotient of two integers, if there is a finite one. -/
def ofQuotient? (n : Int) (d : Nat) : Option Float :=
  let x := ofRatio (n < 0) n.natAbs d
  if x.isFinite then some x else none

/-- The double nearest to `± digits · 10 ^ exponent`. Exponents far outside the range of a double
are cut off before any power is taken. -/
def ofDecimal (negative : Bool) (digits : Nat) (exponent : Int) : Float :=
  if digits = 0 then withSign negative 0
  else
    let size : Int := (digits.log2 : Int) * 30103 / 100000 + exponent
    if 400 < size then infinity negative
    else if size < -400 then withSign negative 0
    else if 0 ≤ exponent then ofRatio negative (digits * tenPow exponent.toNat) 1
    else ofRatio negative digits (tenPow (-exponent).toNat)

/-! ## Exact comparison with an integer -/

/-- Compares an integer with a double exactly; nothing compares with what is no number. -/
def compareInt (n : Int) (x : Float) : Option Ordering :=
  match parts x with
  | .nan => none
  | .infinite negative => some (if negative then .gt else .lt)
  | .finite negative m q =>
    let signed : Int := if negative then -(m : Int) else m
    if 0 ≤ q then some (compare n (signed * twoPow q.toNat))
    else some (compare (n * twoPow (-q).toNat) signed)

/-- The integer that a double stands for, if it is one. -/
def toInt? (x : Float) : Option Int :=
  match parts x with
  | .finite negative m q =>
    let signed : Int := if negative then -(m : Int) else m
    if 0 ≤ q then some (signed * twoPow q.toNat)
    else if m % twoPow (-q).toNat = 0 then some (signed / twoPow (-q).toNat)
    else none
  | _ => none

end Binary64

end StartupGate.Number
