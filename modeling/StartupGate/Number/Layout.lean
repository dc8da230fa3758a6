import StartupGate.Number.Shortest
/-!
# Layout of numbers

How a number is written once its digits are known. `Layout` says where positional notation ends and
how wide an exponent is; `standard` is the layout of every number this library writes. `fixed`
writes a number with a fixed count of places, a tie to the even digit.
-/

namespace StartupGate.Number

/-- The choices of a written double. -/
structure Layout where
  /-- The least exponent of the first digit that is written positionally. -/
  positionalFrom : Int
  /-- The least exponent of the first digit that is written with an exponent again. -/
  positionalBelow : Int
  /-- The least count of digits of an exponent. -/
  exponentWidth : Nat
  /-- What follows the digits of a whole number. -/
  wholeTail : String
  /-- The text of what is no number. -/
  nan : String
  /-- The text of infinity, without its sign. -/
  infinity : String

/-- Numbers are positional from 0.0001 up to below 10^16, a whole number keeps `.0`, and an exponent
has its sign and at least two digits. -/
def Layout.standard : Layout :=
  { positionalFrom := -4, positionalBelow := 16, exponentWidth := 2, wholeTail := ".0",
    nan := "nan", infinity := "inf" }

/-- A text of `n` zeros. -/
def zeros (n : Nat) : String := String.ofList (List.replicate n '0')

/-- An exponent with its sign and at least `width` digits. -/
def exponentText (width : Nat) (e : Int) : String :=
  let ds := toString e.natAbs
  (if e < 0 then "-" else "+") ++ zeros (width - ds.length) ++ ds

/-- The unsigned number `d · 10 ^ k`, where `d` does not end in a zero unless it is zero. -/
def Layout.unsigned (l : Layout) (d : Nat) (k : Int) : String :=
  let ds := toString d
  let n : Int := ds.length
  let first := k + n - 1
  if d = 0 then "0" ++ l.wholeTail
  else if l.positionalFrom ≤ first ∧ first < l.positionalBelow then
    if 0 ≤ k then ds ++ zeros k.toNat ++ l.wholeTail
    else if first < 0 then "0." ++ zeros (-first - 1).toNat ++ ds
    else
      let whole := (first + 1).toNat
      String.ofList (ds.toList.take whole) ++ "." ++ String.ofList (ds.toList.drop whole)
  else
    let tail := ds.toList.drop 1
    String.ofList (ds.toList.take 1) ++ (if tail.isEmpty then "" else "." ++ String.ofList tail)
      ++ "e" ++ exponentText l.exponentWidth first

/-- A double in a layout. -/
def Layout.write (l : Layout) (x : Float) : String :=
  match Binary64.parts x with
  | .nan => l.nan
  | .infinite negative => (if negative then "-" else "") ++ l.infinity
  | .finite negative m q =>
    let (d, k) := Shortest.digits m q
    (if negative then "-" else "") ++ l.unsigned d k

/-- A double in the standard layout. -/
def showFloat (x : Float) : String := Layout.standard.write x

/-- A double with `places` digits after the point, rounded to nearest and a tie to even. -/
def fixed (places : Nat) (x : Float) : String :=
  match Binary64.parts x with
  | .nan => Layout.standard.nan
  | .infinite negative => (if negative then "-" else "") ++ Layout.standard.infinity
  | .finite negative m q =>
    let scaled := roundDiv (m * twoPow q.toNat * tenPow places) (twoPow (-q).toNat)
    let ds := toString scaled
    let ds := (zeros (places + 1 - ds.length) ++ ds).toList
    let whole := ds.take (ds.length - places)
    let tail := ds.drop (ds.length - places)
    (if negative then "-" else "") ++ String.ofList whole
      ++ (if tail.isEmpty then "" else "." ++ String.ofList tail)

end StartupGate.Number
