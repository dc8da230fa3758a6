/-!
# Base 64

`Base64.decode?` reads bytes from a text of base 64. Characters outside of the alphabet are passed
over, and reading ends where the padding completes a group of four.
-/

namespace StartupGate.Text.Base64

/-- The value of a digit of base 64. -/
def value? (c : Char) : Option Nat :=
  if 'A' ≤ c ∧ c ≤ 'Z' then some (c.toNat - 65)
  else if 'a' ≤ c ∧ c ≤ 'z' then some (c.toNat - 97 + 26)
  else if '0' ≤ c ∧ c ≤ '9' then some (c.toNat - 48 + 52)
  else if c = '+' then some 62
  else if c = '/' then some 63
  else none

/-- The digits that count: those before the padding that completes a group of four. `seen` is the
count of digits in the group so far, `pads` that of padding characters since the last digit. The
answer also says whether such a padding was found. -/
def digits : (seen pads : Nat) → List Char → List Nat × Bool
  | _, _, [] => ([], false)
  | seen, pads, c :: r =>
    if c = '=' then
      if 2 ≤ seen then
        if 4 ≤ seen + pads + 1 then ([], true) else digits seen (pads + 1) r
      else digits seen pads r
    else match value? c with
      | none => digits seen pads r
      | some v =>
        let (rest, closed) := digits ((seen + 1) % 4) 0 r
        (v :: rest, closed)

/-- The bytes of groups of four digits; a last group of two or three holds one or two bytes. -/
def bytes : List Nat → List UInt8
  | a :: b :: c :: d :: r =>
    UInt8.ofNat (a * 4 + b / 16) :: UInt8.ofNat (b % 16 * 16 + c / 4)
      :: UInt8.ofNat (c % 4 * 64 + d) :: bytes r
  | [a, b, c] => [UInt8.ofNat (a * 4 + b / 16), UInt8.ofNat (b % 16 * 16 + c / 4)]
  | [a, b] => [UInt8.ofNat (a * 4 + b / 16)]
  | _ => []

/-- The bytes of a text of base 64; a group that is neither complete nor padded is refused. -/
def decode? (cs : List Char) : Option (List UInt8) :=
  let (ds, closed) := digits 0 0 cs
  if closed || ds.length % 4 = 0 then some (bytes ds) else none

example : decode? "aGVsbG8=".toList = some [104, 101, 108, 108, 111] := by decide

end StartupGate.Text.Base64
