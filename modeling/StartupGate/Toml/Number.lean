import StartupGate.Data.Basic
import StartupGate.Toml.Text
/-!
# Numbers and moments of a settings table

Integers, decimal numbers, days, times, and days with times, as TOML writes them. A reader takes as
many characters as fit its form and leaves the rest; whether that rest may follow is judged by the
caller.
-/

namespace StartupGate.Toml

/-! ## Numbers -/

/-- Splits off a run of digits with single underscores between them, as far as it goes. -/
def digitRun (isDigit : Char → Bool) : List Char → List Char × List Char
  | [] => ([], [])
  | c :: r =>
    if isDigit c then
      let (ds, rest) := digitRun isDigit r
      (c :: ds, rest)
    else ([], c :: r)

/-- Splits off digits with single underscores between them; the underscores stay. -/
def groupedDigits (isDigit : Char → Bool) : (fuel : Nat) → List Char → List Char × List Char
  | 0, cs => ([], cs)
  | fuel + 1, cs =>
    let (ds, rest) := digitRun isDigit cs
    match rest with
    | '_' :: c :: r =>
      if !ds.isEmpty && isDigit c then
        let (more, rest) := groupedDigits isDigit fuel (c :: r)
        (ds ++ '_' :: more, rest)
      else (ds, rest)
    | _ => (ds, rest)

/-- The digits of a base by its mark. -/
def baseOf? : Char → Option (Nat × (Char → Bool))
  | 'x' => some (16, Text.isHexDigit)
  | 'o' => some (8, fun c => '0' ≤ c && c ≤ '7')
  | 'b' => some (2, fun c => c == '0' || c == '1')
  | _ => none

/-- Reads an integer with the mark of its base. -/
def marked? (cs : List Char) : Option (Int × List Char) :=
  match cs with
  | '0' :: mark :: r => do
    let (base, isDigit) ← baseOf? mark
    let (ds, rest) := groupedDigits isDigit (r.length + 1) r
    if ds.isEmpty then none
    else some (Number.ofDigits base (ds.filterMap Text.asciiDigitValue?), rest)
  | _ => none

/-- Splits off the places of a decimal number, with their point. -/
def places (cs : List Char) : List Char × List Char :=
  match cs with
  | '.' :: r =>
    let (ds, rest) := groupedDigits Text.isAsciiDigit (r.length + 1) r
    if ds.isEmpty then ([], cs) else ('.' :: ds, rest)
  | _ => ([], cs)

/-- Splits off the exponent of a decimal number. -/
def exponent (cs : List Char) : List Char × List Char :=
  match cs with
  | e :: r =>
    if e == 'e' || e == 'E' then
      let sign := (r.take 1).filter fun c => c == '+' || c == '-'
      let (ds, rest) := groupedDigits Text.isAsciiDigit (r.length + 1) (r.drop sign.length)
      if ds.isEmpty then ([], cs) else (e :: sign ++ ds, rest)
    else ([], cs)
  | [] => ([], cs)

/-- Reads a number in base ten: an integer, or a double if it has places or an exponent. -/
def decimal? (cs : List Char) : Option (Except Error (Data × List Char)) :=
  let sign := (cs.take 1).filter fun c => c == '+' || c == '-'
  let unsigned := cs.drop sign.length
  let (whole, rest) := match unsigned with
    | '0' :: r => (['0'], r)
    | _ => groupedDigits Text.isAsciiDigit (unsigned.length + 1) unsigned
  if whole.isEmpty then none
  else
    let (fraction, rest) := places rest
    let (power, rest) := exponent rest
    let all := String.ofList (sign ++ whole ++ fraction ++ power)
    if fraction.isEmpty && power.isEmpty then
      some (((Number.readInteger 10 all).mapError .number).map fun n => (.int n, rest))
    else
      some (((Number.readFloat all).mapError .number).map fun x => (.float x, rest))

/-- Reads a double that is infinite or no number. -/
def special? (cs : List Char) : Option (Data × List Char) :=
  let (negative, unsigned) := Number.splitSign cs
  match unsigned with
  | 'i' :: 'n' :: 'f' :: r => some (.float (Number.Binary64.infinity negative), r)
  | 'n' :: 'a' :: 'n' :: r => some (.float Number.Binary64.nan, r)
  | _ => none

/-! ## Moments -/

/-- Reads exactly `n` digits as a number. -/
def fixedDigits? (n : Nat) (cs : List Char) : Option (Nat × List Char) :=
  let ds := cs.take n
  if ds.length = n ∧ ds.all Text.isAsciiDigit then some (Number.ofAsciiDigits ds, cs.drop n)
  else none

/-- Moves past one character. -/
def expect? (p : Char → Bool) : List Char → Option (List Char)
  | [] => none
  | c :: r => if p c then some r else none

/-- Reads a time of day: hour, minute, second and microsecond. -/
def time? (cs : List Char) : Option ((Nat × Nat × Nat × Nat) × List Char) := do
  let (h, cs) ← fixedDigits? 2 cs
  let (mi, cs) ← fixedDigits? 2 (← expect? (· == ':') cs)
  let (s, cs) ← fixedDigits? 2 (← expect? (· == ':') cs)
  if 23 < h ∨ 59 < mi ∨ 59 < s then none
  let (micro, cs) := match cs with
    | '.' :: r =>
      let ds := r.takeWhile Text.isAsciiDigit
      let six := ds.take 6
      if ds.isEmpty then (0, cs)
      else (Number.ofAsciiDigits six * Number.tenPow (6 - six.length), r.drop ds.length)
    | _ => (0, cs)
  return ((h, mi, s, micro), cs)

/-- Reads the offset of a time in minutes, if there is one. -/
def offset (cs : List Char) : Option Int × List Char :=
  match cs with
  | [] => (none, cs)
  | c :: r =>
    if c = 'Z' ∨ c = 'z' then (some 0, r)
    else if c = '+' ∨ c = '-' then
      let read : Option (Int × List Char) := do
        let (h, r) ← fixedDigits? 2 r
        let (mi, r) ← fixedDigits? 2 (← expect? (· == ':') r)
        if 23 < h ∨ 59 < mi then none
        let n : Int := h * 60 + mi
        return (if c = '-' then -n else n, r)
      match read with
      | some (n, r) => (some n, r)
      | none => (none, cs)
    else (none, cs)

/-- Reads a day, perhaps with a time after it. -/
def moment? (cs : List Char) : Option (Except Error (Data × List Char)) := do
  let (y, cs) ← fixedDigits? 4 cs
  let (m, cs) ← fixedDigits? 2 (← expect? (· == '-') cs)
  let (d, cs) ← fixedDigits? 2 (← expect? (· == '-') cs)
  if m = 0 ∨ 12 < m ∨ d = 0 ∨ 31 < d then none
  let isMark (c : Char) : Bool := c == 'T' || c == 't' || c == ' '
  match (expect? isMark cs).bind time? with
  | some ((h, mi, s, micro), cs) =>
    let (zone, cs) := offset cs
    return ((Moment.instant? y m d h mi s micro zone).mapError fun _ => .badMoment).map
      fun x => (.moment x, cs)
  | none => return ((Moment.day? y m d).mapError fun _ => .badMoment).map fun x => (.moment x, cs)

/-- Reads a number or a moment. -/
def number (cs : List Char) : Except Error (Data × List Char) :=
  match moment? cs with
  | some r => r
  | none =>
    match time? cs with
    | some ((h, mi, s, micro), rest) => .ok (.clock h mi s micro, rest)
    | none =>
      match marked? cs with
      | some (n, rest) => .ok (.int n, rest)
      | none =>
        match decimal? cs with
        | some r => r
        | none =>
          match special? cs with
          | some r => .ok r
          | none => .error .unexpected

end StartupGate.Toml
