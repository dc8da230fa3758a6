import StartupGate.Number.Binary64
import StartupGate.Text.Blank
import StartupGate.Text.Digit
import StartupGate.Text.Quoted
/-!
# Number literals

`readInteger` reads a text as an integer in a given base, `readFloat` as a double. Both allow white
space around the number, one sign, single underscores between digits, and the decimal digits of
every script. A base of sixteen, eight or two also allows its mark (`0x`, `0o`, `0b`).

A text that begins with more than `digitLimit` decimal digits is refused for that, whatever follows
them, since their conversion would take quadratic time.
-/

namespace StartupGate.Number

/-- Why a text is not a number. -/
inductive LiteralError where
  /-- The text is no integer of that base. -/
  | notInteger (base : Nat) (text : String)
  /-- The text is no decimal number. -/
  | notNumber (text : String)
  /-- The text has more decimal digits than are read. -/
  | tooManyDigits (count : Nat)
deriving Repr, DecidableEq

/-- The greatest count of decimal digits that is read or written. -/
def digitLimit : Nat := 4300

/-- The greatest count of characters of a faulty integer that a message shows, quotes included. -/
def shownLimit : Nat := 200

/-- The wording of a literal error. -/
def LiteralError.message : LiteralError → String
  | .notInteger base text =>
    "invalid literal for int() with base " ++ toString base ++ ": "
      ++ String.ofList ((Text.quote text).toList.take shownLimit)
  | .notNumber text => "could not convert string to float: " ++ Text.quote text
  | .tooManyDigits count =>
    "Exceeds the limit (" ++ toString digitLimit ++ " digits) for integer string conversion: "
      ++ "value has " ++ toString count
      ++ " digits; use sys.set_int_max_str_digits() to increase the limit"

/-! ## Digits -/

/-- The number written by a list of digit values. -/
def ofDigits (base : Nat) (ds : List Nat) : Nat := ds.foldl (fun n d => n * base + d) 0

/-- The number written by ASCII digits. -/
def ofAsciiDigits (cs : List Char) : Nat := ofDigits 10 (cs.map fun c => c.toNat - 48)

/-- A decimal digit of another script becomes its ASCII digit. -/
def asciiDigit (c : Char) : Char :=
  if c.toNat < 127 then c
  else match Text.digitValue? c with
    | some d => Char.ofNat (48 + d)
    | none => c

/-- A text without the white space around it and with ASCII digits. -/
def normalize (s : String) : List Char :=
  (Text.trim Text.isWhiteSpace s.toList).map asciiDigit

/-- Splits off a sign; `true` stands for minus. -/
def splitSign : List Char → Bool × List Char
  | '-' :: r => (true, r)
  | '+' :: r => (false, r)
  | s => (false, s)

/-- Drops the underscores of a digit sequence; each must stand between two digits. The first
argument says whether a digit stands before. -/
def dropUnderscores (isDigit : Char → Bool) : (afterDigit : Bool) → List Char → Option (List Char)
  | _, [] => some []
  | afterDigit, '_' :: c :: r =>
    if afterDigit && isDigit c then (dropUnderscores isDigit true r).map (c :: ·) else none
  | _, ['_'] => none
  | _, c :: r => (dropUnderscores isDigit (isDigit c) r).map (c :: ·)

/-! ## Integers -/

/-- The mark of a base, in lower case. -/
def baseMark? : Nat → Option Char
  | 16 => some 'x'
  | 8 => some 'o'
  | 2 => some 'b'
  | _ => none

/-- Drops the mark of the base, and one underscore after it. -/
def dropBaseMark (base : Nat) : List Char → List Char
  | '0' :: c :: r =>
    if baseMark? base = some c.toLower then
      match r with
      | '_' :: t => t
      | _ => r
    else '0' :: c :: r
  | s => s

/-- Whether a character is a digit of the base. -/
def isDigitOf (base : Nat) (c : Char) : Bool :=
  ((Text.asciiDigitValue? c).filter (· < base)).isSome

/-- Reads an integer of the given base, at most sixteen. -/
def readInteger (base : Nat) (s : String) : Except LiteralError Int :=
  let (negative, body) := splitSign (normalize s)
  let body := dropBaseMark base body
  let run := body.takeWhile fun c => isDigitOf base c || c == '_'
  match dropUnderscores (isDigitOf base) false run with
  | none => .error (.notInteger base s)
  | some ds =>
    if base = 10 ∧ digitLimit < ds.length then .error (.tooManyDigits ds.length)
    else if ds.isEmpty || run.length < body.length then .error (.notInteger base s)
    else
      let n : Int := ofDigits base (ds.filterMap Text.asciiDigitValue?)
      .ok (if negative then -n else n)

/-! ## Decimal numbers -/

/-- Reads the exponent at the end of a decimal number; nothing stands for zero. -/
def readExponent : List Char → Option Int
  | [] => some 0
  | c :: r =>
    if c == 'e' || c == 'E' then
      let (negative, ds) := splitSign r
      if ds.isEmpty || !ds.all Text.isAsciiDigit then none
      else
        let n : Int := ofAsciiDigits ds
        some (if negative then -n else n)
    else none

/-- Reads an unsigned decimal number as digits and a power of ten. -/
def readDecimal (s : List Char) : Option (Nat × Int) :=
  let whole := s.takeWhile Text.isAsciiDigit
  match s.dropWhile Text.isAsciiDigit with
  | '.' :: r =>
    let places := r.takeWhile Text.isAsciiDigit
    if whole.isEmpty && places.isEmpty then none
    else (readExponent (r.dropWhile Text.isAsciiDigit)).map fun e =>
      (ofAsciiDigits (whole ++ places), e - places.length)
  | r =>
    if whole.isEmpty then none
    else (readExponent r).map fun e => (ofAsciiDigits whole, e)

/-- Reads a double: a decimal number, `inf`, `infinity` or `nan` in any case. -/
def readFloat (s : String) : Except LiteralError Float :=
  let body := normalize s
  match dropUnderscores Text.isAsciiDigit false body with
  | none => .error (.notNumber s)
  | some body =>
    let (negative, unsigned) := splitSign body
    let name := String.ofList (unsigned.map Char.toLower)
    if name = "inf" ∨ name = "infinity" then .ok (Binary64.infinity negative)
    else if name = "nan" then .ok Binary64.nan
    else match readDecimal unsigned with
      | some (digits, exponent) => .ok (Binary64.ofDecimal negative digits exponent)
      | none => .error (.notNumber s)

end StartupGate.Number
