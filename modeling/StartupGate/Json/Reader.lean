import StartupGate.Data.Basic
import StartupGate.Json.Error
import StartupGate.Number.Literal
/-!
# Reading JSON

`Json.parse` reads a text as one value. Beyond the standard grammar it accepts `NaN`, `Infinity` and
`-Infinity`. A number with a point or an exponent is a double, any other an integer of any size.
The last value of a repeated key is valid, at the place of the first. Collections may stand inside
each other, but not without limit.

The reader works on a `Cursor`, which knows how many characters are behind it. Reading a value takes
fuel, one unit for each value, item or member that is begun; twice the length of the text suffices,
since each of them consumes a character.
-/

namespace StartupGate.Json

/-- What is left of a text, and the count of characters before it. -/
structure Cursor where
  position : Nat
  rest : List Char

namespace Cursor

/-- Moves past `n` characters. -/
def advance (c : Cursor) (n : Nat) : Cursor := { position := c.position + n, rest := c.rest.drop n }

/-- The four characters that may stand between the parts of a JSON text. -/
def isSpace (c : Char) : Bool := c == ' ' || c == '\t' || c == '\n' || c == '\r'

/-- Moves past blanks. -/
def skipSpace (c : Cursor) : Cursor := c.advance (c.rest.takeWhile isSpace).length

end Cursor

/-! ## Strings -/

/-- The character that a one-letter escape stands for. -/
def escaped? : Char → Option Char
  | '"' => some '"'
  | '\\' => some '\\'
  | '/' => some '/'
  | 'b' => some '\x08'
  | 'f' => some '\x0c'
  | 'n' => some '\n'
  | 'r' => some '\r'
  | 't' => some '\t'
  | _ => none

/-- The number of four hexadecimal digits. -/
def fourHex? (cs : List Char) : Option Nat :=
  match cs with
  | [a, b, c, d] => do
    let ds ← [a, b, c, d].mapM Text.asciiDigitValue?
    return Number.ofDigits 16 ds
  | _ => none

/-- The second half of a surrogate pair, when it follows as an escape. -/
def lowSurrogate? : List Char → Option Nat
  | '\\' :: 'u' :: a :: b :: c :: d :: _ :: _ =>
    (fourHex? [a, b, c, d]).filter fun n => 0xdc00 ≤ n && n ≤ 0xdfff
  | _ => none

/-- Reads the rest of a string whose quote stood at `start`; `done` holds the characters read, last
first. -/
def readString (start : Nat) :
    (fuel position : Nat) → (rest done : List Char) → Except Error (String × Cursor)
  | 0, _, _, _ => .error ⟨.unterminatedString, start⟩
  | _ + 1, _, [], _ => .error ⟨.unterminatedString, start⟩
  | fuel + 1, p, c :: r, done =>
    if c == '"' then .ok (String.ofList done.reverse, ⟨p + 1, r⟩)
    else if c == '\\' then
      match r with
      | [] => .error ⟨.unterminatedString, start⟩
      | 'u' :: hex =>
        -- At least one more character has to follow the four digits.
        if hex.length < 5 then .error ⟨.invalidUnicodeEscape, p + 1⟩
        else match fourHex? (hex.take 4) with
          | none => .error ⟨.invalidUnicodeEscape, p + 1⟩
          | some high =>
            let after := hex.drop 4
            match (if 0xd800 ≤ high && high ≤ 0xdbff then lowSurrogate? after else none) with
            | some low =>
              let code := 0x10000 + (high - 0xd800) * 0x400 + (low - 0xdc00)
              readString start fuel (p + 12) (after.drop 6) (Text.charOfCode code :: done)
            | none =>
              readString start fuel (p + 6) after (Text.charOfCode high :: done)
      | e :: t =>
        match escaped? e with
        | some ch => readString start fuel (p + 2) t (ch :: done)
        | none => .error ⟨.invalidEscape, p⟩
    else if c.toNat ≤ 0x1f then .error ⟨.controlCharacter, p⟩
    else readString start fuel (p + 1) r (c :: done)

/-! ## Numbers -/

/-- Splits off the fraction of a number, with its point. -/
def splitFraction : List Char → List Char × List Char
  | '.' :: r =>
    let ds := r.takeWhile Text.isAsciiDigit
    if ds.isEmpty then ([], '.' :: r) else ('.' :: ds, r.dropWhile Text.isAsciiDigit)
  | s => ([], s)

/-- Splits off the exponent of a number, with its letter and sign. -/
def splitExponent : List Char → List Char × List Char
  | c :: r =>
    if c == 'e' || c == 'E' then
      let (sign, body) := match r with
        | '+' :: t => (['+'], t)
        | '-' :: t => (['-'], t)
        | _ => ([], r)
      let ds := body.takeWhile Text.isAsciiDigit
      if ds.isEmpty then ([], c :: r) else (c :: sign ++ ds, body.dropWhile Text.isAsciiDigit)
    else ([], c :: r)
  | [] => ([], [])

/-- The whole part of a number: a zero alone, or digits that do not start with one. -/
def wholeDigits : List Char → List Char
  | '0' :: _ => ['0']
  | s => s.takeWhile Text.isAsciiDigit

/-- Reads a number. -/
def readNumber (c : Cursor) : Except Error (Data × Cursor) :=
  let (negative, body) := match c.rest with
    | '-' :: r => (true, r)
    | s => (false, s)
  let whole := wholeDigits body
  if whole.isEmpty then .error ⟨.expectingValue, c.position⟩
  else
    let (fraction, rest) := splitFraction (body.drop whole.length)
    let (exponent, _) := splitExponent rest
    let sign := if negative then 1 else 0
    let cursor := c.advance (sign + whole.length + fraction.length + exponent.length)
    if fraction.isEmpty && exponent.isEmpty then
      if Number.digitLimit < whole.length then .error ⟨.tooManyDigits whole.length, c.position⟩
      else
        let n : Int := Number.ofAsciiDigits whole
        .ok (.int (if negative then -n else n), cursor)
    else
      let places := fraction.drop 1
      let e := (Number.readExponent exponent).getD 0
      .ok (.float (Number.Binary64.ofDecimal negative (Number.ofAsciiDigits (whole ++ places))
        (e - places.length)), cursor)

/-! ## Values -/

/-- The greatest count of collections that stand inside each other. -/
def nestingLimit : Nat := 980

/-- The values that are written as a word. -/
def words : List (List Char × Data) := [
  ("null".toList, .null), ("true".toList, .bool true), ("false".toList, .bool false),
  ("NaN".toList, .float Number.Binary64.nan),
  ("Infinity".toList, .float (Number.Binary64.infinity false)),
  ("-Infinity".toList, .float (Number.Binary64.infinity true))]

/-- Reads a word or a number. -/
def readAtom (c : Cursor) : Except Error (Data × Cursor) :=
  match words.find? fun w => w.1.isPrefixOf c.rest with
  | some (word, value) => .ok (value, c.advance word.length)
  | none => readNumber c

mutual

/-- Reads one value; no blanks stand before it. There is room for `room` collections inside each
other. -/
def readValue (fuel room : Nat) (c : Cursor) : Except Error (Data × Cursor) :=
  match fuel with
  | 0 => .error ⟨.expectingValue, c.position⟩
  | fuel + 1 =>
    match c.rest with
    | [] => .error ⟨.expectingValue, c.position⟩
    | '"' :: r => do
      let (s, next) ← readString c.position (r.length + 1) (c.position + 1) r []
      return (.text s, next)
    | '\x7b' :: _ =>
      let inner := (c.advance 1).skipSpace
      match room, inner.rest with
      | 0, _ => .error ⟨.tooDeep true, c.position⟩
      | _, '\x7d' :: _ => .ok (.record [], inner.advance 1)
      | room + 1, _ => do
        let (pairs, next) ← readMembers fuel room inner
        return (.record (Entries.ofPairs pairs), next)
    | '[' :: _ =>
      let inner := (c.advance 1).skipSpace
      match room, inner.rest with
      | 0, _ => .error ⟨.tooDeep false, c.position⟩
      | _, ']' :: _ => .ok (.list [], inner.advance 1)
      | room + 1, _ => do
        let (items, next) ← readItems fuel room inner
        return (.list items, next)
    | _ => readAtom c

/-- Reads the items of a list up to its bracket; there is at least one. -/
def readItems (fuel room : Nat) (c : Cursor) : Except Error (List Data × Cursor) :=
  match fuel with
  | 0 => .error ⟨.expectingValue, c.position⟩
  | fuel + 1 => do
    let (item, next) ← readValue fuel room c
    let next := next.skipSpace
    match next.rest with
    | ']' :: _ => return ([item], next.advance 1)
    | ',' :: _ =>
      let (items, last) ← readItems fuel room (next.advance 1).skipSpace
      return (item :: items, last)
    | _ => throw ⟨.expectingComma, next.position⟩

/-- Reads the members of an object up to its brace; there is at least one. -/
def readMembers (fuel room : Nat) (c : Cursor) : Except Error (List (Data × Data) × Cursor) :=
  match fuel with
  | 0 => .error ⟨.expectingPropertyName, c.position⟩
  | fuel + 1 =>
    match c.rest with
    | '"' :: r => do
      let (name, next) ← readString c.position (r.length + 1) (c.position + 1) r []
      let next := next.skipSpace
      match next.rest with
      | ':' :: _ =>
        let (value, next) ← readValue fuel room (next.advance 1).skipSpace
        let next := next.skipSpace
        match next.rest with
        | '\x7d' :: _ => return ([(.text name, value)], next.advance 1)
        | ',' :: _ =>
          let (members, last) ← readMembers fuel room (next.advance 1).skipSpace
          return ((.text name, value) :: members, last)
        | _ => throw ⟨.expectingComma, next.position⟩
      | _ => throw ⟨.expectingColon, next.position⟩
    | _ => .error ⟨.expectingPropertyName, c.position⟩

end

/-- Reads a text as one JSON value with nothing but blanks around it. -/
def parse (text : String) : Except Error Data := do
  let cs := text.toList
  if cs.head? = some '\ufeff' then throw ⟨.byteOrderMark, 0⟩
  let start := Cursor.skipSpace ⟨0, cs⟩
  let (value, next) ← readValue (2 * cs.length + 2) nestingLimit start
  let next := next.skipSpace
  if next.rest.isEmpty then return value else throw ⟨.extraData, next.position⟩

end StartupGate.Json
