import StartupGate.Number.Literal
/-!
# Errors of a JSON text

A JSON text is refused for one reason at one place. The place is counted in characters from the
start of the text; the message gives it as line and column too.
-/

namespace StartupGate.Json

/-- Why a text is not JSON. -/
inductive Cause where
  | expectingValue
  | expectingPropertyName
  | expectingColon
  | expectingComma
  | extraData
  /-- The text starts with the mark of a byte order. -/
  | byteOrderMark
  | unterminatedString
  | controlCharacter
  | invalidEscape
  | invalidUnicodeEscape
  /-- An integer with more digits than are read. -/
  | tooManyDigits (count : Nat)
  /-- A collection inside too many others: a record, or else a list. -/
  | tooDeep (isRecord : Bool)
deriving Repr, DecidableEq

/-- A cause and its place. -/
structure Error where
  cause : Cause
  position : Nat
deriving Repr, DecidableEq

/-- The wording of a cause. -/
def Cause.message : Cause → String
  | .expectingValue => "Expecting value"
  | .expectingPropertyName => "Expecting property name enclosed in double quotes"
  | .expectingColon => "Expecting ':' delimiter"
  | .expectingComma => "Expecting ',' delimiter"
  | .extraData => "Extra data"
  | .byteOrderMark => "Unexpected UTF-8 BOM (decode using utf-8-sig)"
  | .unterminatedString => "Unterminated string starting at"
  | .controlCharacter => "Invalid control character at"
  | .invalidEscape => "Invalid \\escape"
  | .invalidUnicodeEscape => "Invalid \\uXXXX escape"
  | .tooManyDigits count => (Number.LiteralError.tooManyDigits count).message
  | .tooDeep isRecord =>
    "maximum recursion depth exceeded while decoding a JSON "
      ++ (if isRecord then "object" else "array") ++ " from a unicode string"

/-- Whether a text is refused for its size and not for its form. -/
def Cause.isLimit : Cause → Bool
  | .tooManyDigits _ | .tooDeep _ => true
  | _ => false

/-- Line and column of a place, both counted from one. -/
def lineAndColumn (text : List Char) (position : Nat) : Nat × Nat :=
  let before := text.take position
  let line := before.count '\n' + 1
  let column := (before.reverse.takeWhile (· != '\n')).length + 1
  (line, column)

/-- The wording of an error in a text. -/
def Error.message (e : Error) (text : String) : String :=
  let (line, column) := lineAndColumn text.toList e.position
  e.cause.message ++ ": line " ++ toString line ++ " column " ++ toString column ++ " (char "
    ++ toString e.position ++ ")"

end StartupGate.Json
