import StartupGate.Data.Basic
/-!
# Writing JSON

`Json.render` writes data as a JSON text on one line, in ASCII characters only: all other characters
and the control characters stand as the sixteen-bit units of their encoding, in hexadecimal. A
double that is no JSON number is written as its text between quotes, and so is what JSON has no form
for.
-/

namespace StartupGate.Json

/-- A sixteen-bit unit inside a string. -/
def encodeUnit (n : Nat) : List Char := '\\' :: 'u' :: Text.Quoted.hexDigits 4 n

/-- How one character stands inside a string; a character beyond sixteen bits is a pair of units. -/
def encodeChar (c : Char) : List Char :=
  if c == '"' || c == '\\' then ['\\', c]
  else if c == '\n' then ['\\', 'n']
  else if 0x20 ≤ c.toNat && c.toNat < 0x7f then [c]
  else if Text.codeOfChar c < 0x10000 then encodeUnit (Text.codeOfChar c)
  else
    let n := c.toNat - 0x10000
    encodeUnit (0xd800 + n / 0x400) ++ encodeUnit (0xdc00 + n % 0x400)

/-- A string between double quotes. -/
def renderString (s : String) : String :=
  String.ofList ('"' :: s.toList.flatMap encodeChar ++ ['"'])

/-- A double: a number where JSON has one, else its text. -/
def renderFloat (x : Float) : String :=
  if x.isFinite then Number.showFloat x else renderString (Number.showFloat x)

/-- The name of a member: a text key as it is, any other key as its text. -/
def memberName : Data → String
  | .text s => s
  | d => d.display

mutual

/-- Data as JSON. -/
def render : Data → String
  | .null => "null"
  | .bool b => if b then "true" else "false"
  | .int n => toString n
  | .float x => renderFloat x
  | .text s => renderString s
  | .bytes b => renderString (Data.showBytes b)
  | .moment m => renderString m.display
  | .clock h mi s micro => renderString (Moment.displayClock h mi s micro)
  | .list items => "[" ++ ",".intercalate (renderItems items) ++ "]"
  | .set items => "[" ++ ",".intercalate (renderItems items) ++ "]"
  | .record entries => "\x7b" ++ ",".intercalate (renderMembers entries) ++ "\x7d"

/-- The items of a list as JSON. -/
def renderItems : List Data → List String
  | [] => []
  | d :: rest => render d :: renderItems rest

/-- The members of an object as JSON. -/
def renderMembers : List (Data × Data) → List String
  | [] => []
  | (k, v) :: rest => (renderString (memberName k) ++ ":" ++ render v) :: renderMembers rest

end

end StartupGate.Json
