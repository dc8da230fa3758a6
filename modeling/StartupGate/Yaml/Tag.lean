import StartupGate.Yaml.Timestamp
/-!
# Tags

A tag says what a node stands for. The tags of the standard have constructors of their own; any
other tag keeps its full name.

`Tag.ofPlain` finds the tag of a scalar that was written without one: the word decides, and whatever
has no special form is text.
-/

namespace StartupGate.Yaml

/-- What a node stands for. -/
inductive Tag where
  | null
  | bool
  | int
  | float
  | binary
  | timestamp
  | text
  | sequence
  | mapping
  | set
  /-- A sequence of single pairs without a key twice. -/
  | orderedMapping
  /-- A sequence of single pairs. -/
  | pairs
  /-- The key under which other mappings are merged in. -/
  | merge
  /-- The key of the value that stands for a whole mapping. -/
  | value
  | other (name : String)
deriving Repr, DecidableEq

namespace Tag

/-- The address that the names of the standard tags begin with. -/
def standardAddress : String := "tag:yaml.org,2002:"

/-- The standard tags by the end of their names. -/
def standard : List (String × Tag) :=
  [("null", .null), ("bool", .bool), ("int", .int), ("float", .float), ("binary", .binary),
   ("timestamp", .timestamp), ("str", .text), ("seq", .sequence), ("map", .mapping),
   ("set", .set), ("omap", .orderedMapping), ("pairs", .pairs), ("merge", .merge),
   ("value", .value)]

/-- The tag of a full name. -/
def ofName (name : String) : Tag :=
  match standard.find? fun (suffix, _) => name == standardAddress ++ suffix with
  | some (_, t) => t
  | none => .other name

/-! ## Evident forms -/

/-- A digit or an underscore. -/
def isDigitOrLow (c : Char) : Bool := Text.isAsciiDigit c || c == '_'

/-- Whether a text is a digit and then digits and underscores. -/
def isGroupedDigits : List Char → Bool
  | [] => false
  | c :: r => Text.isAsciiDigit c && r.all isDigitOrLow

/-- Drops one sign. -/
def dropSign (cs : List Char) : List Char := (Number.splitSign cs).2

/-- Whether a text is a colon and a number below sixty, once or more. -/
def isSixties : List Char → Bool
  | ':' :: a :: b :: r =>
    if Text.isAsciiDigit b then
      '0' ≤ a && a ≤ '5' && (r.isEmpty || isSixties r)
    else Text.isAsciiDigit a && isSixties (b :: r)
  | [':', a] => Text.isAsciiDigit a
  | _ => false

/-- Whether a text is empty or an exponent with a sign. -/
def isSignedExponent : List Char → Bool
  | [] => true
  | e :: s :: ds =>
    (e == 'e' || e == 'E') && (s == '+' || s == '-') && !ds.isEmpty && ds.all Text.isAsciiDigit
  | _ => false

/-- Whether a text is one of the words for true and false. -/
def isBoolWord (s : String) : Bool :=
  ["yes", "Yes", "YES", "no", "No", "NO", "true", "True", "TRUE", "false", "False", "FALSE",
   "on", "On", "ON", "off", "Off", "OFF"].contains s

/-- Whether a text is one of the words for nothing. -/
def isNullWord (s : String) : Bool := ["~", "null", "Null", "NULL", ""].contains s

/-- Whether a text is a decimal number: with a point, in sixties with a point, infinite, or no
number. -/
def isFloatForm (cs : List Char) : Bool :=
  let unsigned := dropSign cs
  let whole := unsigned.takeWhile isDigitOrLow
  let rest := unsigned.dropWhile isDigitOrLow
  match rest with
  | '.' :: r =>
    if whole.isEmpty then
      let name := String.ofList r
      ["inf", "Inf", "INF"].contains name
        || (unsigned.length == cs.length
          && (["nan", "NaN", "NAN"].contains name
            || (isGroupedDigits (r.takeWhile isDigitOrLow)
              && isSignedExponent (r.dropWhile isDigitOrLow))))
    else isGroupedDigits whole && isSignedExponent (r.dropWhile isDigitOrLow)
  | ':' :: _ =>
    let parts := rest.takeWhile (· != '.')
    isGroupedDigits whole && isSixties parts
      && rest.length != parts.length && (rest.drop (parts.length + 1)).all isDigitOrLow
  | _ => false

/-- Whether a text is an integer: binary, octal, decimal, hexadecimal, or in sixties. -/
def isIntForm (cs : List Char) : Bool :=
  match dropSign cs with
  | ['0'] => true
  | '0' :: 'b' :: r => !r.isEmpty && r.all fun c => c == '0' || c == '1' || c == '_'
  | '0' :: 'x' :: r => !r.isEmpty && r.all fun c => Text.isHexDigit c || c == '_'
  | '0' :: r => r.all fun c => ('0' ≤ c && c ≤ '7') || c == '_'
  | cs =>
    let rest := cs.dropWhile isDigitOrLow
    isGroupedDigits (cs.takeWhile isDigitOrLow) && (rest.isEmpty || isSixties rest)

/-- The tag of a scalar that was written without one. A line feed at the end of a text does not
change its form. -/
def ofPlain (s : String) : Tag :=
  let cs := dropFinalLineFeed s.toList
  let word := String.ofList cs
  if cs.isEmpty then if s.isEmpty then .null else .text
  else if isBoolWord word then .bool
  else if isFloatForm cs then .float
  else if isIntForm cs then .int
  else if word = "<<" then .merge
  else if isNullWord word then .null
  else if Timestamp.isEvident s then .timestamp
  else if word = "=" then .value
  else if word = "!" ∨ word = "&" ∨ word = "*" then .other (standardAddress ++ "yaml")
  else .text

end Tag

end StartupGate.Yaml
