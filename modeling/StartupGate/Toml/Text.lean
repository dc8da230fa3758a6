import StartupGate.Number.Literal
/-!
# Keys and strings of a settings table

The readers of keys and strings in TOML. Each takes the characters that are left and gives a value
with the characters after it.

A string stands between one or three quotes. Between double quotes a backslash begins an escape;
between single ones every character stands for itself. Three quotes allow line ends, and up to two
quotes of the kind right before the closing ones.
-/

namespace StartupGate.Toml

/-- Why a text is no table of settings. -/
inductive Error where
  /-- No key, value or header where one has to stand. -/
  | unexpected
  /-- A bracket or a quote that is never closed. -/
  | unclosed
  /-- A character that may not stand in a string or a comment. -/
  | illegalCharacter
  | badEscape
  /-- A day or a time that does not exist. -/
  | badMoment
  /-- A table or a value that is there already. -/
  | redefined
  | number (e : Number.LiteralError)
  /-- The reader ran out of steps. -/
  | exhausted
deriving Repr, DecidableEq

/-! ## Blanks and comments -/

/-- A space or a tab. -/
def isGap (c : Char) : Bool := c == ' ' || c == '\t'

/-- Moves past spaces and tabs. -/
def skipGap (cs : List Char) : List Char := cs.dropWhile isGap

/-- A control character that is no tab. It may not stand in strings and comments. -/
def isIllegal (c : Char) : Bool := (c.toNat < 32 || c.toNat == 127) && c != '\t'

/-- Moves past a comment, if one is here. -/
def skipComment (cs : List Char) : Except Error (List Char) :=
  match cs with
  | '#' :: r =>
    if (r.takeWhile (· != '\n')).any isIllegal then .error .illegalCharacter
    else .ok (r.dropWhile (· != '\n'))
  | _ => .ok cs

/-- Moves past blanks, comments and line ends. -/
def skipLines : (fuel : Nat) → List Char → Except Error (List Char)
  | 0, cs => .ok cs
  | fuel + 1, cs =>
    match cs.dropWhile fun c => isGap c || c == '\n' with
    | '#' :: r => do skipLines fuel (← skipComment ('#' :: r))
    | cs => .ok cs

/-! ## Strings -/

/-- The character of a one-letter escape. -/
def escaped? : Char → Option Char
  | 'b' => some '\x08'
  | 't' => some '\t'
  | 'n' => some '\n'
  | 'f' => some '\x0c'
  | 'r' => some '\r'
  | '"' => some '"'
  | '\\' => some '\\'
  | _ => none

/-- Reads the character of a code point written with `width` digits. -/
def codePoint (width : Nat) (cs : List Char) : Except Error (Char × List Char) :=
  let digits := cs.take width
  if digits.length = width ∧ digits.all Text.isHexDigit then
    let n := Number.ofDigits 16 (digits.filterMap Text.asciiDigitValue?)
    if n.isValidChar then .ok (Char.ofNat n, cs.drop width) else .error .badEscape
  else .error .badEscape

/-- Reads what follows a backslash; nothing for a line that goes on after blanks and line ends. -/
def escape (lines : Bool) (cs : List Char) : Except Error (Option Char × List Char) :=
  match cs with
  | [] => .error .badEscape
  | c :: r =>
    if lines && (isGap c || c == '\n') then
      match skipGap cs with
      | [] => .ok (none, [])
      | '\n' :: r => .ok (none, r.dropWhile fun c => isGap c || c == '\n')
      | _ => .error .badEscape
    else if c = 'u' then (codePoint 4 r).map fun (x, r) => (some x, r)
    else if c = 'U' then (codePoint 8 r).map fun (x, r) => (some x, r)
    else match escaped? c with
      | some x => .ok (some x, r)
      | none => .error .badEscape

/-- Reads the rest of a string between double quotes; `lines` says that there are three. What was
read of it so far is in `done`, last character first. -/
def basicRest (lines : Bool) : (fuel : Nat) → List Char → (done : List Char) →
    Except Error (String × List Char)
  | 0, _, _ => .error .exhausted
  | _, [], _ => .error .unclosed
  | fuel + 1, c :: r, done =>
    if c = '"' then
      if !lines then .ok (String.ofList done.reverse, r)
      else match r with
        | '"' :: '"' :: r => .ok (String.ofList done.reverse, r)
        | _ => basicRest lines fuel r ('"' :: done)
    else if c = '\\' then do
      let (x, r) ← escape lines r
      basicRest lines fuel r (x.toList ++ done)
    else if isIllegal c && !(lines && c == '\n') then .error .illegalCharacter
    else basicRest lines fuel r (c :: done)

/-- Reads the rest of a string between single quotes. -/
def literalRest : List Char → (done : List Char) → Except Error (String × List Char)
  | [], _ => .error .unclosed
  | c :: r, done =>
    if c = '\'' then .ok (String.ofList done.reverse, r)
    else if isIllegal c then .error .illegalCharacter
    else literalRest r (c :: done)

/-- Reads the rest of a string between three single quotes. -/
def literalLines : List Char → (done : List Char) → Except Error (String × List Char)
  | [], _ => .error .unclosed
  | '\'' :: '\'' :: '\'' :: r, done => .ok (String.ofList done.reverse, r)
  | c :: r, done =>
    if isIllegal c && c != '\n' then .error .illegalCharacter
    else literalLines r (c :: done)

/-- Appends up to two further quotes right after the closing ones. -/
def closingQuotes (quote : Char) (s : String) (cs : List Char) : String × List Char :=
  let n := ((cs.take 2).takeWhile (· == quote)).length
  (s ++ String.ofList (List.replicate n quote), cs.drop n)

/-- Drops a line end right after opening quotes. -/
def dropFirstLineEnd : List Char → List Char
  | '\n' :: r => r
  | cs => cs

/-- Reads a string on one line, from its quote on. -/
def line? (cs : List Char) : Option (Except Error (String × List Char)) :=
  match cs with
  | '"' :: r => some (basicRest false (r.length + 1) r [])
  | '\'' :: r => some (literalRest r [])
  | _ => none

/-- Reads a string, from its quotes on. -/
def string? (cs : List Char) : Option (Except Error (String × List Char)) :=
  match cs with
  | '"' :: '"' :: '"' :: r => some do
    let (s, rest) ← basicRest true (r.length + 1) (dropFirstLineEnd r) []
    return closingQuotes '"' s rest
  | '\'' :: '\'' :: '\'' :: r => some do
    let (s, rest) ← literalLines (dropFirstLineEnd r) []
    return closingQuotes '\'' s rest
  | _ => line? cs

/-! ## Keys -/

/-- A character of a key without quotes. -/
def isKeyChar (c : Char) : Bool := c.isAlphanum || c == '-' || c == '_'

/-- Reads one part of a key. -/
def keyPart (cs : List Char) : Except Error (String × List Char) :=
  let bare := cs.takeWhile isKeyChar
  if !bare.isEmpty then .ok (String.ofList bare, cs.drop bare.length)
  else (line? cs).getD (.error .unexpected)

/-- Reads a key: parts with points between them, and blanks around the points. -/
def key : (fuel : Nat) → List Char → Except Error (List String × List Char)
  | 0, _ => .error .exhausted
  | fuel + 1, cs => do
    let (part, cs) ← keyPart cs
    match skipGap cs with
    | '.' :: r =>
      let (parts, cs) ← key fuel (skipGap r)
      return (part :: parts, cs)
    | cs => return ([part], cs)

end StartupGate.Toml
