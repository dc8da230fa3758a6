import StartupGate.Text.Utf8
import StartupGate.Yaml.Cursor
import StartupGate.Yaml.Error
import StartupGate.Yaml.Token
/-!
# Names in a document

Directives, anchors, aliases and tags. Each reader starts at the indicator of its token and gives
the token and the place after it.
-/

namespace StartupGate.Yaml.Name

/-- Reads a word that is not empty. -/
def word (fault : TokenFault) (c : Cursor) : Except Error (String × Cursor) :=
  let (cs, c) := c.span isWordChar
  if cs.isEmpty then .error (c.refuse fault) else .ok (String.ofList cs, c)

/-! ## Tags -/

/-- A character of the address of a tag, the percent sign excepted. -/
def isAddressChar (c : Char) : Bool := c.isAlphanum || "-;/?:@&=+$,_.!~*'()[]".contains c

/-- Reads escaped bytes of an address. -/
def escapedBytes : (fuel : Nat) → Cursor → List UInt8 → Except Error (List UInt8 × Cursor)
  | 0, c, done => .ok (done.reverse, c)
  | fuel + 1, c, done =>
    if c.peek == '%' then
      match Text.asciiDigitValue? (c.peek 1), Text.asciiDigitValue? (c.peek 2) with
      | some a, some b => escapedBytes fuel (c.advance 3) (UInt8.ofNat (a * 16 + b) :: done)
      | none, _ => .error (c.refuse .tagAddress 1)
      | _, none => .error (c.refuse .tagAddress 2)
    else .ok (done.reverse, c)

/-- Reads the characters of an address. -/
def addressRest : (fuel : Nat) → Cursor → String → Except Error (String × Cursor)
  | 0, c, done => .ok (done, c)
  | fuel + 1, c, done =>
    if c.peek == '%' then do
      let (bytes, c) ← escapedBytes (c.rest.length + 1) c []
      match Text.decodeUtf8? bytes with
      | some s => addressRest fuel c (done ++ s)
      | none => throw (c.refuse .tagAddress)
    else if isAddressChar c.peek then addressRest fuel c.step (done.push c.peek)
    else .ok (done, c)

/-- Reads the address of a tag, which is not empty. -/
def address (c : Cursor) : Except Error (String × Cursor) := do
  if c.peek != '%' && !isAddressChar c.peek then throw (c.refuse .tagAddress)
  addressRest (c.rest.length + 1) c ""

/-- Reads the handle of a tag: an exclamation mark alone, or a word between two. -/
def handle (c : Cursor) : Except Error (String × Cursor) :=
  if c.peek != '!' then .error (c.refuse .tagHandle)
  else if c.peek 1 == ' ' then .ok ("!", c.step)
  else
    let (cs, after) := c.step.span isWordChar
    if after.peek == '!' then .ok ("!" ++ String.ofList cs ++ "!", after.step)
    else .error (after.refuse .tagHandle)

/-- Whether a handle stands at the start of a tag: an exclamation mark follows within the word. -/
def hasHandle (c : Cursor) : Except Error Bool := do
  let word := c.step.rest.takeWhile fun ch => !isSpaceOrEnd ch && ch != '!'
  c.require (word.length + 1)
  return c.peek (word.length + 1) == '!'

/-- Reads a tag. -/
def tag (c : Cursor) : Except Error (Token × Cursor) := do
  let (t, c) ← (if c.peek 1 == '<' then do
      let (s, c) ← address (c.advance 2)
      if c.peek != '>' then throw (c.refuse .tagAddress)
      pure ({ handle := none, suffix := s }, c.step)
    else if isBlankOrEnd (c.peek 1) then pure ({ handle := none, suffix := "!" }, c.step)
    else do
      let (h, c) ← if ← hasHandle c then handle c else pure ("!", c.step)
      let (s, c) ← address c
      pure ({ handle := some h, suffix := s }, c) : Except Error (WrittenTag × Cursor))
  if isSpaceOrEnd c.peek then return (.tag t, c) else throw (c.refuse .tagAddress)

/-! ## Anchors and aliases -/

/-- Reads the name of an anchor or an alias. -/
def anchorName (c : Cursor) : Except Error (String × Cursor) := do
  let (s, c) ← word .anchorName c.step
  if isBlankOrEnd c.peek || "?:,]\x7d%@`".contains c.peek then return (s, c)
  else throw (c.refuse .anchorName)

/-! ## Directives -/

/-- Reads a run of digits that is not empty. -/
def number (c : Cursor) : Except Error (Nat × Cursor) :=
  let (cs, c) := c.span Text.isAsciiDigit
  if cs.isEmpty then .error (c.refuse .directive)
  else if Number.digitLimit < cs.length then
    .error ((c.failure?).getD (.value (.literal (.tooManyDigits cs.length))))
  else .ok (Number.ofAsciiDigits cs, c)

/-- Fails unless a space or the end of the line is here. -/
def requireSpace (c : Cursor) : Except Error Unit :=
  if isSpaceOrEnd c.peek then .ok () else .error (c.refuse .directive)

/-- Reads a directive, with the rest of its line. -/
def directive (c : Cursor) : Except Error (Token × Cursor) := do
  let (name, c) ← word .directive c.step
  requireSpace c
  let (d, c) ← (if name = "YAML" then do
      let (major, c) ← number c.skipSpaces
      if c.peek != '.' then throw (c.refuse .directive)
      let (minor, c) ← number c.step
      requireSpace c
      pure (.version major minor, c)
    else if name = "TAG" then do
      let (h, c) ← handle c.skipSpaces
      if c.peek != ' ' then throw (c.refuse .directive)
      let (a, c) ← address c.skipSpaces
      requireSpace c
      pure (.handle h a, c)
    else pure (.other, c.skip fun ch => !isBreakOrEnd ch) : Except Error (Directive × Cursor))
  let c := c.skipSpaces.skipComment
  if isBreakOrEnd c.peek then return (.directive d, c.lineBreak?.2) else throw (c.refuse .directive)

end StartupGate.Yaml.Name
