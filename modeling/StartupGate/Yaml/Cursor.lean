import StartupGate.Yaml.Error
/-!
# A place in a document

A `Cursor` is what is left of a document together with its place: the count of characters before it,
the line and the column. Looking beyond the end shows the null character, which no document holds.

Reading may have broken off, and `failure` then says why. A cursor that has to look beyond the last
character meets that failure; `refuse` and `require` decide between it and any other fault.

A line ends with a line feed, a carriage return, both together, the next-line character, or one of
the two Unicode separators. Reading a line end gives a line feed for all but the last two, which
stand for themselves.
-/

namespace StartupGate.Yaml

/-- What is left of a document, and where. -/
structure Cursor where
  rest : List Char
  /-- Why nothing more could be read, if that is so. -/
  failure : Option Error := none
  index : Nat := 0
  line : Nat := 0
  column : Nat := 0

/-! ## Character classes -/

/-- A character that ends a line. -/
def isBreak (c : Char) : Bool :=
  c == '\r' || c == '\n' || c == '\x85' || c == '\u2028' || c == '\u2029'

/-- A line end or the end of the document. -/
def isBreakOrEnd (c : Char) : Bool := c == '\x00' || isBreak c

/-- A space, a line end or the end of the document. -/
def isSpaceOrEnd (c : Char) : Bool := c == ' ' || isBreakOrEnd c

/-- A space, a tab, a line end or the end of the document. -/
def isBlankOrEnd (c : Char) : Bool := c == '\t' || isSpaceOrEnd c

/-- A space or a tab. -/
def isInlineBlank (c : Char) : Bool := c == ' ' || c == '\t'

/-- A character of an anchor, a directive or a tag handle. -/
def isWordChar (c : Char) : Bool := c.isAlphanum || c == '-' || c == '_'

namespace Cursor

/-! ## Looking and moving -/

/-- The character `n` places ahead. -/
def peek (c : Cursor) (n : Nat := 0) : Char := c.rest.getD n '\x00'

/-- Whether nothing is left. -/
def atEnd (c : Cursor) : Bool := c.rest.isEmpty

/-- The failure that is met in looking at the character `n` places ahead. -/
def failure? (c : Cursor) (n : Nat := 0) : Option Error :=
  if c.rest.length ≤ n then c.failure else none

/-- Fails if reading broke off before the character `n` places ahead. -/
def require (c : Cursor) (n : Nat := 0) : Except Error Unit :=
  match c.failure? n with
  | some e => .error e
  | none => .ok ()

/-- The error of refusing the character `n` places ahead: what broke off the reading before it goes
first. -/
def refuse (c : Cursor) (fault : TokenFault) (n : Nat := 0) : Error :=
  (c.failure? n).getD (.token fault)

/-- Moves past one character. A carriage return ends a line only where no line feed follows, and the
mark of a byte order takes no column. -/
def step (c : Cursor) : Cursor :=
  match c.rest with
  | [] => c
  | ch :: r =>
    let ends := if ch == '\r' then r.head? != some '\n' else isBreak ch
    { c with
      rest := r, index := c.index + 1,
      line := if ends then c.line + 1 else c.line,
      column := if ends then 0 else if ch == '\ufeff' then c.column else c.column + 1 }

/-- Moves past `n` characters. -/
def advance (c : Cursor) : Nat → Cursor
  | 0 => c
  | n + 1 => c.step.advance n

/-- Moves past the characters of a class and gives them. -/
def span (c : Cursor) (p : Char → Bool) : List Char × Cursor :=
  let run := c.rest.takeWhile p
  (run, c.advance run.length)

/-- Moves past the characters of a class. -/
def skip (c : Cursor) (p : Char → Bool) : Cursor := (c.span p).2

/-- Moves past spaces. -/
def skipSpaces (c : Cursor) : Cursor := c.skip (· == ' ')

/-- Moves past a comment, up to the end of its line. -/
def skipComment (c : Cursor) : Cursor :=
  if c.peek == '#' then c.skip fun ch => !isBreakOrEnd ch else c

/-- Moves past a line end, if one is here, and gives the character it stands for. -/
def lineBreak? (c : Cursor) : Option Char × Cursor :=
  let ch := c.peek
  if ch == '\r' && c.peek 1 == '\n' then (some '\n', c.advance 2)
  else if ch == '\r' || ch == '\n' || ch == '\x85' then (some '\n', c.step)
  else if ch == '\u2028' || ch == '\u2029' then (some ch, c.step)
  else (none, c)

/-- Whether three equal characters stand here, with a blank or the end after them. -/
def atMark (c : Cursor) (ch : Char) : Bool :=
  c.peek == ch && c.peek 1 == ch && c.peek 2 == ch && isBlankOrEnd (c.peek 3)

/-- Whether a document starts or ends here. That takes a look at three characters, and at the one
after a mark. -/
def atSeparator (c : Cursor) : Except Error Bool := do
  c.require 2
  let ch := c.peek
  if (ch == '-' || ch == '.') && c.peek 1 == ch && c.peek 2 == ch then
    c.require 3
    return isBlankOrEnd (c.peek 3)
  else return false

end Cursor

end StartupGate.Yaml
