import StartupGate.Yaml.Cursor
import StartupGate.Yaml.Error
/-!
# Scalars in a document

The four ways to write a scalar: quoted with single or double quotes, as a block that keeps its
lines or folds them, and plain. Each reader starts at the first character of the scalar and gives
its text and the place after it.

Line ends inside a scalar are folded: a single one becomes a space, and of several the first is
dropped. A block that keeps its lines folds nothing.

The loops take fuel, one unit for each character or line; what is left of the document bounds it.
-/

namespace StartupGate.Yaml.Scalar

/-! ## Quoted scalars -/

/-- The character of a one-letter escape. -/
def escaped? : Char → Option Char
  | '0' => some '\x00'
  | 'a' => some '\x07'
  | 'b' => some '\x08'
  | 't' => some '\t'
  | '\t' => some '\t'
  | 'n' => some '\n'
  | 'v' => some '\x0b'
  | 'f' => some '\x0c'
  | 'r' => some '\r'
  | 'e' => some '\x1b'
  | ' ' => some ' '
  | '"' => some '"'
  | '\\' => some '\\'
  | '/' => some '/'
  | 'N' => some '\x85'
  | '_' => some '\xa0'
  | 'L' => some '\u2028'
  | 'P' => some '\u2029'
  | _ => none

/-- The count of digits of an escape by code point. -/
def escapeWidth? : Char → Option Nat
  | 'x' => some 2
  | 'u' => some 4
  | 'U' => some 8
  | _ => none

/-- The character of a code point. -/
def charOfCode (n : Nat) : Except Error Char :=
  if 0x7fffffff < n then .error (.value .codePointSize)
  else if 0x10ffff < n then .error (.value .codePoint)
  else .ok (Text.charOfCode n)

/-- Reads the line ends and blanks of a quoted scalar after its first line end, and gives the
characters of the further line ends. -/
def quotedBreaks : (fuel : Nat) → Cursor → String → Except Error (String × Cursor)
  | 0, _, _ => .error (.token .exhausted)
  | fuel + 1, c, done => do
    if ← c.atSeparator then throw (.token .separatorInQuote)
    let c := c.skip isInlineBlank
    match c.lineBreak? with
    | (some b, c) => quotedBreaks fuel c (done.push b)
    | (none, c) => return (done, c)

/-- Reads blanks inside a quoted scalar, with the line ends among them. -/
def quotedBlanks (c : Cursor) : Except Error (String × Cursor) := do
  let (blanks, c) := c.span isInlineBlank
  if c.atEnd then throw (c.refuse .unfinishedQuote)
  match c.lineBreak? with
  | (some b, c) =>
    let (breaks, c) ← quotedBreaks (c.rest.length + 1) c ""
    let head := if b != '\n' then String.singleton b else if breaks.isEmpty then " " else ""
    return (head ++ breaks, c)
  | (none, c) => return (String.ofList blanks, c)

/-- Reads what follows the backslash of an escape. -/
def escape (c : Cursor) : Except Error (String × Cursor) :=
  match escaped? c.peek with
  | some ch => .ok (String.singleton ch, c.step)
  | none =>
    match escapeWidth? c.peek with
    | some width =>
      let c := c.step
      let digits := (c.rest.take width).takeWhile Text.isHexDigit
      if digits.length = width then do
        let code := Number.ofDigits 16 (digits.filterMap Text.asciiDigitValue?)
        return (String.singleton (← charOfCode code), c.advance width)
      else .error (c.refuse .unknownEscape digits.length)
    | none =>
      match c.lineBreak? with
      | (some _, c) => quotedBreaks (c.rest.length + 1) c ""
      | (none, c) => .error (c.refuse .unknownEscape)

/-- Reads a quoted scalar up to its closing quote. -/
def quotedRest (double : Bool) : (fuel : Nat) → Cursor → String → Except Error (String × Cursor)
  | 0, _, _ => .error (.token .exhausted)
  | fuel + 1, c, done =>
    let ch := c.peek
    if c.atEnd then .error (c.refuse .unfinishedQuote)
    else if isInlineBlank ch || isBreak ch then do
      let (s, c) ← quotedBlanks c
      quotedRest double fuel c (done ++ s)
    else if double && ch == '\\' then do
      let (s, c) ← escape c.step
      quotedRest double fuel c (done ++ s)
    else if ch == (if double then '"' else '\'') then
      if !double && c.peek 1 == '\'' then quotedRest double fuel (c.advance 2) (done.push '\'')
      else .ok (done, c.step)
    else quotedRest double fuel c.step (done.push ch)

/-- Reads a quoted scalar. -/
def quoted (double : Bool) (c : Cursor) : Except Error (String × Cursor) :=
  quotedRest double (c.rest.length + 1) c.step ""

/-! ## Block scalars -/

/-- What becomes of the line ends at the end of a block. -/
inductive Chomping where
  | strip
  | clip
  | keep
deriving Repr, DecidableEq

/-- The chomping of an indicator. -/
def chomping? : Char → Option Chomping
  | '+' => some .keep
  | '-' => some .strip
  | _ => none

/-- The indentation of an indicator; zero is refused. -/
def indentation? (ch : Char) : Except Error (Option Nat) :=
  if ch == '0' then .error (.token .blockHeader)
  else if Text.isAsciiDigit ch then .ok (some (ch.toNat - 48))
  else .ok none

/-- Reads the indicators of a block, in either order. -/
def indicators (c : Cursor) : Except Error (Chomping × Option Nat × Cursor) := do
  let (chomping, indent, c) ← match chomping? c.peek with
    | some chomping => do
      let c := c.step
      match ← indentation? c.peek with
      | some n => pure (chomping, some n, c.step)
      | none => pure (chomping, none, c)
    | none => do
      match ← indentation? c.peek with
      | some n =>
        let c := c.step
        match chomping? c.peek with
        | some chomping => pure (chomping, some n, c.step)
        | none => pure (.clip, some n, c)
      | none => pure (.clip, none, c)
  if isSpaceOrEnd c.peek then return (chomping, indent, c) else throw (c.refuse .blockHeader)

/-- Moves past the rest of a line that holds blanks and a comment at most. -/
def restOfLine (fault : TokenFault) (c : Cursor) : Except Error Cursor :=
  let c := c.skipSpaces.skipComment
  if isBreakOrEnd c.peek then .ok c.lineBreak?.2 else .error (c.refuse fault)

/-- Finds the indentation of a block: the widest run of spaces before its first text. Gives the
line ends passed on the way. -/
def findIndentation : (fuel : Nat) → Cursor → (breaks : String) → (widest : Nat) →
    String × Nat × Cursor
  | 0, c, breaks, widest => (breaks, widest, c)
  | fuel + 1, c, breaks, widest =>
    if c.peek == ' ' then
      let c := c.step
      findIndentation fuel c breaks (max widest c.column)
    else match c.lineBreak? with
      | (some b, c) => findIndentation fuel c (breaks.push b) widest
      | (none, c) => (breaks, widest, c)

/-- Moves past the spaces that belong to an indentation. -/
def skipIndentation (indent : Nat) (c : Cursor) : Cursor :=
  c.advance ((c.rest.takeWhile (· == ' ')).length.min (indent - c.column))

/-- Moves past empty lines, and gives their line ends. -/
def emptyLines (indent : Nat) : (fuel : Nat) → Cursor → String → String × Cursor
  | 0, c, done => (done, c)
  | fuel + 1, c, done =>
    let c := skipIndentation indent c
    match c.lineBreak? with
    | (some b, c) => emptyLines indent fuel c (done.push b)
    | (none, c) => (done, c)

/-- Reads the lines of a block from a line with text on. `breaks` are the line ends before it. -/
def blockLines (folded : Bool) (indent : Nat) : (fuel : Nat) → Cursor → (done breaks : String) →
    String × Option Char × String × Cursor
  | 0, c, done, breaks => (done, none, breaks, c)
  | fuel + 1, c, done, breaks =>
    let startsWithText := !isInlineBlank c.peek
    let (line, c) := c.span fun ch => !isBreakOrEnd ch
    let done := done ++ breaks ++ String.ofList line
    let (lineEnd, c) := c.lineBreak?
    let (breaks, c) := emptyLines indent (c.rest.length + 1) c ""
    if c.column == indent && !c.atEnd then
      let joint :=
        if folded && lineEnd == some '\n' && startsWithText && !isInlineBlank c.peek then
          if breaks.isEmpty then " " else ""
        else String.ofList lineEnd.toList
      blockLines folded indent fuel c (done ++ joint) breaks
    else (done, lineEnd, breaks, c)

/-- Reads a block scalar; `parent` is the column of the collection that holds it, -1 for none. -/
def block (folded : Bool) (parent : Int) (c : Cursor) : Except Error (String × Cursor) := do
  let (chomping, increment, c) ← indicators c.step
  let c ← restOfLine .blockHeader c
  let least := (max (parent + 1) 1).toNat
  let fuel := c.rest.length + 1
  let (breaks, indent, c) := match increment with
    | some n =>
      let indent := least + n - 1
      let (breaks, c) := emptyLines indent fuel c ""
      (breaks, indent, c)
    | none =>
      let (breaks, widest, c) := findIndentation fuel c "" 0
      (breaks, max least widest, c)
  let (done, lineEnd, breaks, c) :=
    if c.column == indent && !c.atEnd then blockLines folded indent fuel c "" breaks
    else ("", none, breaks, c)
  let last := if chomping == .strip then "" else String.ofList lineEnd.toList
  let tail := if chomping == .keep then breaks else ""
  return (done ++ last ++ tail, c)

/-! ## Plain scalars -/

/-- What follows a run of plain text: the blanks to insert before the next run if there is one,
whether a line ended, and whether a document did. -/
structure Gap where
  text : String
  newLine : Bool
  separator : Bool

/-- Moves past spaces and line ends after the first line end of a plain scalar. Gives the further
line ends, and whether a document starts or ends after one of them. -/
def plainBreaks : (fuel : Nat) → Cursor → String → Except Error (String × Bool × Cursor)
  | 0, _, _ => .error (.token .exhausted)
  | fuel + 1, c, done =>
    if c.peek == ' ' then plainBreaks fuel c.step done
    else match c.lineBreak? with
      | (some b, c) => do
        if ← c.atSeparator then return (done, true, c) else plainBreaks fuel c (done.push b)
      | (none, c) => .ok (done, false, c)

/-- Reads the blanks between two runs of plain text. -/
def plainGap (c : Cursor) : Except Error (Gap × Cursor) := do
  let (spaces, c) := c.span (· == ' ')
  match c.lineBreak? with
  | (none, c) => return ({ text := String.ofList spaces, newLine := false, separator := false }, c)
  | (some b, c) =>
    let final : Gap := { text := "", newLine := true, separator := true }
    if ← c.atSeparator then return (final, c)
    let (breaks, separator, c) ← plainBreaks (c.rest.length + 1) c ""
    if separator then return (final, c)
    let head := if b != '\n' then String.singleton b else if breaks.isEmpty then " " else ""
    return ({ text := head ++ breaks, newLine := true, separator := false }, c)

/-- The count of characters up to the end of a run of plain text. Inside a flow collection its
indicators end the run too. -/
def plainRun (flow : Bool) : List Char → Nat
  | [] => 0
  | ch :: r =>
    let next := r.headD '\x00'
    if isBlankOrEnd ch then 0
    else if ch == ':' && (isBlankOrEnd next || (flow && ",[]\x7b\x7d".contains next)) then 0
    else if flow && ",?[]\x7b\x7d".contains ch then 0
    else plainRun flow r + 1

/-- Reads a plain scalar from a run on; `pending` are the blanks before it. The last part of the
answer says whether a key may follow, as it may on a new line. -/
def plainRest (flow : Bool) (indent : Int) : (fuel : Nat) → Cursor → (done pending : String) →
    (keyMayFollow : Bool) → Except Error (String × Cursor × Bool)
  | 0, _, _, _, _ => .error (.token .exhausted)
  | fuel + 1, c, done, pending, k => do
    if c.peek == '#' then return (done, c, k)
    let n := plainRun flow c.rest
    c.require (if c.peek n == ':' then n + 1 else n)
    if n == 0 then return (done, c, k)
    let done := done ++ pending ++ String.ofList (c.rest.take n)
    let (gap, c) ← plainGap (c.advance n)
    if gap.separator || gap.text.isEmpty || c.peek == '#' || (!flow && (c.column : Int) < indent)
    then return (done, c, gap.newLine)
    else plainRest flow indent fuel c done gap.text gap.newLine

/-- Reads a plain scalar; `parent` is the column of the collection that holds it, -1 for none. -/
def plain (flow : Bool) (parent : Int) (c : Cursor) : Except Error (String × Cursor × Bool) :=
  plainRest flow (parent + 1) (c.rest.length + 1) c "" "" false

end StartupGate.Yaml.Scalar
