import StartupGate.Yaml.Stream
import StartupGate.Yaml.Token.Name
import StartupGate.Yaml.Token.Scalar
/-!
# From text to tokens

`Token.scan` turns a document into tokens. It gives all tokens that can be handed over, and the
error that stands behind them if there is one: a reader who stops early never meets that error.

A scalar or a collection may turn out to be a key when a colon follows. Until that is settled its
token is held back as the start of a *possible key*, one for each level of flow collections, and no
later token is handed over. A possible key is given up at the end of its line or after 1024
characters; giving up is an error where only a key may stand.
-/

namespace StartupGate.Yaml

/-- Where a key might have begun. -/
structure PossibleKey where
  /-- The number of its first token. -/
  number : Nat
  /-- Whether nothing but a key may stand there. -/
  required : Bool
  index : Nat
  line : Nat
  column : Nat

/-- The tokens of a document, and the error behind them if there is one. -/
structure TokenStream where
  tokens : List Token
  error : Option Error

/-- The state of the scan. -/
structure Scan where
  cursor : Cursor
  /-- How many flow collections are open. A superfluous bracket makes it negative. -/
  flowLevel : Int := 0
  /-- The column of the innermost block collection, -1 outside of all. -/
  indent : Int := -1
  /-- The columns of the block collections around it. -/
  indents : List Int := []
  /-- Whether a key may begin here. -/
  keyAllowed : Bool := true
  /-- The possible keys by flow level. -/
  keys : List (Int × PossibleKey) := []
  /-- How many tokens were handed over. -/
  taken : Nat := 0
  /-- Tokens that were not handed over yet. -/
  queue : List Token := []
  done : Bool := false

namespace Scan

/-! ## Parts of a step -/

/-- Whether a flow collection is open. -/
def inFlow (s : Scan) : Bool := s.flowLevel != 0

/-- Appends a token. -/
def push (s : Scan) (t : Token) : Scan := { s with queue := s.queue ++ [t] }

/-- Inserts a token before the one with a number. -/
def insertBefore (s : Scan) (number : Nat) (t : Token) : Scan :=
  let n := number - s.taken
  { s with queue := s.queue.take n ++ t :: s.queue.drop n }

/-- Gives up the possible keys that are too far back. -/
def dropStaleKeys (s : Scan) : Except Error Scan :=
  let isStale (k : PossibleKey) : Bool :=
    k.line != s.cursor.line || 1024 < s.cursor.index - k.index
  if s.keys.any fun (_, k) => isStale k && k.required then .error (.token .keyWithoutValue)
  else .ok { s with keys := s.keys.filter fun (_, k) => !isStale k }

/-- The number of the first token that is held back. -/
def firstKey? (s : Scan) : Option Nat := (s.keys.map fun (_, k) => k.number).min?

/-- Gives up the possible key of the current level. -/
def dropKey (s : Scan) : Except Error Scan :=
  match s.keys.lookup s.flowLevel with
  | none => .ok s
  | some k =>
    if k.required then .error (.token .keyWithoutValue)
    else .ok { s with keys := s.keys.filter fun (level, _) => level != s.flowLevel }

/-- Notes that a key may begin here. -/
def saveKey (s : Scan) : Except Error Scan := do
  if !s.keyAllowed then return s
  let s ← s.dropKey
  let key : PossibleKey :=
    { number := s.taken + s.queue.length
      required := !s.inFlow && s.indent == (s.cursor.column : Int)
      index := s.cursor.index, line := s.cursor.line, column := s.cursor.column }
  return { s with keys := (s.flowLevel, key) :: s.keys }

/-- Closes the block collections that stand further right than `column`. -/
def unwindLoop (column : Int) : (indents : List Int) → Scan → Scan
  | [], s => s
  | outer :: rest, s =>
    if column < s.indent then
      unwindLoop column rest ({ s with indent := outer, indents := rest }.push .blockEnd)
    else s

/-- Closes block collections, unless a flow collection is open. -/
def unwind (s : Scan) (column : Int) : Scan :=
  if s.inFlow then s else unwindLoop column s.indents s

/-- Opens a block collection at a column, unless one is open there; says whether it did. -/
def addIndent (s : Scan) (column : Int) : Bool × Scan :=
  if s.indent < column then (true, { s with indents := s.indent :: s.indents, indent := column })
  else (false, s)

/-- Moves past blanks, comments and line ends up to the next token. -/
def skipLoop : (fuel : Nat) → Scan → Scan
  | 0, s => s
  | fuel + 1, s =>
    let c := s.cursor.skipSpaces.skipComment
    match c.lineBreak? with
    | (some _, c) =>
      skipLoop fuel { s with cursor := c, keyAllowed := s.keyAllowed || !s.inFlow }
    | (none, c) => { s with cursor := c }

/-- Moves up to the next token; the mark of a byte order may stand at the very start. -/
def skipToToken (s : Scan) : Scan :=
  let c := s.cursor
  let c := if c.index == 0 && c.peek == '\ufeff' then c.step else c
  skipLoop (c.rest.length + 1) { s with cursor := c }

/-! ## Reading one token -/

/-- Moves past `n` characters and appends a token. -/
def emit (s : Scan) (t : Token) (n : Nat := 1) : Scan :=
  { s with cursor := s.cursor.advance n }.push t

/-- Ends all block collections before a directive, a document mark or the end. -/
def closeBlocks (s : Scan) : Except Error Scan := do
  let s ← (s.unwind (-1)).dropKey
  return { s with keyAllowed := false }

/-- The end of the document. -/
def fetchEnd (s : Scan) : Except Error Scan := do
  let s ← s.closeBlocks
  return { s with keys := [], done := true }.push .streamEnd

/-- The start of a flow collection. -/
def fetchFlowStart (s : Scan) (t : Token) : Except Error Scan := do
  let s ← s.saveKey
  return { s with flowLevel := s.flowLevel + 1, keyAllowed := true }.emit t

/-- The end of a flow collection. -/
def fetchFlowEnd (s : Scan) (t : Token) : Except Error Scan := do
  let s ← s.dropKey
  return { s with flowLevel := s.flowLevel - 1, keyAllowed := false }.emit t

/-- A comma of a flow collection. -/
def fetchFlowEntry (s : Scan) : Except Error Scan := do
  let s ← { s with keyAllowed := true }.dropKey
  return s.emit .flowEntry

/-- The dash of a block sequence. -/
def fetchBlockEntry (s : Scan) : Except Error Scan := do
  let s ← (if s.inFlow then pure s
    else if !s.keyAllowed then throw (.token .entryNotAllowed)
    else
      let (opened, s) := s.addIndent s.cursor.column
      pure (if opened then s.push .blockSequenceStart else s) : Except Error Scan)
  let s ← { s with keyAllowed := true }.dropKey
  return s.emit .blockEntry

/-- The question mark of a key. -/
def fetchKey (s : Scan) : Except Error Scan := do
  let s ← (if s.inFlow then pure s
    else if !s.keyAllowed then throw (.token .keyNotAllowed)
    else
      let (opened, s) := s.addIndent s.cursor.column
      pure (if opened then s.push .blockMappingStart else s) : Except Error Scan)
  let s ← { s with keyAllowed := !s.inFlow }.dropKey
  return s.emit .key

/-- The colon of a value. With a possible key at this level the key is settled, and its token and
the start of its mapping are inserted where it began. -/
def fetchValue (s : Scan) : Except Error Scan :=
  match s.keys.lookup s.flowLevel with
  | some k =>
    let s := { s with keys := s.keys.filter fun (level, _) => level != s.flowLevel }
    let s := s.insertBefore k.number .key
    let s :=
      if s.inFlow then s
      else
        let (opened, s) := s.addIndent k.column
        if opened then s.insertBefore k.number .blockMappingStart else s
    .ok ({ s with keyAllowed := false }.emit .value)
  | none => do
    let s ← (if s.inFlow then pure s
      else if !s.keyAllowed then throw (.token .valueNotAllowed)
      else
        let (opened, s) := s.addIndent s.cursor.column
        pure (if opened then s.push .blockMappingStart else s) : Except Error Scan)
    let s ← { s with keyAllowed := !s.inFlow }.dropKey
    return s.emit .value

/-- A token that may be the start of a key, by its reader. -/
def fetchKeyLike (s : Scan) (read : Cursor → Except Error (Token × Cursor)) :
    Except Error Scan := do
  let s ← s.saveKey
  let (t, c) ← read s.cursor
  return { s with keyAllowed := false, cursor := c }.push t

/-- A quoted scalar. -/
def fetchQuoted (s : Scan) (double : Bool) : Except Error Scan :=
  s.fetchKeyLike fun c => do
    let (text, c) ← Scalar.quoted double c
    return (.scalar text false, c)

/-- An alias or an anchor. -/
def fetchName (s : Scan) (token : String → Token) : Except Error Scan :=
  s.fetchKeyLike fun c => do
    let (name, c) ← Name.anchorName c
    return (token name, c)

/-- A block scalar. -/
def fetchBlock (s : Scan) (folded : Bool) : Except Error Scan := do
  let s ← { s with keyAllowed := true }.dropKey
  let (text, c) ← Scalar.block folded s.indent s.cursor
  return { s with cursor := c }.push (.scalar text false)

/-- A plain scalar. -/
def fetchPlain (s : Scan) : Except Error Scan := do
  let s ← s.saveKey
  let (text, c, keyAllowed) ← Scalar.plain s.inFlow s.indent s.cursor
  return { s with cursor := c, keyAllowed }.push (.scalar text true)

/-- Whether a plain scalar may begin here. -/
def startsPlain (s : Scan) : Bool :=
  let ch := s.cursor.peek
  let next := s.cursor.peek 1
  !(isBlankOrEnd ch || "-?:,[]\x7b\x7d#&*!|>'\"%@`".contains ch)
    || (!isBlankOrEnd next && (ch == '-' || (!s.inFlow && (ch == '?' || ch == ':'))))

/-- How many characters ahead the kind of the token that begins here shows. -/
def lookAhead (s : Scan) : Nat :=
  let c := s.cursor
  let ch := c.peek
  if c.column == 0 && (ch == '-' || ch == '.') then
    if c.peek 1 == ch && c.peek 2 == ch then 3 else 2
  else if ch == '-' then 1
  else if ch == '?' || ch == ':' then if s.inFlow then 0 else 1
  else if ch == '|' || ch == '>' then if s.inFlow then 1 else 0
  else if ch == '%' || ch == '@' || ch == '\x60' || ch == '\t' then 1
  else 0

/-- Reads the token that begins here. -/
def fetchHere (s : Scan) : Except Error Scan :=
  let c := s.cursor
  let ch := c.peek
  let blankFollows := isBlankOrEnd (c.peek 1)
  if c.atEnd then s.fetchEnd
  else if ch == '%' && c.column == 0 then do
    let s ← s.closeBlocks
    let (t, c) ← Name.directive s.cursor
    return { s with cursor := c }.push t
  else if c.column == 0 && c.atMark '-' then do return (← s.closeBlocks).emit .documentStart 3
  else if c.column == 0 && c.atMark '.' then do return (← s.closeBlocks).emit .documentEnd 3
  else if ch == '[' then s.fetchFlowStart .flowSequenceStart
  else if ch == '\x7b' then s.fetchFlowStart .flowMappingStart
  else if ch == ']' then s.fetchFlowEnd .flowSequenceEnd
  else if ch == '\x7d' then s.fetchFlowEnd .flowMappingEnd
  else if ch == ',' then s.fetchFlowEntry
  else if ch == '-' && blankFollows then s.fetchBlockEntry
  else if ch == '?' && (s.inFlow || blankFollows) then s.fetchKey
  else if ch == ':' && (s.inFlow || blankFollows) then s.fetchValue
  else if ch == '*' then s.fetchName .alias
  else if ch == '&' then s.fetchName .anchor
  else if ch == '!' then s.fetchKeyLike Name.tag
  else if ch == '|' && !s.inFlow then s.fetchBlock false
  else if ch == '>' && !s.inFlow then s.fetchBlock true
  else if ch == '\'' then s.fetchQuoted false
  else if ch == '"' then s.fetchQuoted true
  else if s.startsPlain then s.fetchPlain
  else .error (.token .unexpectedCharacter)

/-- Reads the next token. The character after it has to be there too. -/
def fetch (s : Scan) : Except Error Scan := do
  let s := s.skipToToken
  s.cursor.require
  let s ← s.dropStaleKeys
  let s := s.unwind s.cursor.column
  s.cursor.require s.lookAhead
  let s ← s.fetchHere
  s.cursor.require
  return s

/-! ## Handing tokens over -/

/-- Hands over tokens as soon as nothing holds them back, and reads further ones when needed. The
answer holds the tokens handed over, last one first. -/
def run : (fuel : Nat) → Scan → List Token → List Token × Option Error
  | 0, _, out => (out, some (.token .exhausted))
  | fuel + 1, s, out =>
    if s.done then (s.queue.reverse ++ out, none)
    else
      match s.queue with
      | [] =>
        match s.fetch with
        | .ok s => run fuel s out
        | .error e => (out, some e)
      | t :: rest =>
        match s.dropStaleKeys with
        | .error e => (out, some e)
        | .ok s =>
          if s.firstKey? == some s.taken then
            match s.fetch with
            | .ok s => run fuel s out
            | .error e => (out, some e)
          else run fuel { s with queue := rest, taken := s.taken + 1 } (t :: out)

end Scan

/-- The tokens of a stream. Each step of the scan consumes a character or hands over a token, and
there are at most four tokens to a character. -/
def Token.scan (stream : Stream) : TokenStream :=
  let start : Scan := { cursor := { rest := stream.text, failure := stream.failure } }
  let (tokens, error) := Scan.run (8 * stream.text.length + 16) start []
  { tokens := tokens.reverse, error }

end StartupGate.Yaml
