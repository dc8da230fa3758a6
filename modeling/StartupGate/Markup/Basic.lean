import StartupGate.Markup.Emoji
import StartupGate.Markup.Parameters
import StartupGate.Markup.Style
/-!
# Marked-up text

A text may hold tags between brackets, such as `[red]`, `[/red]` and `[/]`, which change how the
text looks and are not shown themselves. A bracket begins a tag when a small letter, a number sign,
a slash or an at sign follows; a backslash before it makes it an ordinary bracket. Emoji codes are
replaced between the tags, and a few control characters are dropped.

`Markup.plain` gives what is shown of a text. A closing tag has to name a style that is open, in any
spelling. A tag that begins with an at sign names an action, and when it is closed its parameters
have to be values.
-/

namespace StartupGate.Markup

/-- Why a marked-up text cannot be shown. -/
inductive Error where
  /-- The tag closes something that is not open. -/
  | notOpen (tag : String) (position : Nat)
  /-- The tag closes the last open tag, and there is none. -/
  | nothingOpen (position : Nat)
  /-- The parameters of an action are no values. -/
  | badParameters (values written : String) (fault : Parameters.Fault)
  /-- The share of a colour is no number. -/
  | colour (e : Number.LiteralError)
deriving Repr, DecidableEq

/-- The wording of a markup error. -/
def Error.message : Error → String
  | .notOpen tag position =>
    "closing tag '[" ++ tag ++ "]' at position " ++ toString position
      ++ " doesn't match any open tag"
  | .nothingOpen position =>
    "closing tag '[/]' at position " ++ toString position ++ " has nothing to close"
  | .badParameters _ written .notConstant =>
    "error parsing " ++ Text.quote written ++ "; " ++ Parameters.Fault.notConstant.message
  | .badParameters values written fault =>
    "error parsing " ++ Text.quote values ++ " in " ++ Text.quote written ++ "; "
      ++ fault.message
  | .colour e => e.message

/-! ## Pieces -/

/-- A character that a tag may begin with. -/
def startsTag (c : Char) : Bool := ('a' ≤ c && c ≤ 'z') || c == '#' || c == '/' || c == '@'

/-- Splits a tag off after its opening bracket: what is inside, and the rest. -/
def tag? (cs : List Char) : Option (List Char × List Char) :=
  match cs with
  | [] => none
  | c :: _ =>
    if startsTag c then
      let inside := cs.takeWhile fun c => c != '[' && c != ']'
      match cs.drop inside.length with
      | ']' :: rest => some (inside, rest)
      | _ => none
    else none

/-- A piece of a marked-up text. -/
inductive Piece where
  | text (cs : List Char)
  /-- A tag, without its brackets, and where it begins. -/
  | tag (inside : List Char) (position : Nat)
deriving Repr, DecidableEq

/-- A piece of text before others, unless it is empty. -/
def textBefore (cs : List Char) (pieces : List Piece) : List Piece :=
  if cs.isEmpty then pieces else .text cs :: pieces

/-- The pieces of a text from a position on, where `pending` is text that was met before, last
character first. Half of the backslashes before a bracket are shown. -/
def piecesAfter : (fuel : Nat) → (position : Nat) → (pending : List Char) → List Char → List Piece
  | 0, _, pending, _ => textBefore pending.reverse []
  | _, _, pending, [] => textBefore pending.reverse []
  | fuel + 1, position, pending, c :: r =>
    let escapes := ((c :: r).takeWhile (· == '\\')).length
    let asText :=
      match escapes with
      | 0 => piecesAfter fuel (position + 1) (c :: pending) r
      | n => piecesAfter fuel (position + n) (List.replicate n '\\' ++ pending) ((c :: r).drop n)
    match (c :: r).drop escapes with
    | '[' :: rest =>
      match tag? rest with
      | none => asText
      | some (inside, after) =>
        let following := piecesAfter fuel (position + escapes + inside.length + 2) [] after
        let piece :=
          if escapes % 2 = 1 then Piece.text ('[' :: inside ++ [']'])
          else .tag inside (position + escapes)
        textBefore pending.reverse
          (textBefore (List.replicate (escapes / 2) '\\') (piece :: following))
    | _ => asText

/-- The pieces of a text. -/
def pieces (s : String) : List Piece :=
  let cs := s.toList
  piecesAfter (cs.length + 1) 0 [] cs

/-! ## Showing -/

/-- Drops the backslash before a bracket. -/
def unescape : List Char → List Char
  | '\\' :: '[' :: r => '[' :: unescape r
  | c :: r => c :: unescape r
  | [] => []

/-- A control character that is never shown. -/
def isDropped (c : Char) : Bool :=
  c == '\x07' || c == '\x08' || c == '\x0b' || c == '\x0c' || c == '\r'

/-- What is shown of a piece of text. -/
def shownText (cs : List Char) : List Char :=
  let cs := unescape cs
  (replaceEmoji (cs.length + 1) cs).filter fun c => !isDropped c

/-- An open tag. -/
structure OpenTag where
  /-- The normal name of its style. -/
  name : String
  parameters : List Char := []

/-- What is being shown. -/
structure State where
  shown : List Char := []
  /-- The open tags, innermost first. -/
  opened : List OpenTag := []

/-- The normal name of a style in a tag. -/
def normalName (name : List Char) : Except Error String :=
  (Style.normalName (String.ofList name)).mapError .colour

/-- Judges the parameters of an action that is closed. -/
def closeTag (t : OpenTag) : Except Error Unit :=
  if t.name.startsWith "@" && !t.parameters.isEmpty then
    let values := Parameters.valuePart (Text.trim Text.isBlank t.parameters)
    match Parameters.fault? values with
    | some f => .error (.badParameters (String.ofList values) (String.ofList t.parameters) f)
    | none => .ok ()
  else .ok ()

/-- Reads a tag that begins at a position. -/
def State.read (s : State) (inside : List Char) (position : Nat) : Except Error State := do
  let name := inside.takeWhile (· != '=')
  match name with
  | '/' :: closes =>
    let closes := Text.trim Text.isBlank closes
    if closes.isEmpty then
      match s.opened with
      | [] => throw (.nothingOpen position)
      | t :: outer => do
        closeTag t
        return { s with opened := outer }
    else
      let closed ← normalName closes
      match s.opened.find? fun t => t.name = closed with
      | none => throw (.notOpen (String.ofList inside) position)
      | some t =>
        closeTag t
        return { s with opened := s.opened.eraseP fun t => t.name = closed }
  | _ =>
    let opening : OpenTag :=
      { name := ← normalName name, parameters := (inside.drop name.length).drop 1 }
    return { s with opened := opening :: s.opened }

/-- Reads a piece. -/
def State.add (s : State) : Piece → Except Error State
  | .text cs => .ok { s with shown := s.shown ++ shownText cs }
  | .tag inside position => s.read inside position

/-- What is shown of a text. -/
def plain (s : String) : Except Error String := do
  return String.ofList (← (pieces s).foldlM State.add {}).shown

end StartupGate.Markup
