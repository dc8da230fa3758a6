import StartupGate.Yaml.Tag
import StartupGate.Yaml.Token.Scan
/-!
# The graph of a document

A document is a graph of nodes: scalars, sequences and mappings, each with a tag. A node that an
alias refers to is one node with several parents, and a collection may contain itself. Nodes are
numbered, and collections hold the numbers of their parts.

`Graph.ofTokens` builds the graph. It follows the grammar of tokens from left to right and never
looks further ahead than one token, so that of several faults the leftmost is reported.
-/

namespace StartupGate.Yaml

/-- What a node holds. -/
inductive Content where
  | scalar (text : String)
  | sequence (items : List Nat)
  | mapping (pairs : List (Nat × Nat))
deriving Repr

/-- A node of a document. -/
structure Node where
  tag : Tag
  content : Content
deriving Repr

/-- A document: its nodes, and the number of the one at the root. -/
structure Graph where
  nodes : Array Node
  root : Nat
deriving Repr

namespace Graph

/-- A graph in the making. -/
structure Draft where
  /-- The tokens that are left. -/
  tokens : List Token
  /-- The error behind them. -/
  error : Option Error
  nodes : Array Node := #[]
  anchors : List (String × Nat) := []
  /-- What the handles of tags stand for. -/
  handles : List (String × String) := []

/-- A step in making a graph. -/
abbrev Build := StateT Draft (Except Error)

/-- What may stand at a place. -/
inductive Place where
  /-- Inside a flow collection: no block collection. -/
  | flow
  | block
  /-- The key or value of a block mapping, where a sequence need not be indented. -/
  | entry
deriving Repr, DecidableEq

/-! ## Tokens -/

/-- The next token. -/
def peek : Build Token := do
  match (← get).tokens with
  | t :: _ => return t
  | [] => throw ((← get).error.getD (.token .exhausted))

/-- Moves past a token. -/
def drop : Build Unit := modify fun d => { d with tokens := d.tokens.drop 1 }

/-- Moves past a token if it is the given one, and says whether it was. -/
def accept (t : Token) : Build Bool := do
  if (← peek) = t then
    drop
    return true
  else return false

/-! ## Nodes -/

/-- Adds a node. -/
def add (tag : Tag) (content : Content) : Build Nat := do
  let n := (← get).nodes.size
  modify fun d => { d with nodes := d.nodes.push { tag, content } }
  return n

/-- Adds a node under an anchor, which must be new. -/
def addAnchored (anchor : Option String) (tag : Tag) (content : Content) : Build Nat := do
  match anchor with
  | none => add tag content
  | some name =>
    if ((← get).anchors.lookup name).isSome then throw (.reference .repeatedAnchor)
    let n ← add tag content
    modify fun d => { d with anchors := (name, n) :: d.anchors }
    return n

/-- Adds the scalar that stands where nothing is written. -/
def addEmpty : Build Nat := add .null (.scalar "")

/-- Fills a collection that was added before its parts. -/
def fill (n : Nat) (content : Content) : Build Unit :=
  modify fun d => { d with nodes := d.nodes.modify n fun node => { node with content } }

/-- The full name of a written tag. -/
def fullName (t : WrittenTag) : Build String := do
  match t.handle with
  | none => return t.suffix
  | some handle =>
    match (← get).handles.lookup handle with
    | some address => return address ++ t.suffix
    | none => throw (.grammar .undefinedHandle)

/-- Reads the anchor and the tag of a node, in either order. -/
def properties : Build (Option String × Option String) := do
  match ← peek with
  | .anchor a =>
    drop
    match ← peek with
    | .tag t =>
      drop
      return (some a, some (← fullName t))
    | _ => return (some a, none)
  | .tag t =>
    drop
    match ← peek with
    | .anchor a =>
      drop
      return (some a, some (← fullName t))
    | _ => return (none, some (← fullName t))
  | _ => return (none, none)

/-- The tag of a scalar. The tag `!` asks for the evident one, even of a quoted scalar. -/
def scalarTag (name : Option String) (plain : Bool) (text : String) : Tag :=
  match name with
  | none => if plain then .ofPlain text else .text
  | some name => if name = "!" then .ofPlain text else .ofName name

/-- The tag of a collection. -/
def collectionTag (name : Option String) (default : Tag) : Tag :=
  match name with
  | none => default
  | some name => if name = "!" then default else .ofName name

/-- A token after which a key or value of a block mapping is empty. -/
def endsEntry (t : Token) : Bool := t == .key || t == .value || t == .blockEnd

/-- A token after which an item of a sequence in a block is empty. -/
def endsItem (indented : Bool) (t : Token) : Bool :=
  t == .blockEntry || t == .blockEnd || (!indented && (t == .key || t == .value))

/-- A token after which a part of a flow collection is empty. -/
def endsPart (last : Token) (t : Token) : Bool := t == .flowEntry || t == last

/-! ## The grammar -/

mutual

/-- Reads a node. -/
def node : (fuel : Nat) → Place → Build Nat
  | 0, _ => throw (.token .exhausted)
  | fuel + 1, place => do
    if let .alias name ← peek then
      drop
      match (← get).anchors.lookup name with
      | some n => return n
      | none => throw (.reference .undefinedAlias)
    let (anchor, tag) ← properties
    let sequence (read : Build (List Nat)) : Build Nat := do
      let n ← addAnchored anchor (collectionTag tag .sequence) (.sequence [])
      fill n (.sequence (← read))
      return n
    let mapping (read : Build (List (Nat × Nat))) : Build Nat := do
      let n ← addAnchored anchor (collectionTag tag .mapping) (.mapping [])
      fill n (.mapping (← read))
      return n
    let otherwise : Build Nat :=
      if anchor.isSome || tag.isSome then
        addAnchored anchor (scalarTag tag true "") (.scalar "")
      else throw (.grammar .nodeExpected)
    match ← peek with
    | .scalar text plain =>
      drop
      addAnchored anchor (scalarTag tag plain text) (.scalar text)
    | .blockEntry =>
      if place = .entry then sequence (blockItems fuel false) else otherwise
    | .flowSequenceStart => sequence (drop *> flowItems fuel true)
    | .flowMappingStart => mapping (drop *> flowPairs fuel true)
    | .blockSequenceStart =>
      if place = .flow then otherwise else sequence (drop *> blockItems fuel true)
    | .blockMappingStart =>
      if place = .flow then otherwise else mapping (drop *> blockPairs fuel)
    | _ => otherwise

/-- Reads a node, or the empty scalar before certain tokens. -/
def nodeUnless : (fuel : Nat) → (stops : Token → Bool) → Place → Build Nat
  | 0, _, _ => throw (.token .exhausted)
  | fuel + 1, stops, place => do
    if stops (← peek) then addEmpty else node fuel place

/-- Reads the items of a block sequence. One that is not indented has no token for its end. -/
def blockItems : (fuel : Nat) → (indented : Bool) → Build (List Nat)
  | 0, _ => throw (.token .exhausted)
  | fuel + 1, indented => do
    if ← accept .blockEntry then
      let item ← nodeUnless fuel (endsItem indented) .block
      return item :: (← blockItems fuel indented)
    else if !indented then return []
    else if ← accept .blockEnd then return []
    else throw (.grammar .blockEndExpected)

/-- Reads the pairs of a block mapping. -/
def blockPairs : (fuel : Nat) → Build (List (Nat × Nat))
  | 0 => throw (.token .exhausted)
  | fuel + 1 => do
    if ← accept .key then
      let k ← nodeUnless fuel endsEntry .entry
      let v ← if ← accept .value then nodeUnless fuel endsEntry .entry else addEmpty
      return (k, v) :: (← blockPairs fuel)
    else if ← accept .blockEnd then return []
    else throw (.grammar .blockEndExpected)

/-- Reads the rest of a pair in a flow collection after its key token. -/
def flowPair : (fuel : Nat) → (last : Token) → Build (Nat × Nat)
  | 0, _ => throw (.token .exhausted)
  | fuel + 1, last => do
    let k ← nodeUnless fuel (fun t => t == .value || endsPart last t) .flow
    let v ← if ← accept .value then nodeUnless fuel (endsPart last) .flow else addEmpty
    return (k, v)

/-- Reads the items of a flow sequence; a pair among them is a mapping of its own. -/
def flowItems : (fuel : Nat) → (first : Bool) → Build (List Nat)
  | 0, _ => throw (.token .exhausted)
  | fuel + 1, first => do
    if ← accept .flowSequenceEnd then return []
    if !first then
      if !(← accept .flowEntry) then throw (.grammar .flowSequenceEndExpected)
    if (← peek) = .key then
      let n ← add .mapping (.mapping [])
      drop
      let pair ← flowPair fuel .flowSequenceEnd
      fill n (.mapping [pair])
      return n :: (← flowItems fuel false)
    if ← accept .flowSequenceEnd then return []
    let item ← node fuel .flow
    return item :: (← flowItems fuel false)

/-- Reads the pairs of a flow mapping; a part without a colon is a key without a value. -/
def flowPairs : (fuel : Nat) → (first : Bool) → Build (List (Nat × Nat))
  | 0, _ => throw (.token .exhausted)
  | fuel + 1, first => do
    if ← accept .flowMappingEnd then return []
    if !first then
      if !(← accept .flowEntry) then throw (.grammar .flowMappingEndExpected)
    if ← accept .key then
      let pair ← flowPair fuel .flowMappingEnd
      return pair :: (← flowPairs fuel false)
    if ← accept .flowMappingEnd then return []
    let k ← node fuel .flow
    let v ← addEmpty
    return (k, v) :: (← flowPairs fuel false)

end

/-! ## Documents -/

/-- The handles that need no directive. -/
def defaultHandles : List (String × String) := [("!", "!"), ("!!", Tag.standardAddress)]

/-- Moves past the ends of documents. -/
def skipDocumentEnds : (fuel : Nat) → Build Unit
  | 0 => pure ()
  | fuel + 1 => do if ← accept .documentEnd then skipDocumentEnds fuel

/-- Reads the directives before a document; gives the handles they define. -/
def directives : (fuel : Nat) → (versionSeen : Bool) → (handles : List (String × String)) →
    Build (List (String × String))
  | 0, _, _ => throw (.token .exhausted)
  | fuel + 1, versionSeen, handles => do
    match ← peek with
    | .directive d =>
      drop
      match d with
      | .version major _ =>
        if versionSeen then throw (.grammar .repeatedVersion)
        if major ≠ 1 then throw (.grammar .unsupportedVersion)
        directives fuel true handles
      | .handle handle address =>
        if (handles.lookup handle).isSome then throw (.grammar .repeatedHandle)
        directives fuel versionSeen ((handle, address) :: handles)
      | .other => directives fuel versionSeen handles
    | _ => return handles

/-- Reads the start of a document that is marked as one. Answers with `false` at the end. -/
def documentStart (fuel : Nat) : Build Bool := do
  skipDocumentEnds fuel
  if (← peek) = .streamEnd then return false
  let handles ← directives fuel false []
  modify fun d => { d with handles := handles ++ defaultHandles }
  if ← accept .documentStart then return true
  throw (.grammar .documentStartExpected)

/-- Whether a document without content stands before a token. -/
def endsDocument : Token → Bool
  | .directive _ | .documentStart | .documentEnd | .streamEnd => true
  | _ => false

/-- Reads the only document there may be; nothing for an empty text. -/
def document (fuel : Nat) : Build (Option Nat) := do
  let root? ← match ← peek with
    | .directive _ | .documentStart | .streamEnd => do
      if ← documentStart fuel then pure (some (← nodeUnless fuel endsDocument .block))
      else pure none
    | _ => do
      modify fun d => { d with handles := defaultHandles }
      pure (some (← node fuel .block))
  match root? with
  | none => return none
  | some root =>
    let _ ← accept .documentEnd
    if ← documentStart fuel then throw (.reference .secondDocument)
    return some root

/-- The graph of a document, nothing for an empty text. Every step of the grammar moves past a token
or goes one level down. -/
def ofTokens (s : TokenStream) : Except Error (Option Graph) := do
  let start : Draft := { tokens := s.tokens, error := s.error }
  let (root?, d) ← (document (4 * s.tokens.length + 16)).run start
  return root?.map fun root => { nodes := d.nodes, root }

end Graph

end StartupGate.Yaml
