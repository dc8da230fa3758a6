import StartupGate.Toml.Number
/-!
# Settings tables

`Toml.parse` reads a text of TOML as a record: lines that set a value under a key, and headers that
open a table, or one more table of a list, for the lines after them.

What is written once cannot be written again. A value under a key is final; a table that has a
header, or that came about through the points of a key, takes no second header; and a table or list
that is written as a value takes no additions.
-/

namespace StartupGate.Toml

/-- The way from the root to a table or a value. -/
abbrev KeyPath := List String

/-! ## Nested tables -/

/-- Changes the table at a path, and creates the tables on the way. A list stands for its last
table if `throughLists` says so. -/
def updateAt (throughLists : Bool) (f : Entries → Except Error Entries) :
    KeyPath → Entries → Except Error Entries
  | [], entries => f entries
  | k :: ks, entries => do
    let inner ← match entries.field? k with
      | none => (updateAt throughLists f ks []).map .record
      | some (.record sub) => (updateAt throughLists f ks sub).map .record
      | some (.list items) =>
        match items.getLast? with
        | some (.record sub) =>
          if throughLists then do
            let sub ← updateAt throughLists f ks sub
            pure (.list (items.dropLast ++ [.record sub]))
          else throw .redefined
        | _ => throw .redefined
      | some _ => throw .redefined
    return entries.insert (.text k) inner

/-- Sets a value that is not there yet. -/
def addValue (name : String) (value : Data) (entries : Entries) : Except Error Entries :=
  if (entries.field? name).isSome then .error .redefined
  else .ok (entries.insert (.text name) value)

/-- Appends an empty table to a list, which may be new. -/
def addTable (name : String) (entries : Entries) : Except Error Entries :=
  match entries.field? name with
  | none => .ok (entries.insert (.text name) (.list [.record []]))
  | some (.list items) => .ok (entries.insert (.text name) (.list (items ++ [.record []])))
  | some _ => .error .redefined

/-- Whether a value is a table or a list. -/
def isCollection : Data → Bool
  | .list _ | .record _ => true
  | _ => false

/-! ## Values -/

mutual

/-- Reads a value. -/
def value : (fuel : Nat) → List Char → Except Error (Data × List Char)
  | 0, _ => .error .exhausted
  | fuel + 1, cs =>
    match string? cs with
    | some r => r.map fun (s, rest) => (.text s, rest)
    | none =>
      match cs with
      | 't' :: 'r' :: 'u' :: 'e' :: r => .ok (.bool true, r)
      | 'f' :: 'a' :: 'l' :: 's' :: 'e' :: r => .ok (.bool false, r)
      | '[' :: r => do
        match ← skipLines (r.length + 1) r with
        | ']' :: r => return (.list [], r)
        | r =>
          let (items, r) ← listRest fuel r
          return (.list items, r)
      | '\x7b' :: r =>
        match skipGap r with
        | '\x7d' :: r => .ok (.record [], r)
        | r => do
          let (entries, r) ← tableRest fuel [] [] r
          return (.record entries, r)
      | _ => number cs

/-- Reads the items of a list from one of them on. -/
def listRest : (fuel : Nat) → List Char → Except Error (List Data × List Char)
  | 0, _ => .error .exhausted
  | fuel + 1, cs => do
    let (item, r) ← value fuel cs
    match ← skipLines (r.length + 1) r with
    | ']' :: r => return ([item], r)
    | ',' :: r =>
      match ← skipLines (r.length + 1) r with
      | ']' :: r => return ([item], r)
      | r =>
        let (items, r) ← listRest fuel r
        return (item :: items, r)
    | _ => throw .unclosed

/-- Reads a key, the equals sign and the value. -/
def setting : (fuel : Nat) → List Char → Except Error ((KeyPath × Data) × List Char)
  | 0, _ => .error .exhausted
  | fuel + 1, cs => do
    let (path, cs) ← key (cs.length + 1) cs
    match cs with
    | '=' :: r =>
      let (v, r) ← value fuel (skipGap r)
      return ((path, v), r)
    | _ => throw .unexpected

/-- Reads the rest of a table that is written as a value. `final` are the paths of the collections
in it. -/
def tableRest : (fuel : Nat) → (final : List KeyPath) → Entries → List Char →
    Except Error (Entries × List Char)
  | 0, _, _, _ => .error .exhausted
  | fuel + 1, final, entries, cs => do
    let ((path, v), r) ← setting fuel cs
    if final.any (·.isPrefixOf path) then throw .redefined
    let entries ← updateAt false (addValue (path.getLastD "") v) path.dropLast entries
    match skipGap r with
    | '\x7d' :: r => return (entries, r)
    | ',' :: r =>
      tableRest fuel (if isCollection v then path :: final else final) entries (skipGap r)
    | _ => throw .unclosed

end

/-! ## Documents -/

/-- A table in the making. -/
structure Document where
  entries : Entries := []
  /-- The table that lines belong to. -/
  header : KeyPath := []
  /-- The collections that take no additions, at any depth. -/
  final : List KeyPath := []
  /-- The tables that take no header. -/
  closed : List KeyPath := []
  /-- The tables that take no header once the next header is read. -/
  closing : List KeyPath := []

namespace Document

/-- Whether a path leads to or into a collection that takes no additions. -/
def isFinal (d : Document) (path : KeyPath) : Bool := d.final.any (·.isPrefixOf path)

/-- Sets a value by a line. -/
def addSetting (d : Document) (path : KeyPath) (v : Data) : Except Error Document := do
  let opened := (List.range (path.length - 1)).map fun i => d.header ++ path.take (i + 1)
  if opened.any d.closed.contains then throw .redefined
  let parent := d.header ++ path.dropLast
  if d.isFinal parent then throw .redefined
  let entries ← updateAt true (addValue (path.getLastD "") v) parent d.entries
  return { d with
    entries
    closing := opened ++ d.closing
    final := if isCollection v then (d.header ++ path) :: d.final else d.final }

/-- Settles which tables take no header. -/
def settle (d : Document) : Document := { d with closed := d.closing ++ d.closed, closing := [] }

/-- Opens a table by its header. -/
def openTable (d : Document) (path : KeyPath) : Except Error Document := do
  if d.closed.contains path || d.isFinal path then throw .redefined
  let entries ← updateAt true .ok path d.entries
  return { d with entries, header := path, closed := path :: d.closed }

/-- Opens one more table of a list by its header. What was settled about its parts is free again. -/
def openListTable (d : Document) (path : KeyPath) : Except Error Document := do
  if d.isFinal path then throw .redefined
  let entries ← updateAt true (addTable (path.getLastD "")) path.dropLast d.entries
  return { d with
    entries
    header := path
    final := d.final.filter fun p => !path.isPrefixOf p
    closed := path :: d.closed.filter fun p => !path.isPrefixOf p }

/-- Reads a header from its first bracket on. -/
def readHeader (d : Document) (cs : List Char) : Except Error (Document × List Char) := do
  let d := d.settle
  match cs with
  | '[' :: '[' :: r =>
    let (path, r) ← key (r.length + 1) (skipGap r)
    let d ← d.openListTable path
    match r with
    | ']' :: ']' :: r => return (d, r)
    | _ => throw .unclosed
  | _ =>
    let r := cs.drop 1
    let (path, r) ← key (r.length + 1) (skipGap r)
    let d ← d.openTable path
    match r with
    | ']' :: r => return (d, r)
    | _ => throw .unclosed

/-- Reads the lines of a document. -/
def readLines : (fuel : Nat) → Document → List Char → Except Error Document
  | 0, _, _ => .error .exhausted
  | fuel + 1, d, cs =>
    match skipGap cs with
    | [] => .ok d
    | '\n' :: r => readLines fuel d r
    | c :: r => do
      let (d, rest) ← (if c == '[' then d.readHeader (c :: r)
        else if c == '#' then pure (d, c :: r)
        else do
          let ((path, v), rest) ← setting (2 * r.length + 8) (c :: r)
          return (← d.addSetting path v, rest) : Except Error (Document × List Char))
      match ← skipComment (skipGap rest) with
      | [] => return d
      | '\n' :: r => readLines fuel d r
      | _ => throw .unexpected

end Document

/-- Reads a text with line feeds for line ends as a record. -/
def parse (text : String) : Except Error Entries := do
  let cs := text.toList
  return (← Document.readLines (cs.length + 1) {} cs).entries

end StartupGate.Toml
