import StartupGate.Yaml.Graph
import StartupGate.Yaml.Meaning
/-!
# From a document to data

`Yaml.load` reads a stream as a document and gives the data that it stands for.

The values of a graph are made level by level: a scalar at once, a collection when all collections
met before it are filled, keys before their values. Of several faults the first in this order is
reported. A node with several parents has one value, and a collection may hold itself, so the values
refer to each other by number; `Values.toData` unfolds them to a given depth.
-/

namespace StartupGate.Yaml

/-- The key of a mapping. What is no number equals nothing but itself: unless it goes by its name,
each node of the kind is a key of its own, and the key holds the number of that node. -/
structure Key where
  data : Data
  node : Option Nat := none

/-- Whether two keys are the same. -/
def Key.same (a b : Key) : Bool := a.node == b.node && a.data.sameKey b.data

/-- The entries of a sequence of settings, the last one of a key being valid. -/
def entriesOf (pairs : List (Key × Data)) : Entries :=
  (pairs.foldl (fun entries (k, v) => Entries.insertBy Key.same entries k v) []).map
    fun (k, v) => (k.data, v)

/-- What a node stands for, its parts by number. -/
inductive Value where
  | scalar (d : Data)
  | sequence (items : List Nat)
  | pairs (items : List (Nat × Nat))
  | set (items : List Key)
  | record (entries : List (Key × Nat))

/-- The values of the nodes of a graph, as far as they are known. -/
abbrev Values := Array (Option Value)

/-! ## Merging -/

/-- A step that may change the nodes of a graph. -/
abbrev Edit := StateT (Array Node) (Except Error)

/-- The content of a node. -/
def contentOf (n : Nat) : Edit Content := do
  return match (← get)[n]? with
    | some node => node.content
    | none => .scalar ""

/-- The tag of a node. -/
def tagOf (n : Nat) : Edit Tag := do
  return match (← get)[n]? with
    | some node => node.tag
    | none => .text

/-- The pairs of a mapping. -/
def pairsOf (n : Nat) : Edit (List (Nat × Nat)) := do
  return match ← contentOf n with
    | .mapping pairs => pairs
    | _ => []

/-- Sets the pairs of a mapping. -/
def setPairs (n : Nat) (pairs : List (Nat × Nat)) : Edit Unit :=
  modify fun nodes => nodes.modify n fun node => { node with content := .mapping pairs }

/-- Turns the key of a whole value into text. -/
def retagValueKey (n : Nat) : Edit Unit := do
  if (← tagOf n) = .value then
    modify fun nodes => nodes.modify n fun node => { node with tag := .text }

/-- Removes the first pair of a mapping that merges, and gives what it merges. -/
def takeMerge (n : Nat) : Edit (Option Nat) := do
  let nodes ← get
  let pairs ← pairsOf n
  let merges (p : Nat × Nat) : Bool :=
    match nodes[p.1]? with
    | some key => key.tag == .merge
    | none => false
  match pairs.find? merges with
  | none => return none
  | some (_, source) =>
    setPairs n (pairs.eraseP merges)
    return some source

/-- Replaces the pairs of a mapping that merge by the pairs of what they merge. Those come before
the mapping's own, which thereby win; of several mappings merged at once the first wins. -/
def flatten : (fuel : Nat) → (n : Nat) → (merged : List (Nat × Nat)) → Edit Unit
  | 0, _, _ => throw (.token .exhausted)
  | fuel + 1, n, merged => do
    match ← takeMerge n with
    | none =>
      let own ← pairsOf n
      own.forM fun (k, _) => retagValueKey k
      setPairs n (merged ++ own)
    | some source =>
      let flattened (m : Nat) : Edit (List (Nat × Nat)) := do
        match ← contentOf m with
        | .mapping _ =>
          flatten fuel m []
          pairsOf m
        | _ => throw (.tag .mergeSource)
      let more ← match ← contentOf source with
        | .sequence items => do pure (← items.mapM flattened).reverse.flatten
        | _ => flattened source
      flatten fuel n (merged ++ more)

/-- The count of all pairs of all mappings. -/
def pairCount (nodes : Array Node) : Nat :=
  nodes.foldl (fun n node =>
    match node.content with
    | .mapping pairs => n + pairs.length
    | _ => n) 0

/-! ## Making values -/

/-- What is known while values are made. -/
structure Making where
  nodes : Array Node
  values : Values
  /-- The collections that are yet to be filled, first one first. -/
  queue : List Nat := []
  /-- A bound on the pairs that can merge. -/
  mergeLimit : Nat

/-- A step in making values. -/
abbrev Make := StateT Making (Except Error)

/-- Runs a step that may change the nodes. -/
def edit {α : Type} (step : Edit α) : Make α := do
  let m ← get
  let (a, nodes) ← step.run m.nodes
  set { m with nodes }
  return a

/-- Sets the value of a node. -/
def setValue (n : Nat) (v : Value) : Make Unit :=
  modify fun m => { m with values := m.values.setIfInBounds n (some v) }

/-- The text of a scalar. A mapping has the text of its value key. -/
def textOf (nodes : Array Node) : (fuel : Nat) → (n : Nat) → Except Error String
  | 0, _ => .error (.tag .scalarExpected)
  | fuel + 1, n =>
    match nodes[n]? with
    | some { content := .scalar s, .. } => .ok s
    | some { content := .mapping pairs, .. } =>
      let isValueKey (k : Nat) : Bool :=
        match nodes[k]? with
        | some key => key.tag == .value
        | none => false
      match pairs.find? fun (k, _) => isValueKey k with
      | some (_, v) => textOf nodes fuel v
      | none => .error (.tag .scalarExpected)
    | _ => .error (.tag .scalarExpected)

/-- The value of a scalar node. -/
def scalarValue (nodes : Array Node) (n : Nat) (t : Tag) : Except Error Data := do
  if let .other _ := t then throw (.tag .unknownTag)
  let s ← textOf nodes (nodes.size + 1) n
  if t = .timestamp then
    if let some { content := .mapping _, .. } := nodes[n]? then
      throw (.value .timestampOfCollection)
  t.meaning s

/-- Makes the value of a node, unless it has one. A collection is empty at first. -/
def make (n : Nat) : Make Unit := do
  let m ← get
  if let some (some _) := m.values[n]? then return
  let later (empty : Value) : Make Unit := do
    setValue n empty
    modify fun m => { m with queue := m.queue ++ [n] }
  match ← edit (tagOf n) with
  | .sequence => later (.sequence [])
  | .mapping => later (.record [])
  | .set => later (.set [])
  | .orderedMapping | .pairs => later (.pairs [])
  | .merge | .value => throw (.tag .unknownTag)
  | t => setValue n (.scalar (← scalarValue m.nodes n t))

/-- The key that a scalar node stands for. -/
def keyOf (nodes : Array Node) (n : Nat) (d : Data) : Key :=
  let isNameless :=
    match d, textOf nodes (nodes.size + 1) n with
    | .float x, .ok s => x.isNaN && !namesNoNumber s
    | _, _ => false
  { data := d, node := if isNameless then some n else none }

/-- Makes the value of a key. A collection is no key. -/
def makeKey (n : Nat) : Make Key := do
  make n
  let m ← get
  match m.values[n]? with
  | some (some (.scalar d)) =>
    if d.isKey then return keyOf m.nodes n d else throw (.tag .unusableKey)
  | _ => throw (.tag .unusableKey)

/-- Makes the entries of a mapping. -/
def makeEntries (n : Nat) : Make (List (Key × Nat)) := do
  match ← edit (contentOf n) with
  | .mapping _ =>
    edit (flatten (2 * (← get).mergeLimit + 2) n [])
    (← edit (pairsOf n)).mapM fun (k, v) => do
      let key ← makeKey k
      make v
      return (key, v)
  | _ => throw (.tag .mappingExpected)

/-- Makes the only pair of an item of an ordered mapping. -/
def makePair (n : Nat) : Make (Nat × Nat) := do
  match ← edit (contentOf n) with
  | .mapping [(k, v)] =>
    make k
    make v
    return (k, v)
  | .mapping _ => throw (.tag .singlePairExpected)
  | _ => throw (.tag .mappingExpected)

/-- Fills a collection. -/
def fill (n : Nat) : Make Unit := do
  let items : Make (List Nat) := do
    match ← edit (contentOf n) with
    | .sequence items => return items
    | _ => throw (.tag .sequenceExpected)
  match ← edit (tagOf n) with
  | .sequence =>
    let items ← items
    items.forM make
    setValue n (.sequence items)
  | .mapping => setValue n (.record (← makeEntries n))
  | .set => setValue n (.set ((← makeEntries n).map (·.1)))
  | .orderedMapping | .pairs => setValue n (.pairs (← (← items).mapM makePair))
  | _ => pure ()

/-- Fills the collections one after the other. Each node is in the queue once at most. -/
def fillAll : (fuel : Nat) → Make Unit
  | 0 => pure ()
  | fuel + 1 => do
    match (← get).queue with
    | [] => pure ()
    | n :: rest =>
      modify fun m => { m with queue := rest }
      fill n
      fillAll fuel

/-- The values of a graph. -/
def Graph.values (g : Graph) : Except Error Values := do
  let start : Making :=
    { nodes := g.nodes, values := Array.replicate g.nodes.size none
      mergeLimit := pairCount g.nodes }
  let (_, m) ← (do make g.root; fillAll (g.nodes.size + 1) : Make Unit).run start
  return m.values

/-- The value with a number as data, to a given depth: collections below it are empty. -/
def Values.toData (values : Values) : (depth : Nat) → (n : Nat) → Data
  | 0, n =>
    match values[n]? with
    | some (some v) =>
      match v with
      | .scalar d => d
      | .sequence _ | .pairs _ => .list []
      | .set _ => .set []
      | .record _ => .record []
    | _ => .null
  | depth + 1, n =>
    match values[n]? with
    | some (some v) =>
      match v with
      | .scalar d => d
      | .sequence items => .list (items.map (toData values depth))
      | .pairs items =>
        .list (items.map fun (k, v) => .list [toData values depth k, toData values depth v])
      | .set items => .set ((entriesOf (items.map fun k => (k, .null))).map (·.1))
      | .record entries =>
        .record (entriesOf (entries.map fun (k, v) => (k, toData values depth v)))
    | _ => .null

/-! ## Loading -/

/-- The data of a document, to a given depth. An empty text stands for nothing. -/
def load (depth : Nat) (s : Stream) : Except Error Data := do
  match ← Graph.ofTokens (Token.scan s) with
  | none => return .null
  | some g => return (← g.values).toData depth g.root

end StartupGate.Yaml
