import StartupGate.Data.Moment
import StartupGate.Number.Layout
/-!
# Data

`Data` is what a document stands for once it is read, whatever format it was written in: scalars,
lists, sets, and records that map keys to values. A record keeps its entries in the order in which
the keys first appeared; `Entries.insert` replaces the value of a key that is there already and
leaves the key in its place. `Entries.insertBy` does so for any notion of the same key.

The module also gives the views of data that the rest of the library needs: whether it counts
as true, the name of its type, and its text.
-/

namespace StartupGate

/-- What a document stands for. -/
inductive Data where
  | null
  | bool (value : Bool)
  | int (value : Int)
  | float (value : Float)
  | text (value : String)
  | bytes (value : List UInt8)
  | moment (value : Moment)
  /-- A time of no particular day. -/
  | clock (hour minute second micro : Nat)
  | list (items : List Data)
  | set (items : List Data)
  | record (entries : List (Data × Data))
deriving Inhabited

/-- The entries of a record, in order. -/
abbrev Entries := List (Data × Data)

namespace Data

/-! ## Truth and type -/

/-- Whether data counts as true: zero, the empty text, the empty collection and nothing do not. -/
def isTruthy : Data → Bool
  | .null => false
  | .bool b => b
  | .int n => n != 0
  | .float x => !(x == 0)
  | .text s => s != ""
  | .bytes b => !b.isEmpty
  | .moment _ => true
  | .clock _ _ _ _ => true
  | .list items => !items.isEmpty
  | .set items => !items.isEmpty
  | .record entries => !entries.isEmpty

/-- The name of the type of data, as it stands in messages. -/
def typeName : Data → String
  | .null => "NoneType"
  | .bool _ => "bool"
  | .int _ => "int"
  | .float _ => "float"
  | .text _ => "str"
  | .bytes _ => "bytes"
  | .moment m => if m.time.isSome then "datetime.datetime" else "datetime.date"
  | .clock _ _ _ _ => "datetime.time"
  | .list _ => "list"
  | .set _ => "set"
  | .record _ => "dict"

/-- Data, or nothing for data that counts as false. -/
def orEmptyRecord (d : Data) : Data := if d.isTruthy then d else .record []

/-! ## Keys -/

/-- The number that a boolean, an integer or a double stands for. -/
def asNumber? : Data → Option (Int ⊕ Float)
  | .bool b => some (.inl (if b then 1 else 0))
  | .int n => some (.inl n)
  | .float x => some (.inr x)
  | _ => none

/-- Whether two numbers are equal. What is no number equals itself here: one value stands for it. -/
def sameNumber : Int ⊕ Float → Int ⊕ Float → Bool
  | .inl a, .inl b => a == b
  | .inl a, .inr y => Number.Binary64.compareInt a y == some .eq
  | .inr x, .inl b => Number.Binary64.compareInt b x == some .eq
  | .inr x, .inr y => x == y || (x.isNaN && y.isNaN)

/-- Whether data may be the key of a record: collections may not. -/
def isKey : Data → Bool
  | .list _ | .set _ | .record _ => false
  | _ => true

/-- Whether two keys are the same. Numbers are compared by value, whatever their type. -/
def sameKey : Data → Data → Bool
  | .null, .null => true
  | .text a, .text b => a == b
  | .bytes a, .bytes b => a == b
  | .moment a, .moment b => a.same b
  | a, b =>
    match a.asNumber?, b.asNumber? with
    | some x, some y => sameNumber x y
    | _, _ => false

end Data

namespace Entries

/-- Sets the value of a key, where `same` compares keys. A key that is there keeps its place and its
first spelling. -/
def insertBy {κ : Type} (same : κ → κ → Bool) (entries : List (κ × Data)) (key : κ)
    (value : Data) : List (κ × Data) :=
  match entries with
  | [] => [(key, value)]
  | (k, v) :: rest =>
    if same k key then (k, value) :: rest else (k, v) :: insertBy same rest key value

/-- Sets the value of a key. -/
def insert (entries : Entries) (key value : Data) : Entries :=
  insertBy Data.sameKey entries key value

/-- The entries of a sequence of settings, the last one of a key being valid. -/
def ofPairs (pairs : List (Data × Data)) : Entries :=
  pairs.foldl (fun entries p => insert entries p.1 p.2) []

/-- The value of a text key. -/
def field? (entries : Entries) (name : String) : Option Data :=
  match entries with
  | [] => none
  | (k, v) :: rest =>
    match k with
    | .text s => if s = name then some v else field? rest name
    | _ => field? rest name

theorem field?_cons_self (name : String) (value : Data) (rest : Entries) :
    field? ((.text name, value) :: rest) name = some value :=
  if_pos rfl

theorem field?_cons_of_ne {key : Data} {name : String} (h : key ≠ .text name) (value : Data)
    (rest : Entries) : field? ((key, value) :: rest) name = field? rest name := by
  cases key with
  | text s => exact if_neg fun hs => h (congrArg Data.text hs)
  | _ => rfl

end Entries

namespace Data

/-! ## Text -/

/-- Bytes between quotes, after a letter `b`; whatever is not printable ASCII is in hexadecimal. -/
def showBytes (b : List UInt8) : String :=
  let cs := b.map fun x => Char.ofNat x.toNat
  let q := Text.Quoted.delimiter cs
  let one (c : Char) : List Char :=
    if c.toNat < 0x7f then Text.Quoted.encodeChar q c
    else '\\' :: 'x' :: Text.Quoted.hexDigits 2 c.toNat
  String.ofList ('b' :: q :: cs.flatMap one ++ [q])

mutual

/-- The text of data: numbers as they are, texts between quotes, lists between brackets. -/
def display : Data → String
  | .null => "None"
  | .bool b => if b then "True" else "False"
  | .int n => toString n
  | .float x => Number.showFloat x
  | .text s => Text.quote s
  | .bytes b => showBytes b
  | .moment m => m.display
  | .clock h mi s micro => Moment.displayClock h mi s micro
  | .list items => "[" ++ ", ".intercalate (displayItems items) ++ "]"
  | .set items =>
    if items.isEmpty then "set()" else "\x7b" ++ ", ".intercalate (displayItems items) ++ "\x7d"
  | .record entries => "\x7b" ++ ", ".intercalate (displayEntries entries) ++ "\x7d"

/-- The texts of the items of a list. -/
def displayItems : List Data → List String
  | [] => []
  | d :: rest => d.display :: displayItems rest

/-- The texts of the entries of a record. -/
def displayEntries : List (Data × Data) → List String
  | [] => []
  | (k, v) :: rest => (k.display ++ ": " ++ v.display) :: displayEntries rest

end

/-- Data as a message shows it: a text and a moment as they are, anything else as `display` has
it. -/
def plain : Data → String
  | .text s => s
  | .moment m => m.plain
  | .clock h mi s micro => Moment.clockText h mi s micro
  | d => d.display

end Data

end StartupGate
