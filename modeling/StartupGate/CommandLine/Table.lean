import StartupGate.Text.Lines
import StartupGate.Text.Wrap
/-!
# Tables

A table has a title, a line of headings and rows of cells, all drawn with box characters. A column
is as wide as the widest line of its cells with a blank on either side, and its cells start at the
left. A cell may take several lines; then so does its row. The title stands in the middle of the
table, the odd blank on its right.
-/

namespace StartupGate

/-- A table of text. -/
structure Table where
  title : String
  headings : List String
  rows : List (List String)
deriving Repr, DecidableEq

namespace Table

/-- A text repeated. -/
def repeated (n : Nat) (s : String) : String := String.join (List.replicate n s)

/-- The greatest of some numbers, zero for none. -/
def greatest (ns : List Nat) : Nat := ns.foldl max 0

/-- The width that a cell asks for. -/
def cellWidth (cell : String) : Nat := greatest ((Text.splitLines cell).map Text.columns)

/-- The lines of a cell in a column of a width. -/
def cellLines (width : Nat) (cell : String) : List String :=
  ((Text.splitFeeds cell.toList).flatMap (Text.wrap width)).map String.ofList

/-- The widths of the columns. -/
def widths (t : Table) : List Nat :=
  t.rows.foldl (fun ws row => List.zipWith max ws (row.map cellWidth))
    (t.headings.map cellWidth)

/-- A rule between two lines: the characters at its left end, along it, between columns, and at its
right end. -/
def rule (ws : List Nat) (left along between right : String) : String :=
  left ++ between.intercalate (ws.map fun w => repeated (w + 2) along) ++ right

/-- The lines of a row, with a bar before, between and after its cells. -/
def row (ws : List Nat) (bar : String) (cells : List String) : List String :=
  let columns := List.zipWith (fun w c => (w, cellLines w c)) ws cells
  (List.range (greatest (columns.map fun (_, lines) => lines.length))).map fun i =>
    bar ++ bar.intercalate (columns.map fun (w, lines) =>
      " " ++ lines.getD i (repeated w " ") ++ " ") ++ bar

/-- The title in the middle of a width. -/
def centred (width : Nat) (s : String) : String :=
  let free := width - Text.columns s
  repeated (free / 2) " " ++ s ++ repeated (free - free / 2) " "

/-- The text of a table, a line feed after every line. -/
def render (t : Table) : String :=
  let ws := t.widths
  let width := ws.foldl (fun n w => n + w + 3) 1
  let lines := [centred width t.title, rule ws "┏" "━" "┳" "┓"] ++ row ws "┃" t.headings
    ++ [rule ws "┡" "━" "╇" "┩"] ++ t.rows.flatMap (row ws "│") ++ [rule ws "└" "─" "┴" "┘"]
  String.join (lines.map (· ++ "\n"))

end Table

end StartupGate
