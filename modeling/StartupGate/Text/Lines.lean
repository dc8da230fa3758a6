/-!
# Lines of a text

`splitLines` splits a text at every character that ends a line, of which there are ten; a carriage
return and the line feed after it end one line together. What stands behind the last line end is a
line only where it is not empty.
-/

namespace StartupGate.Text

/-- A character that ends a line. -/
def endsLine (c : Char) : Bool :=
  c == '\n' || c == '\r' || c == '\x0b' || c == '\x0c' || c == '\x1c' || c == '\x1d' || c == '\x1e'
    || c == '\x85' || c == '\u2028' || c == '\u2029'

/-- The lines of characters, where `line` is what precedes them on their line, last one first. -/
def linesAfter : (line : List Char) → List Char → List (List Char)
  | [], [] => []
  | line, [] => [line.reverse]
  | line, '\r' :: '\n' :: r => line.reverse :: linesAfter [] r
  | line, c :: r => if endsLine c then line.reverse :: linesAfter [] r else linesAfter (c :: line) r

/-- The lines of a text. -/
def splitLines (s : String) : List String := (linesAfter [] s.toList).map String.ofList

/-- The parts of a text between line feeds. -/
def splitFeeds : List Char → List (List Char)
  | [] => [[]]
  | c :: r =>
    if c = '\n' then [] :: splitFeeds r
    else match splitFeeds r with
      | [] => [[c]]
      | line :: lines => (c :: line) :: lines

end StartupGate.Text
