import StartupGate.Text.Blank
import StartupGate.Text.Width
/-!
# Wrapped text

`wrap` breaks a line into lines that fit a width. A line is broken between words only; a word that
is too wide even alone is cut off and ends in an ellipsis. The blanks after a word belong to it, and
those before the first word to that word.
-/

namespace StartupGate.Text

/-! ## Breaking -/

/-- The rest of the first word of a text, with the blanks after it, and what follows. -/
def splitWord (cs : List Char) : List Char × List Char :=
  let body := cs.takeWhile fun c => !isBlank c
  let rest := cs.drop body.length
  let blanks := rest.takeWhile isBlank
  (body ++ blanks, rest.drop blanks.length)

/-- The words of a text that does not begin with a blank. Each takes at least one character. -/
def wordsOf : (fuel : Nat) → List Char → List (List Char)
  | 0, _ => []
  | _, [] => []
  | fuel + 1, cs =>
    let (word, rest) := splitWord cs
    word :: wordsOf fuel rest

/-- The words of a text; none if it holds blanks only. -/
def words (cs : List Char) : List (List Char) :=
  let blanks := cs.takeWhile isBlank
  match wordsOf cs.length (cs.drop blanks.length) with
  | [] => []
  | first :: rest => (blanks ++ first) :: rest

/-- Puts words on lines; `line` is the line so far, empty before the first word, and `used` its
width. -/
def fill (width : Nat) : (line : List Char) → (used : Nat) → List (List Char) → List (List Char)
  | line, _, [] => [line]
  | line, used, word :: rest =>
    if used + columnsOf (trimEnd isBlank word) ≤ width || line.isEmpty then
      fill width (line ++ word) (used + columnsOf word) rest
    else line :: fill width word (columnsOf word) rest

/-! ## Fitting -/

/-- Drops blanks at the end of a line, no more than it has characters beyond a width. -/
def dropEndBlanks (width : Nat) (line : List Char) : List Char :=
  let blanks := line.length - (trimEnd isBlank line).length
  line.take (line.length - min blanks (line.length - width))

/-- The characters at the start of a line that fit `free` columns. Half a wide character becomes a
blank. -/
def takeColumns : (free : Nat) → List Char → List Char
  | _, [] => []
  | free, c :: r =>
    let n := charColumns c
    if n ≤ free then c :: takeColumns (free - n) r
    else if free = 0 then [] else [' ']

/-- A line of exactly the given width: with blanks at its end, or with an ellipsis where it is too
wide. -/
def fit (width : Nat) (line : List Char) : List Char :=
  let n := columnsOf line
  if n ≤ width then line ++ List.replicate (width - n) ' '
  else takeColumns (width - 1) line ++ ['…']

/-- The distance between the places of a tab. -/
def tabSize : Nat := 8

/-- Replaces tabs by blanks up to the next place of a tab; `used` is the width of what precedes,
and `part` what stands since the last tab, last one first. -/
def expandTabs : (used : Nat) → (part : List Char) → List Char → List Char
  | _, part, [] => part.reverse
  | used, part, c :: r =>
    if c = '\t' then
      let used := used + columnsOf (part.reverse ++ [' '])
      let more := (tabSize - used % tabSize) % tabSize
      part.reverse ++ ' ' :: List.replicate more ' ' ++ expandTabs (used + more) [] r
    else expandTabs used (c :: part) r

/-- Breaks a line into lines of a width. -/
def wrap (width : Nat) (line : List Char) : List (List Char) :=
  let line := expandTabs 0 [] line
  let lines :=
    match words line with
    | [] => [line]
    | ws => fill width [] 0 ws
  lines.map fun l => fit width (dropEndBlanks width l)

end StartupGate.Text
