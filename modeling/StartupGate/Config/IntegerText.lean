import StartupGate.Config.Issue
import StartupGate.Number.Literal
/-!
# Integers in texts

A field that holds an integer may hold it as a text. `IntegerText.read` first takes the text as it
stands, as a plain integer: a minus sign or none, and digits without a leading zero. Failing that,
the text is tidied once and has to be a plain integer then. Tidying drops white space at both ends,
a sign, leading zeros, a point with nothing but zeros after it, and single underscores between
digits; a minus sign is put back in front.

No more digits are read than `Number.digitLimit`. A text that begins with too many is refused as too
large; one that has too many only once it is tidied counts as unreadable.
-/

namespace StartupGate.Config.IntegerText

/-! ## Plain integers -/

/-- Splits off a minus sign. -/
def splitMinus : List Char → Bool × List Char
  | '-' :: r => (true, r)
  | cs => (false, cs)

/-- Whether digits have no leading zero: they are one zero, or begin with another digit. -/
def isPlainDigits : List Char → Bool
  | [] => false
  | ['0'] => true
  | c :: r => c != '0' && (c :: r).all Text.isAsciiDigit

/-- Whether a text begins with a number of more digits than are read. -/
def isOversized (cs : List Char) : Bool :=
  let digits := (splitMinus cs).2.takeWhile Text.isAsciiDigit
  digits.head? != some '0' && Number.digitLimit < digits.length

/-- Reads a plain integer. -/
def plain? (cs : List Char) : Option Int :=
  let (negative, digits) := splitMinus cs
  if isPlainDigits digits && digits.length ≤ Number.digitLimit then
    let n : Int := Number.ofAsciiDigits digits
    some (if negative then -n else n)
  else none

/-! ## Tidying -/

/-- What is left of digits after a leading zero, which is `last` so far. Zeros and underscores are
passed over; before a point, and at the end, the last of them is kept. -/
def afterZeros (last : Char) : List Char → List Char
  | [] => [last]
  | '.' :: r => last :: '.' :: r
  | c :: r => if c == '0' || c == '_' then afterZeros c r else c :: r

/-- Drops leading zeros; nothing for a text that does not begin with a digit. -/
def dropLeadingZeros : List Char → Option (List Char)
  | [] => none
  | '0' :: r => some (afterZeros '0' r)
  | c :: r => if Text.isAsciiDigit c then some (c :: r) else none

/-- Drops a point with nothing but zeros after it, at least one. -/
def dropZeroPlaces (cs : List Char) : List Char :=
  let whole := cs.takeWhile (· != '.')
  match cs.drop whole.length with
  | _ :: places => if !places.isEmpty && places.all (· == '0') then whole else cs
  | [] => cs

/-- Drops underscores; none may stand at an end or next to another. The first argument says whether
an underscore may come. -/
def joinGroups : (mayPart : Bool) → List Char → Option (List Char)
  | _, [] => some []
  | mayPart, '_' :: r => if mayPart && !r.isEmpty then joinGroups false r else none
  | _, c :: r => (joinGroups true r).map (c :: ·)

/-- Tidies a text. -/
def tidy? (cs : List Char) : Option (List Char) :=
  let (negative, unsigned) := Number.splitSign (Text.trim Text.isWhiteSpace cs)
  match (dropLeadingZeros unsigned).bind fun ds => joinGroups false (dropZeroPlaces ds) with
  | some ds => some (if negative then '-' :: ds else ds)
  | none => none

/-- Reads a text as an integer. -/
def read (s : String) : Except Cause Int :=
  let cs := s.toList
  match plain? cs with
  | some n => .ok n
  | none =>
    if isOversized cs then .error .tooLarge
    else match (tidy? cs).bind plain? with
      | some n => .ok n
      | none => .error .unreadableInteger

end StartupGate.Config.IntegerText
