import StartupGate.Number.Layout
import StartupGate.Number.Written
/-!
# Seconds

Times and durations are whole numbers of any size or doubles. Two whole numbers are added and
subtracted exactly; as soon as one operand is a double the other becomes the nearest double, which
fails when it is out of range. Comparison is exact for every pair of operands, and false whenever
one of them is no number.
-/

namespace StartupGate

/-- A time or a duration. -/
inductive Seconds where
  | whole (n : Int)
  | real (x : Float)
deriving Inhabited

namespace Seconds

/-- The double nearest to a time. -/
def toFloat : Seconds → Except Fault Float
  | .whole n =>
    match Number.Binary64.ofInt? n with
    | some x => .ok x
    | none => .error .integerTooLarge
  | .real x => .ok x

/-- Applies an operation on whole numbers to two whole numbers, and one on doubles to all others. -/
def combine (onWhole : Int → Int → Int) (onReal : Float → Float → Float) :
    Seconds → Seconds → Except Fault Seconds
  | .whole a, .whole b => .ok (.whole (onWhole a b))
  | a, b => do
    let x ← a.toFloat
    let y ← b.toFloat
    return .real (onReal x y)

/-- The sum of two times. -/
def add (a b : Seconds) : Except Fault Seconds := combine (· + ·) (· + ·) a b

/-- The difference of two times. -/
def sub (a b : Seconds) : Except Fault Seconds := combine (· - ·) (· - ·) a b

/-- Whether a time is before another. -/
def lt : Seconds → Seconds → Bool
  | .whole a, .whole b => a < b
  | .whole a, .real y => Number.Binary64.compareInt a y == some .lt
  | .real x, .whole b => Number.Binary64.compareInt b x == some .gt
  | .real x, .real y => x < y

/-- Whether a time is not after another. -/
def le : Seconds → Seconds → Bool
  | .whole a, .whole b => a ≤ b
  | .whole a, .real y =>
    match Number.Binary64.compareInt a y with
    | some o => o != .gt
    | none => false
  | .real x, .whole b =>
    match Number.Binary64.compareInt b x with
    | some o => o != .lt
    | none => false
  | .real x, .real y => x ≤ y

/-- Whether two times are equal. -/
def eq (a b : Seconds) : Bool := a.le b && b.le a

/-- A time as it is shown. -/
def display : Seconds → Except Fault String
  | .whole n => Number.write n
  | .real x => .ok (Number.showFloat x)

@[simp] theorem add_whole (a b : Int) : add (.whole a) (.whole b) = .ok (.whole (a + b)) := rfl

@[simp] theorem lt_whole (a b : Int) : lt (.whole a) (.whole b) = decide (a < b) := rfl

@[simp] theorem le_whole (a b : Int) : le (.whole a) (.whole b) = decide (a ≤ b) := rfl

end Seconds

end StartupGate
