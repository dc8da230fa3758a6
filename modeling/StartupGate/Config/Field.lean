import StartupGate.Config.IntegerText
import StartupGate.Data.Basic
import StartupGate.Text.LetterCase
import StartupGate.Text.Utf8
/-!
# Fields of a configuration

The rule of each kind of field: `text`, `secret`, `integer`, `atLeast` and `registryKind`. A rule
takes any data and gives the value of the field or the one cause why there is none.

Integers are read leniently. A boolean counts as one or zero, a double stands for an integer when it
has no fraction, and a text is read as `IntegerText.read` says.
-/

namespace StartupGate.Config.Field

/-! ## Texts -/

/-- A text, or bytes that are one. -/
def text : Data → Except Cause String
  | .text s => .ok s
  | .bytes b =>
    match Text.decodeUtf8? b with
    | some s => .ok s
    | none => .error .notUnicode
  | _ => .error .notText

/-- A text that is kept secret; it fails in one way only. -/
def secret (d : Data) : Except Cause String :=
  match text d with
  | .ok s => .ok s
  | .error _ => .error .notText

/-! ## Integers -/

/-- Reads a double as an integer of 64 bits, of which the least one is left out. -/
def integerOfFloat (x : Float) : Except Cause Int :=
  if !x.isFinite then .error .notFinite
  else
    match Number.Binary64.toInt? x with
    | none => .error .fraction
    | some n => if Number.fitsWord n && Number.fitsWord (-n) then .ok n else .error .tooLarge

/-- Reads any data as an integer. -/
def integer : Data → Except Cause Int
  | .bool b => .ok (if b then 1 else 0)
  | .int n => .ok n
  | .float x => integerOfFloat x
  | .text s => if Text.isWritable s then IntegerText.read s else .error .notUnicode
  | .bytes b =>
    match Text.decodeUtf8? b with
    | some s => IntegerText.read s
    | none => .error .unreadableInteger
  | _ => .error .notInteger

/-- An integer that is not below `least`. -/
def atLeast (least : Int) (d : Data) : Except Cause Int := do
  let n ← integer d
  if least ≤ n then return n else throw (.below least)

/-- The integers of a field with a least value are not below it. -/
theorem le_of_atLeast {least n : Int} {d : Data} (h : atLeast least d = .ok n) : least ≤ n := by
  unfold atLeast at h
  cases hd : integer d with
  | error c => rw [hd] at h; simp [bind, Except.bind] at h
  | ok m =>
    rw [hd] at h
    simp only [bind, Except.bind] at h
    split at h
    · simp only [pure, Except.pure, Except.ok.injEq] at h
      omega
    · simp [throw, throwThe, MonadExceptOf.throw] at h

/-! ## Other fields -/

/-- The kind of a registry, in lower case. One kind is known. -/
def registryKind (d : Data) : Except Cause String := do
  let s ← text d
  let kind := Text.lowercase s
  if kind = "consul" then return kind else throw (.unsupportedRegistry s)

/-- A field that may hold nothing. -/
def optional {α : Type} (rule : Data → Except Cause α) : Data → Except Cause (Option α)
  | .null => .ok none
  | d => (rule d).map some

end StartupGate.Config.Field
