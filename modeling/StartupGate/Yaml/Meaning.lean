import StartupGate.Data.Basic
import StartupGate.Text.Base64
import StartupGate.Text.LetterCase
import StartupGate.Yaml.Tag
/-!
# What a scalar stands for

`Tag.meaning` reads the text of a scalar as its tag asks. A tag that was given explicitly may meet
any text, so every form can fail here.

Integers and decimal numbers may hold underscores anywhere, and colons between digits in sixties, as
in `190:20:30`.
-/

namespace StartupGate.Yaml

/-- Splits a number into its sign and the rest; underscores are dropped. `true` stands for minus. -/
def splitNumber (s : String) : Except Error (Bool × List Char) :=
  match s.toList.filter (· != '_') with
  | [] => .error (.value .emptyNumber)
  | cs => .ok (Number.splitSign cs)

/-- The parts of a text between colons. -/
def splitColons : List Char → List (List Char)
  | [] => [[]]
  | c :: r =>
    if c = ':' then [] :: splitColons r
    else match splitColons r with
      | [] => [[c]]
      | part :: parts => (c :: part) :: parts

/-- Reads an integer of a base. -/
def integerOf (base : Nat) (cs : List Char) : Except Error Int :=
  (Number.readInteger base (String.ofList cs)).mapError fun e => .value (.literal e)

/-- Reads a double. -/
def doubleOf (cs : List Char) : Except Error Float :=
  (Number.readFloat (String.ofList cs)).mapError fun e => .value (.literal e)

/-- Reads the text of an integer. -/
def readInt (s : String) : Except Error Int := do
  let (negative, cs) ← splitNumber s
  let n ← match cs with
    | [] => throw (.value .emptyNumber)
    | ['0'] => pure 0
    | '0' :: 'b' :: r => integerOf 2 r
    | '0' :: 'x' :: r => integerOf 16 r
    | '0' :: _ => integerOf 8 cs
    | _ =>
      if cs.contains ':' then do
        let parts ← (splitColons cs).mapM (integerOf 10)
        pure (parts.foldl (fun n d => n * 60 + d) 0)
      else integerOf 10 cs
  return if negative then -n else n

/-- The sum of doubles in sixties, the last one first, each times its power of sixty. Fails where
such a power is no double. -/
def sumSixties : (sum : Float) → (weight : Int) → (reversed : List Float) → Except Error Float
  | sum, _, [] => .ok sum
  | sum, weight, d :: rest =>
    match Number.Binary64.ofInt? weight with
    | some w => sumSixties (sum + d * w) (weight * 60) rest
    | none => .error (.value .placesTooMany)

/-- The sign and the small letters of a decimal number. -/
def splitDouble (s : String) : Except Error (Bool × List Char) := do
  splitNumber (Text.lowercase (String.ofList (s.toList.filter (· != '_'))))

/-- Whether a decimal number is given by the name for no number. -/
def namesNoNumber (s : String) : Bool :=
  match splitDouble s with
  | .ok (_, cs) => cs == ['.', 'n', 'a', 'n']
  | .error _ => false

/-- Reads the text of a decimal number. -/
def readDouble (s : String) : Except Error Float := do
  let (negative, cs) ← splitDouble s
  if namesNoNumber s then return Number.Binary64.nan
  let x ← if cs = ['.', 'i', 'n', 'f'] then pure (Number.Binary64.infinity false)
    else if cs.contains ':' then do
      let parts ← (splitColons cs).mapM doubleOf
      sumSixties 0 1 parts.reverse
    else doubleOf cs
  return if negative then -x else x

/-- Reads a word for true or false, in any case. -/
def readBool (s : String) : Except Error Bool :=
  let word := Text.lowercase s
  if ["yes", "true", "on"].contains word then .ok true
  else if ["no", "false", "off"].contains word then .ok false
  else .error (.value (.noBoolean word))

/-- What a scalar stands for, if its tag is one for scalars. -/
def Tag.meaning (t : Tag) (s : String) : Except Error Data :=
  match t with
  | .null => .ok .null
  | .text => .ok (.text s)
  | .bool => (readBool s).map .bool
  | .int => (readInt s).map .int
  | .float => (readDouble s).map .float
  | .binary =>
    if s.toList.all (·.toNat < 128) then
      match Text.Base64.decode? s.toList with
      | some b => .ok (.bytes b)
      | none => .error (.tag .binaryData)
    else .error (.tag .binaryData)
  | .timestamp =>
    match Timestamp.read? s with
    | none => .error (.value .noTimestamp)
    | some t => (t.toMoment.mapError fun e => .value (.moment e)).map .moment
  | _ => .error (.tag .unknownTag)

end StartupGate.Yaml
