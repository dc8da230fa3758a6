import StartupGate.Data.Basic
import StartupGate.Log.Severity
import StartupGate.Text.Blank
import StartupGate.Text.LetterCase
/-!
# Log levels

A level is an integer; messages below the level of a log are not written. A level may be given by
its name, in any case and with blanks around it. A name that is not known stands for the level of
information. Truth values are levels too, one and zero.
-/

namespace StartupGate.Log

/-- A level of a log. -/
inductive Level where
  | number (n : Int)
  | truth (b : Bool)
deriving Repr, DecidableEq

namespace Level

/-- The place of a level on the scale. -/
def value : Level → Int
  | .number n => n
  | .truth b => if b then 1 else 0

/-- The level of information. -/
def info : Int := Severity.info.level

/-- The level of warnings. -/
def warning : Int := Severity.warning.level

/-- The levels that have names. -/
def names : List (String × Int) :=
  [("CRITICAL", 50), ("FATAL", 50), ("ERROR", 40), ("WARN", 30), ("WARNING", 30), ("INFO", 20),
   ("DEBUG", 10), ("NOTSET", 0)]

/-- The level of a name. -/
def ofName (name : String) : Int :=
  (names.lookup (Text.upperName (Text.stripBlank name))).getD info

/-- What a level is given by: a name becomes its level, anything else stays as it is. -/
def resolve : Data → Data
  | .text name => .int (ofName name)
  | d => d

end Level

/-- Data that is no level. -/
structure LevelError where
  given : Data

/-- The wording of a level error. -/
def LevelError.message (e : LevelError) : String :=
  "Level not an integer or a valid string: " ++ e.given.display

/-- The level that data stands for. -/
def Level.of? (d : Data) : Except LevelError Level :=
  match resolve d with
  | .int n => .ok (.number n)
  | .bool b => .ok (.truth b)
  | d => .error ⟨d⟩

end StartupGate.Log
