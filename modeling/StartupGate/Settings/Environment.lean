import StartupGate.Named
import StartupGate.Text.LetterCase
/-!
# The environment

The environment holds variables, each a name and a text. Variables keep the order in which they were
first set. A setting is looked up by its name in small letters: of several variables that differ in
case only, the last one counts.
-/

namespace StartupGate

/-- The variables of the environment, in order. -/
structure Environment where
  entries : Named String := []
deriving Repr, DecidableEq

/-- The last value under a name, whatever the case of its letters. -/
def lastIgnoringCase {α : Type} (entries : Named α) (name : String) : Option α :=
  entries.foldl (fun found (k, v) => if Text.lowercase k = name then some v else found) none

namespace Environment

/-- Sets a variable. -/
def set (e : Environment) (name value : String) : Environment :=
  ⟨Named.assign e.entries name value⟩

/-- Removes a variable. -/
def unset (e : Environment) (name : String) : Environment :=
  ⟨e.entries.filter fun (k, _) => k ≠ name⟩

/-- The value of a variable. -/
def get? (e : Environment) (name : String) : Option String := e.entries.lookup name

end Environment

end StartupGate
