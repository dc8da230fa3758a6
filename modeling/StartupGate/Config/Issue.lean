/-!
# Issues of a configuration

A refused configuration comes with a list of issues. Each names the place in the document and the
cause; a cause has a code and a wording.
-/

namespace StartupGate.Config

/-- The sections that are judged field by field. -/
inductive Section where
  | config
  | client
  | service
  | registry
  | startup
  | settings
deriving Repr, DecidableEq

/-- The name of a section in messages. -/
def Section.title : Section → String
  | .config => "GateConfig"
  | .client => "ClientEndpointConfig"
  | .service => "ServiceInfo"
  | .registry => "RegistryInfo"
  | .startup => "StartupInfo"
  | .settings => "Settings"

/-- Why a value is refused. -/
inductive Cause where
  /-- Not a text. -/
  | notText
  /-- Bytes, or a text, that cannot be read or written as UTF-8. -/
  | notUnicode
  /-- Of a type that is no integer. -/
  | notInteger
  /-- A text that is no integer. -/
  | unreadableInteger
  /-- A number with a fraction. -/
  | fraction
  /-- Infinity, or no number. -/
  | notFinite
  /-- Too large to be read. -/
  | tooLarge
  /-- Below the least value. -/
  | below (least : Int)
  /-- Not a section. -/
  | notSection (expected : Section)
  /-- Not a map. -/
  | notRecord
  /-- A kind of registry that is not known. -/
  | unsupportedRegistry (kind : String)
deriving Repr, DecidableEq

/-- The code of a cause. -/
def Cause.code : Cause → String
  | .notText => "string_type"
  | .notUnicode => "string_unicode"
  | .notInteger => "int_type"
  | .unreadableInteger => "int_parsing"
  | .fraction => "int_from_float"
  | .notFinite => "finite_number"
  | .tooLarge => "int_parsing_size"
  | .below _ => "greater_than_equal"
  | .notSection _ => "model_type"
  | .notRecord => "dict_type"
  | .unsupportedRegistry _ => "value_error"

/-- The wording of a cause. -/
def Cause.message : Cause → String
  | .notText => "Input should be a valid string"
  | .notUnicode => "Input should be a valid string, unable to parse raw data as a unicode string"
  | .notInteger => "Input should be a valid integer"
  | .unreadableInteger => "Input should be a valid integer, unable to parse string as an integer"
  | .fraction => "Input should be a valid integer, got a number with a fractional part"
  | .notFinite => "Input should be a finite number"
  | .tooLarge => "Unable to parse input string as an integer, exceeded maximum size"
  | .below least => "Input should be greater than or equal to " ++ toString least
  | .notSection s => "Input should be a valid dictionary or instance of " ++ s.title
  | .notRecord => "Input should be a valid dictionary"
  | .unsupportedRegistry kind => "Value error, Unsupported registry type: " ++ kind

/-- One step on the way to a place: the name of a field, or a key that is a number. -/
inductive Place where
  | name (s : String)
  | number (n : Int)
deriving Repr, DecidableEq

/-- A refused value. -/
structure Issue where
  path : List Place
  cause : Cause
deriving Repr, DecidableEq

/-- The issue seen from one level further up. -/
def Issue.within (p : Place) (i : Issue) : Issue := { i with path := p :: i.path }

/-- A value, or the issues that stand against it. -/
abbrev Checked (α : Type) := Except (List Issue) α

namespace Checked

/-- A single cause at the place itself. -/
def ofCause {α : Type} (r : Except Cause α) : Checked α :=
  match r with
  | .ok a => .ok a
  | .error c => .error [⟨[], c⟩]

/-- The result seen from one level further up. -/
def within {α : Type} (p : Place) (r : Checked α) : Checked α :=
  match r with
  | .ok a => .ok a
  | .error issues => .error (issues.map (Issue.within p))

/-- Two results side by side; the issues of both are kept, the first ones first. -/
def both {α β : Type} (x : Checked α) (y : Checked β) : Checked (α × β) :=
  match x, y with
  | .ok a, .ok b => .ok (a, b)
  | .ok _, .error j => .error j
  | .error i, .ok _ => .error i
  | .error i, .error j => .error (i ++ j)

/-- The issues of a result. -/
def issues {α : Type} : Checked α → List Issue
  | .ok _ => []
  | .error is => is

theorem ofCause_eq_ok_iff {α : Type} {r : Except Cause α} {a : α} :
    ofCause r = .ok a ↔ r = .ok a := by
  cases r <;> simp [ofCause]

theorem within_eq_ok_iff {α : Type} {p : Place} {r : Checked α} {a : α} :
    r.within p = .ok a ↔ r = .ok a := by
  cases r <;> simp [within]

theorem map_eq_ok_iff {α β : Type} {f : α → β} {x : Checked α} {b : β} :
    x.map f = .ok b ↔ ∃ a, x = .ok a ∧ f a = b := by
  cases x <;> simp [Except.map]

/-- Both results count, whatever becomes of the other. -/
theorem issues_both {α β : Type} (x : Checked α) (y : Checked β) :
    (both x y).issues = x.issues ++ y.issues := by
  cases x <;> cases y <;> simp [both, issues]

theorem both_eq_ok_iff {α β : Type} {x : Checked α} {y : Checked β} {a : α} {b : β} :
    both x y = .ok (a, b) ↔ x = .ok a ∧ y = .ok b := by
  cases x <;> cases y <;> simp [both]

end Checked

end StartupGate.Config
