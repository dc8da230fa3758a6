import StartupGate.Json.Error
import StartupGate.Text.Quoted
/-!
# Faults

A fault is what stops an attempt, a worker or a whole check in place of an answer. Most faults have
a cause that the library knows; `foreign` and `request` are the ones that come from outside, with
the name and the text they came with.

A fault has a name, a text, and a report: the text, or where that is empty the name with the
arguments the fault came with.
-/

namespace StartupGate

/-- Why a registry could not confirm a service. -/
inductive Refusal where
  /-- The catalog was not listed. -/
  | catalogStatus (status : Int)
  /-- The catalog does not hold the service. -/
  | notRegistered (service : String)
  /-- The health checks were not listed. -/
  | healthStatus (service : String) (status : Int)
  /-- A health check of the service fails. -/
  | unhealthy (service : String) (health : String)
deriving Repr, DecidableEq

/-- The wording of a refusal. -/
def Refusal.message : Refusal → String
  | .catalogStatus status => "unable to list services from registry: HTTP " ++ toString status
  | .notRegistered service =>
    service ++ " service is not registered. Might not have started... "
  | .healthStatus service status =>
    "unable to get health checks of " ++ service ++ " service: HTTP " ++ toString status
  | .unhealthy service health => service ++ " service is not healthy (status: " ++ health ++ ")"

/-- What stops something in place of an answer. -/
inductive Fault where
  /-- A request that got no answer. -/
  | request (name : String) (detail : Option String)
  /-- A fault of another kind from outside. -/
  | foreign (name : String) (detail : Option String)
  /-- A look-up without result. -/
  | missingKey (key : Option String)
  /-- A registry that could not confirm a service. -/
  | refused (reason : Refusal)
  /-- A body that is no JSON. -/
  | malformedBody (error : Json.Error) (body : String)
  /-- Data that has no members to look through, by the name of its type. -/
  | noMembers (typeName : String)
  /-- Data that has no items to go through, by the name of its type. -/
  | noItems (typeName : String)
  /-- Data that has no fields, by the name of its type. -/
  | noFields (typeName : String)
  /-- Data that cannot be an element of a set, by the name of its type. -/
  | noElement (typeName : String)
  /-- An integer beyond the range of a double. -/
  | integerTooLarge
  /-- A quotient of integers beyond the range of a double. -/
  | quotientTooLarge
  /-- An integer with more decimal digits than are written. -/
  | tooManyDigits
deriving Repr, DecidableEq

namespace Fault

/-- The name of the kind of a fault. -/
def name : Fault → String
  | .request name _ => name
  | .foreign name _ => name
  | .missingKey _ => "KeyError"
  | .refused _ => "RegistryError"
  | .malformedBody e _ =>
    match e.cause with
    | .tooManyDigits _ => "ValueError"
    | .tooDeep _ => "RecursionError"
    | _ => "JSONDecodeError"
  | .noMembers _ | .noItems _ | .noElement _ => "TypeError"
  | .noFields _ => "AttributeError"
  | .integerTooLarge | .quotientTooLarge => "OverflowError"
  | .tooManyDigits => "ValueError"

/-- The text of a fault; empty for one that came without. -/
def text : Fault → String
  | .request _ detail => detail.getD ""
  | .foreign _ detail => detail.getD ""
  | .missingKey key => (key.map Text.quote).getD ""
  | .refused reason => reason.message
  | .malformedBody e body => if e.cause.isLimit then e.cause.message else e.message body
  | .noMembers t => "argument of type '" ++ t ++ "' is not iterable"
  | .noItems t => "'" ++ t ++ "' object is not iterable"
  | .noFields t => "'" ++ t ++ "' object has no attribute 'get'"
  | .noElement t => "unhashable type: '" ++ t ++ "'"
  | .integerTooLarge => "int too large to convert to float"
  | .quotientTooLarge => "integer division result too large for a float"
  | .tooManyDigits =>
    "Exceeds the limit (" ++ toString Number.digitLimit ++ " digits) for integer string conversion; "
      ++ "use sys.set_int_max_str_digits() to increase the limit"

/-- The arguments a fault came with. -/
def arguments : Fault → List String
  | .request _ detail => detail.toList
  | .foreign _ detail => detail.toList
  | .missingKey key => key.toList
  | f => [f.text]

/-- The name of a fault with its arguments. -/
def display (f : Fault) : String :=
  f.name ++ "(" ++ ", ".intercalate (f.arguments.map Text.quote) ++ ")"

/-- The text of a fault, or its name and arguments where the text is empty. -/
def report (f : Fault) : String := if f.text = "" then f.display else f.text

/-- Whether a fault belongs to the exchange of a request. -/
def isRequest : Fault → Bool
  | .request _ _ => true
  | .malformedBody e _ => !e.cause.isLimit
  | _ => false

end Fault

/-- Where two answers are asked for one after the other and the last is given, the first was too. -/
theorem exists_of_bind_eq_ok {ε α β : Type} {x : Except ε α} {f : α → Except ε β} {b : β}
    (h : x >>= f = .ok b) : ∃ a, x = .ok a ∧ f a = .ok b := by
  cases x with
  | error e => cases h
  | ok a => exact ⟨a, rfl, h⟩

end StartupGate
