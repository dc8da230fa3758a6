/-!
# Log messages

A message has a severity and a text. The severities are the four that readiness checks use; each
has a number on the scale of log levels.
-/

namespace StartupGate.Log

/-- How much a message matters. -/
inductive Severity where
  | debug
  | info
  | warning
  | error
deriving Repr, DecidableEq

/-- The number of a severity on the scale of log levels. -/
def Severity.level : Severity → Int
  | .debug => 10
  | .info => 20
  | .warning => 30
  | .error => 40

/-- One message. -/
structure Entry where
  severity : Severity
  text : String
deriving Repr, DecidableEq

end StartupGate.Log
