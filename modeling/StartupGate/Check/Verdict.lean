/-!
# Results of checks and probes

An attempt ends in a verdict, a probe in an outcome.
-/

namespace StartupGate

/-- The result of one attempt to tell whether a service is available. -/
inductive Verdict where
  | available
  /-- Not available now; worth another attempt. -/
  | unavailable
  /-- Cannot become available; not worth another attempt. -/
  | misconfigured
  /-- Anything that is none of the three, worth another attempt. -/
  | unrecognized
deriving Repr, DecidableEq

/-- The name of a verdict. -/
def Verdict.name : Verdict → String
  | .available => "AVAILABLE"
  | .unavailable => "UNAVAILABLE"
  | .misconfigured => "CONFIG_ERROR"
  | .unrecognized => "UNRECOGNIZED"

/-- The final state of a probe. -/
inductive Outcome where
  | available
  | cancelled
  | timedOut
  | misconfigured
  /-- The worker ended in a fault. -/
  | failed
deriving Repr, DecidableEq

/-- The name of an outcome. -/
def Outcome.name : Outcome → String
  | .available => "AVAILABLE"
  | .cancelled => "CANCELLED"
  | .timedOut => "TIMED_OUT"
  | .misconfigured => "MISCONFIGURED"
  | .failed => "FAILED"

/-- The outcome that a verdict settles a probe with, if it does. -/
def Verdict.outcome? : Verdict → Option Outcome
  | .available => some .available
  | .misconfigured => some .misconfigured
  | .unavailable | .unrecognized => none

end StartupGate
