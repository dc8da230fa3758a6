import StartupGate.Named
/-!
# What the library offers

The parts of the library that other programs use, by the names under which they ask for them.
-/

namespace StartupGate

/-- A part that other programs use. -/
inductive Offer where
  | checkReadiness
  | checkAll
  | config
  | pace
  | directory
deriving Repr, DecidableEq

/-- The names of the parts. -/
def Offer.names : Named Offer :=
  [("check_readiness", .checkReadiness), ("check_all", .checkAll), ("GateConfig", .config),
   ("TimerConfig", .pace), ("ClientRegistry", .directory)]

/-- The part of a name. -/
def Offer.ofName? (name : String) : Option Offer := names.lookup name

end StartupGate
