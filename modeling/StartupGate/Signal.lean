import StartupGate.Log.Severity
/-!
# Signals

While dependencies are checked, a signal to the program cancels the checks: the flag of cancellation
is set, and a warning names the signal.
-/

namespace StartupGate

/-- The names of the signals by their numbers. -/
def signalNames : List (Int × String) :=
  [(1, "SIGHUP"), (2, "SIGINT"), (3, "SIGQUIT"), (4, "SIGILL"), (5, "SIGTRAP"), (6, "SIGABRT"),
   (7, "SIGBUS"), (8, "SIGFPE"), (9, "SIGKILL"), (10, "SIGUSR1"), (11, "SIGSEGV"),
   (12, "SIGUSR2"), (13, "SIGPIPE"), (14, "SIGALRM"), (15, "SIGTERM"), (16, "SIGSTKFLT"),
   (17, "SIGCHLD"), (18, "SIGCONT"), (19, "SIGSTOP"), (20, "SIGTSTP"), (21, "SIGTTIN"),
   (22, "SIGTTOU"), (23, "SIGURG"), (24, "SIGXCPU"), (25, "SIGXFSZ"), (26, "SIGVTALRM"),
   (27, "SIGPROF"), (28, "SIGWINCH"), (29, "SIGIO"), (30, "SIGPWR"), (31, "SIGSYS"),
   (34, "SIGRTMIN"), (64, "SIGRTMAX")]

/-- The number of no signal. -/
structure UnknownSignal where
  number : Int
deriving Repr, DecidableEq

/-- The wording of an unknown signal. -/
def UnknownSignal.message (u : UnknownSignal) : String :=
  toString u.number ++ " is not a valid Signals"

/-- What signals have done so far. -/
structure Interrupts where
  /-- The flag of cancellation. -/
  cancelled : Bool := false
  logs : List Log.Entry := []
deriving Repr, DecidableEq

/-- Receives a signal. The flag stays set once it is. -/
def Interrupts.receive (i : Interrupts) (number : Int) : Except UnknownSignal Interrupts :=
  match signalNames.lookup number with
  | none => .error ⟨number⟩
  | some name =>
    let text := "Received " ++ name ++ ", cancelling dependency checks"
    .ok { cancelled := true, logs := i.logs ++ [⟨.warning, text⟩] }

end StartupGate
