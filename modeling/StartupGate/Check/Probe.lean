import StartupGate.Check.Strategy
import StartupGate.Timer
/-!
# Probes

A probe repeats the attempts of a strategy until one of them settles the matter, the timer elapses
or the worker is told to stop. The deadline is looked at first and the cancel flag second, both
before each attempt; an attempt that is under way is not interrupted. After each attempt that
settles nothing the worker sleeps for the interval of the timer.

What a probe asks of its timer is a `Watch`; a timer on the clock of the worker is one of many.
-/

namespace StartupGate

/-- What a probe asks of its timer. -/
structure Watch where
  /-- Whether the timer has not elapsed yet. -/
  isRunning : Step Bool
  /-- A sleep for the interval of the timer. -/
  sleep : Step Unit

/-- The watch of a timer that goes by the clock of the worker. -/
def Timer.watch (t : Timer) : Watch where
  isRunning w := (t.isRunning w.clock, w)
  sleep := Worker.sleep t.interval

namespace Probe

/-- Logs the message with which a probe ends. An available service needs none. -/
def close (service : String) (o : Outcome) (w : Worker) : Worker :=
  match o with
  | .timedOut => w.log .error ("dependency " ++ service ++ " service checking time out")
  | .cancelled => w.log .warning ("dependency " ++ service ++ " service checking cancelled")
  | .misconfigured =>
    w.log .error ("dependency " ++ service ++ " service is misconfigured, giving up")
  | .available | .failed => w

end Probe

/-- The loop of a probe. A loop that never ends has no result. -/
def Watch.probe (watch : Watch) (service : String) (strategy : Strategy) (w : Worker) :
    Option (Except Fault Outcome × Worker) :=
  match watch.isRunning w with
  | (.error f, w) => some (.error f, w)
  | (.ok false, w) => some (.ok .timedOut, Probe.close service .timedOut w)
  | (.ok true, w) =>
    -- A probe that is late and cancelled has timed out; the flag is not looked at then.
    if w.isCancelled then some (.ok .cancelled, Probe.close service .cancelled w)
    else
      match strategy service w with
      | (.error f, w) => some (.error f, w)
      | (.ok verdict, w) =>
        match verdict.outcome? with
        | some o => some (.ok o, Probe.close service o w)
        | none =>
          -- The sleep is not cut short, neither by the deadline nor by the flag.
          match watch.sleep w with
          | (.error f, w) => some (.error f, w)
          | (.ok (), w) => watch |>.probe service strategy w
partial_fixpoint

/-- Probes a service under a watch. -/
def Probe.run (service : String) (watch : Watch) (strategy : Strategy) (w : Worker) :
    Option (Except Fault Outcome × Worker) :=
  watch.probe service strategy w

end StartupGate
