import StartupGate.Seconds
/-!
# Timers

A `Timer` is a deadline and a poll interval for one probe. It runs from the moment it is started
and is never shared. A `Pace` holds a duration and an interval that were found to be positive, and
starts as many timers as there are probes.
-/

namespace StartupGate

/-- A deadline and a poll interval. -/
structure Timer where
  duration : Seconds
  interval : Seconds
  /-- The time at which the timer was started. -/
  start : Seconds

namespace Timer

/-- The time at which a timer elapses. -/
def deadline (t : Timer) : Except Fault Seconds := t.start.add t.duration

/-- Whether a timer has not elapsed yet. -/
def isRunning (t : Timer) (now : Seconds) : Except Fault Bool := do
  return now.lt (← t.deadline)

/-- The time left until a timer elapses, zero once it has. -/
def remaining (t : Timer) (now : Seconds) : Except Fault Seconds := do
  let left ← (← t.deadline).sub now
  return if (Seconds.real 0).lt left then left else .real 0

/-- A timer as it is shown, with the time left to one decimal place. -/
def display (t : Timer) (now : Seconds) : Except Fault String := do
  let duration ← t.duration.display
  let interval ← t.interval.display
  let left ← (← t.remaining now).toFloat
  return "StartupTimer(duration_s=" ++ duration ++ ", interval_s=" ++ interval ++ ", remaining="
    ++ Number.fixed 1 left ++ ")"

end Timer

/-- Which of the two settings of a pace is not positive. -/
inductive PaceError where
  | duration
  | interval
deriving Repr, DecidableEq

/-- The wording of a pace error. -/
def PaceError.message : PaceError → String
  | .duration => "duration_s must be > 0"
  | .interval => "interval_s must be > 0"

/-- A duration and an interval for timers. -/
structure Pace where
  duration : Seconds
  interval : Seconds

namespace Pace

/-- The pace with these settings. A setting is refused when it is zero or less; the duration is
judged first. -/
def of? (duration interval : Seconds) : Except PaceError Pace :=
  if duration.le (.whole 0) then .error .duration
  else if interval.le (.whole 0) then .error .interval
  else .ok { duration, interval }

/-- A timer that runs from `now` on. -/
def start (p : Pace) (now : Seconds) : Timer :=
  { duration := p.duration, interval := p.interval, start := now }

/-- Whether two paces have equal settings. -/
def same (p q : Pace) : Bool := p.duration.eq q.duration && p.interval.eq q.interval

/-- A pace as it is shown. -/
def display (p : Pace) : Except Fault String := do
  let duration ← p.duration.display
  let interval ← p.interval.display
  return "TimerConfig(duration_s=" ++ duration ++ ", interval_s=" ++ interval ++ ")"

end Pace

end StartupGate
