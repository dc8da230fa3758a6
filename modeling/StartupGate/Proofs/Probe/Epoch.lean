import StartupGate.Proofs.Probe.Course
import StartupGate.Proofs.Probe.Time
/-!
# The epoch of a clock

A clock of whole seconds may count from any moment. `Worker.shift` moves the clock of a worker, and
with it the time from which on cancellation is observed; nothing else about the worker changes.

A step does not depend on the epoch (`Step.Epochless`) if on a moved clock it gives the same answer
and leaves the same worker, moved as well. Sleeps are such steps, and so is whatever takes a whole
number of seconds that the clock has no part in. A timer does not depend on the epoch as long as it
is moved along (`Timer.shifted_isRunning`). So a probe whose attempts are epochless goes through the
same course on every clock, attempt by attempt (`Probe.Course.shift`), and ends there or not at all
as it does here (`Probe.run_shift`).
-/

namespace StartupGate

/-! ## Moved clocks -/

/-- A time on a clock of whole seconds, after the clock is moved. -/
def Seconds.shift (k : Int) : Seconds → Seconds
  | .whole n => .whole (n + k)
  | .real x => .real x

/-- A worker whose clock is moved, and the time from which on cancellation is observed with it. -/
def Worker.shift (k : Int) (w : Worker) : Worker :=
  { w with clock := w.clock.shift k, cancelAt := w.cancelAt.map (Seconds.shift k) }

/-- A timer that is moved with the clock. -/
def Timer.shift (k : Int) (t : Timer) : Timer := { t with start := t.start.shift k }

/-- A time in whole seconds. -/
def Seconds.IsWhole (t : Seconds) : Prop := ∃ n, t = .whole n

/-- The clock of a worker is one of whole seconds, and so is the time from which on cancellation is
observed. -/
structure Worker.OnWhole (w : Worker) : Prop where
  clock : w.clock.IsWhole
  cancelAt : ∀ t ∈ w.cancelAt, t.IsWhole

theorem Seconds.shift_neg_shift (k : Int) (t : Seconds) : (t.shift k).shift (-k) = t := by
  cases t with
  | whole n => exact congrArg whole (Int.add_neg_cancel_right n k)
  | real x => rfl

theorem Seconds.IsWhole.shift {t : Seconds} (h : t.IsWhole) (k : Int) : (t.shift k).IsWhole := by
  obtain ⟨n, rfl⟩ := h
  exact ⟨n + k, rfl⟩

namespace Worker

variable {w : Worker}

theorem shift_neg_shift (k : Int) (w : Worker) : (w.shift k).shift (-k) = w := by
  have hcancel : (w.cancelAt.map (Seconds.shift k)).map (Seconds.shift (-k)) = w.cancelAt := by
    cases w.cancelAt with
    | none => rfl
    | some t => exact congrArg some (t.shift_neg_shift k)
  simp only [shift, Seconds.shift_neg_shift, hcancel]

theorem OnWhole.shift (hw : w.OnWhole) (k : Int) : (w.shift k).OnWhole where
  clock := hw.clock.shift k
  cancelAt := by
    intro t ht
    obtain ⟨t, hmem, rfl⟩ := Option.map_eq_some_iff.mp ht
    exact (hw.cancelAt t hmem).shift k

theorem OnWhole.log (hw : w.OnWhole) (severity : Log.Severity) (text : String) :
    (w.log severity text).OnWhole :=
  ⟨hw.clock, hw.cancelAt⟩

theorem clock_shift {c : Int} (hc : w.clock = .whole c) (k : Int) :
    (w.shift k).clock = .whole (c + k) := by
  rw [shift, hc]
  rfl

theorem log_shift (k : Int) (w : Worker) (severity : Log.Severity) (text : String) :
    (w.shift k).log severity text = (w.log severity text).shift k := rfl

theorem played_shift (k : Int) (w : Worker) : (w.shift k).played = w.played := rfl

/-- Whether a worker is told to stop does not depend on the epoch. -/
theorem isCancelled_shift (hw : w.OnWhole) (k : Int) : (w.shift k).isCancelled = w.isCancelled := by
  obtain ⟨c, hc⟩ := hw.clock
  cases hat : w.cancelAt with
  | none => simp [isCancelled, shift, hat]
  | some t =>
    obtain ⟨n, rfl⟩ := hw.cancelAt t hat
    simp [isCancelled, shift, Seconds.shift, hat, hc]

end Worker

/-! ## Steps on moved clocks -/

/-- On a moved clock the second step does what the first one does on the clock itself. -/
def Step.Shifted {α : Type} (k : Int) (s s' : Step α) : Prop :=
  ∀ w : Worker, w.OnWhole → (s w).2.OnWhole ∧ s' (w.shift k) = ((s w).1, (s w).2.shift k)

/-- A step that does the same on every clock. -/
def Step.Epochless {α : Type} (s : Step α) : Prop := ∀ k, Step.Shifted k s s

theorem Step.Shifted.eq {α : Type} {k : Int} {s s' : Step α} (h : Step.Shifted k s s')
    {w u : Worker} {x : Except Fault α} (hw : w.OnWhole) (hs : s w = (x, u)) :
    u.OnWhole ∧ s' (w.shift k) = (x, u.shift k) := by
  have hmoved := h w hw
  rwa [hs] at hmoved

theorem Worker.undergo_epochless {α : Type} {elapsed : Seconds} (helapsed : elapsed.IsWhole)
    (cancels : Bool) (answer : Except Fault α) :
    (Worker.undergo elapsed cancels answer).Epochless := by
  intro k w hw
  obtain ⟨e, rfl⟩ := helapsed
  obtain ⟨c, hc⟩ := hw.clock
  rw [undergo_whole hc, undergo_whole (clock_shift hc k)]
  refine ⟨⟨⟨c + e, rfl⟩, hw.cancelAt⟩, ?_⟩
  simp only [shift, Seconds.shift, Int.add_right_comm]

theorem Worker.sleep_epochless (interval : Int) :
    Step.Epochless (Worker.sleep (.whole interval)) := by
  intro k w hw
  obtain ⟨c, hc⟩ := hw.clock
  rw [sleep_whole hc, sleep_whole (clock_shift hc k)]
  refine ⟨⟨⟨c + interval, rfl⟩, hw.cancelAt⟩, ?_⟩
  simp only [shift, Seconds.shift, Int.add_right_comm]

/-! ## Timers on moved clocks -/

/-- On a moved clock the second watch does what the first one does on the clock itself. -/
structure Watch.Shifted (k : Int) (watch watch' : Watch) : Prop where
  isRunning : Step.Shifted k watch.isRunning watch'.isRunning
  sleep : Step.Shifted k watch.sleep watch'.sleep

/-- A timer on whole seconds serves as before when it is moved along with the clock. -/
theorem Timer.watch_shifted {t : Timer} (hstart : t.start.IsWhole) (hduration : t.duration.IsWhole)
    (hinterval : t.interval.IsWhole) (k : Int) : t.watch.Shifted k (t.shift k).watch := by
  obtain ⟨duration, interval, start⟩ := t
  obtain ⟨a, rfl⟩ := hstart
  obtain ⟨d, rfl⟩ := hduration
  obtain ⟨i, rfl⟩ := hinterval
  refine ⟨fun w hw => ?_, Worker.sleep_epochless i k⟩
  obtain ⟨c, hc⟩ := hw.clock
  have hleft := isRunning_onWhole hc a d i
  have hright := isRunning_onWhole (Worker.clock_shift hc k) (a + k) d i
  -- The clock and the deadline are moved by the same time.
  have hsame : (c + k < a + k + d) = (c < a + d) := by
    rw [Int.add_right_comm a k d]
    exact propext (Int.add_lt_add_iff_right k)
  simp only [hsame] at hright
  rw [show (Timer.mk (.whole d) (.whole i) (.whole a)) = onWhole a d i from rfl, hleft]
  exact ⟨hw, hright⟩

/-! ## Probes on moved clocks -/

namespace Probe

/-- An attempt on a moved clock. -/
def Attempt.shift (k : Int) (a : Attempt) : Attempt := ⟨a.before.shift k, a.answer, a.after.shift k⟩

theorem close_shift (k : Int) (service : String) (o : Outcome) (w : Worker) :
    close service o (w.shift k) = (close service o w).shift k := by
  cases o <;> rfl

variable {service : String} {strategy : Strategy} {watch watch' : Watch} {k : Int}

/-- A probe with epochless attempts goes through the same course on a moved clock. -/
theorem Course.shift (hwatch : watch.Shifted k watch') (hstrategy : (strategy service).Epochless)
    {w last : Worker} {made : List Attempt} {result : Except Fault Outcome} (hw : w.OnWhole)
    (h : Course service watch strategy w made result last) :
    Course service watch' strategy (w.shift k) (made.map (Attempt.shift k)) result
      (last.shift k) := by
  induction h with
  | unwatched hasked => exact .unwatched (hwatch.isRunning.eq hw hasked).2
  | timedOut hasked =>
    rw [← close_shift]
    exact .timedOut (hwatch.isRunning.eq hw hasked).2
  | cancelled hasked hflag =>
    obtain ⟨hu, hasked⟩ := hwatch.isRunning.eq hw hasked
    rw [← close_shift]
    exact .cancelled hasked ((Worker.isCancelled_shift hu k).trans hflag)
  | raised hasked hflag hattempt =>
    obtain ⟨hu, hasked⟩ := hwatch.isRunning.eq hw hasked
    exact .raised hasked ((Worker.isCancelled_shift hu k).trans hflag)
      ((hstrategy k).eq hu hattempt).2
  | settled hasked hflag hattempt hverdict =>
    obtain ⟨hu, hasked⟩ := hwatch.isRunning.eq hw hasked
    rw [← close_shift]
    exact .settled hasked ((Worker.isCancelled_shift hu k).trans hflag)
      ((hstrategy k).eq hu hattempt).2 hverdict
  | sleepless hasked hflag hattempt hverdict hsleep =>
    obtain ⟨hu, hasked⟩ := hwatch.isRunning.eq hw hasked
    obtain ⟨hv, hattempt⟩ := (hstrategy k).eq hu hattempt
    exact .sleepless hasked ((Worker.isCancelled_shift hu k).trans hflag) hattempt hverdict
      (hwatch.sleep.eq hv hsleep).2
  | again hasked hflag hattempt hverdict hsleep _ ih =>
    obtain ⟨hu, hasked⟩ := hwatch.isRunning.eq hw hasked
    obtain ⟨hv, hattempt⟩ := (hstrategy k).eq hu hattempt
    obtain ⟨hx, hsleep⟩ := hwatch.sleep.eq hv hsleep
    exact .again hasked ((Worker.isCancelled_shift hu k).trans hflag) hattempt hverdict hsleep
      (ih hx)

/-- A probe with epochless attempts ends on a moved clock exactly when it ends on the clock itself,
and then with the same result. -/
theorem run_shift (hwatch : watch.Shifted k watch') (hback : watch'.Shifted (-k) watch)
    (hstrategy : (strategy service).Epochless) {w : Worker} (hw : w.OnWhole) :
    run service watch' strategy (w.shift k)
      = (run service watch strategy w).map (Prod.map id (Worker.shift k)) := by
  refine Option.ext fun ⟨result, last⟩ => ?_
  rw [run_eq_some_iff, Option.map_eq_some_iff]
  constructor
  · rintro ⟨made, hcourse⟩
    -- Moving the clock back gives the course on the clock itself.
    have hhere := hcourse.shift hback hstrategy (hw.shift k)
    rw [Worker.shift_neg_shift] at hhere
    refine ⟨_, hhere.run_eq, ?_⟩
    have hthere := Worker.shift_neg_shift (-k) last
    rw [Int.neg_neg] at hthere
    rw [Prod.map, hthere]
    rfl
  · rintro ⟨⟨result', last'⟩, hrun, hmoved⟩
    obtain ⟨made, hcourse⟩ := exists_course_of_run hrun
    obtain ⟨rfl, rfl⟩ := Prod.mk.inj hmoved
    exact ⟨_, hcourse.shift hwatch hstrategy hw⟩

end Probe

end StartupGate
