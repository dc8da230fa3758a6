import StartupGate.Check.Probe
/-!
# Whole seconds

A probe on whole seconds has a clock, a deadline and an interval that are integers. Its timer never
fails: it runs exactly as long as the clock is before the deadline (`Timer.isRunning_onWhole`), and
a sleep moves the clock by the interval (`Worker.sleep_whole`). `Worker.Later` says that a whole
number of seconds passed between two states, none of it negative, and `Step.TakesTime` that this is
what a step does to every worker.
-/

namespace StartupGate

/-! ## Timers and sleeps -/

/-- A timer on whole seconds. -/
def Timer.onWhole (start duration interval : Int) : Timer :=
  { duration := .whole duration, interval := .whole interval, start := .whole start }

theorem Timer.isRunning_onWhole {w : Worker} {c : Int} (hclock : w.clock = .whole c)
    (start duration interval : Int) :
    (Timer.onWhole start duration interval).watch.isRunning w
      = (.ok (decide (c < start + duration)), w) := by
  simp only [Timer.watch, Timer.isRunning, Timer.deadline, Timer.onWhole, hclock]
  rfl

theorem Worker.sleep_whole {w : Worker} {c : Int} (hclock : w.clock = .whole c) (interval : Int) :
    Worker.sleep (.whole interval) w
      = (.ok (), { w with sleeps := w.sleeps + 1, clock := .whole (c + interval) }) := by
  simp only [Worker.sleep, Worker.elapse, hclock]
  rfl

/-- A sleep is counted and changes the clock. Nothing else about the worker changes. -/
theorem Worker.exists_sleep_eq (time : Seconds) (w : Worker) :
    ∃ clock, (Worker.sleep time w).2 = { w with clock := clock, sleeps := w.sleeps + 1 } := by
  rw [sleep, elapse]
  cases w.clock.add time with
  | error f => exact ⟨w.clock, rfl⟩
  | ok clock => exact ⟨clock, rfl⟩

/-- An event changes the clock, and it may set the cancel flag. Nothing else about the worker
changes. -/
theorem Worker.exists_undergo_eq {α : Type} (elapsed : Seconds) (cancels : Bool)
    (answer : Except Fault α) (w : Worker) :
    ∃ clock flagged, (w.flagged = true → flagged = true) ∧
      (Worker.undergo elapsed cancels answer w).2
        = { w with clock := clock, flagged := flagged } := by
  rw [undergo, elapse]
  cases w.clock.add elapsed with
  | error f => exact ⟨w.clock, w.flagged, id, rfl⟩
  | ok clock => exact ⟨clock, w.flagged || cancels, fun h => by rw [h, Bool.true_or], rfl⟩

/-- An event moves the clock by its time, and it may tell the worker to stop. -/
theorem Worker.undergo_whole {α : Type} {w : Worker} {c : Int} (hclock : w.clock = .whole c)
    (elapsed : Int) (cancels : Bool) (answer : Except Fault α) :
    Worker.undergo (.whole elapsed) cancels answer w
      = (answer, { w with clock := .whole (c + elapsed), flagged := w.flagged || cancels }) := by
  simp only [Worker.undergo, Worker.elapse, hclock]
  rfl

/-! ## The time that steps take -/

/-- On a clock of whole seconds, no time was taken back between two states of a worker. -/
def Worker.Later (w u : Worker) : Prop :=
  ∀ c, w.clock = .whole c → ∃ elapsed : Nat, u.clock = .whole (c + elapsed)

theorem Worker.Later.trans {w u v : Worker} (hwu : w.Later u) (huv : u.Later v) : w.Later v := by
  intro c hc
  obtain ⟨d, hd⟩ := hwu c hc
  obtain ⟨e, he⟩ := huv _ hd
  exact ⟨d + e, by rw [he, Int.natCast_add, Int.add_assoc]⟩

theorem Worker.later_of_clock_eq {w u : Worker} (h : u.clock = w.clock) : w.Later u :=
  fun c hc => ⟨0, by rw [h, hc]; simp⟩

theorem Worker.later_of_whole {w u : Worker} {c : Int} {elapsed : Nat} (hw : w.clock = .whole c)
    (hu : u.clock = .whole (c + elapsed)) : w.Later u := by
  intro c' hc'
  obtain rfl : c = c' := Seconds.whole.inj (hw.symm.trans hc')
  exact ⟨elapsed, hu⟩

/-- A step that takes a whole number of seconds, none of it negative. -/
def Step.TakesTime {α : Type} (s : Step α) : Prop := ∀ w : Worker, w.Later (s w).2

theorem Worker.undergo_takesTime {α : Type} {elapsed : Seconds}
    (helapsed : ∃ e : Nat, elapsed = .whole e)
    (cancels : Bool) (answer : Except Fault α) :
    (Worker.undergo elapsed cancels answer).TakesTime := by
  obtain ⟨e, rfl⟩ := helapsed
  intro w c hc
  exact ⟨e, by rw [Worker.undergo_whole hc]⟩

theorem Worker.sleep_takesTime (interval : Nat) : Step.TakesTime (Worker.sleep (.whole interval)) :=
  fun w c hc => ⟨interval, by rw [Worker.sleep_whole hc]⟩

/-! ## Steps that keep a cancellation -/

/-- What happens to a worker in the course of time: its clock does not go back, the time from which
on cancellation is observed stays, and a cancel flag that was set stays set. -/
structure Worker.Onward (w u : Worker) : Prop where
  later : w.Later u
  cancelAt : u.cancelAt = w.cancelAt
  flagged : w.flagged = true → u.flagged = true

theorem Worker.Onward.refl (w : Worker) : w.Onward w := ⟨later_of_clock_eq rfl, rfl, id⟩

theorem Worker.Onward.trans {w u v : Worker} (hwu : w.Onward u) (huv : u.Onward v) :
    w.Onward v where
  later := hwu.later.trans huv.later
  cancelAt := huv.cancelAt.trans hwu.cancelAt
  flagged := huv.flagged ∘ hwu.flagged

/-- On whole seconds a worker that was told to stop remains so. -/
theorem Worker.Onward.isCancelled {w u : Worker} {c : Int} (h : w.Onward u)
    (hclock : w.clock = .whole c) (hcancelAt : ∀ t ∈ w.cancelAt, ∃ n, t = .whole n)
    (hw : w.isCancelled = true) : u.isCancelled = true := by
  obtain ⟨e, he⟩ := h.later c hclock
  rw [Worker.isCancelled, Bool.or_eq_true] at hw ⊢
  refine hw.imp h.flagged fun hdue => ?_
  rw [h.cancelAt, he]
  rw [hclock] at hdue
  cases hat : w.cancelAt with
  | none => simp [hat] at hdue
  | some t =>
    obtain ⟨n, rfl⟩ := hcancelAt t hat
    simp only [hat, Seconds.le_whole, decide_eq_true_eq] at hdue ⊢
    omega

theorem Worker.undergo_onward {α : Type} {elapsed : Seconds}
    (helapsed : ∃ e : Nat, elapsed = .whole e) (cancels : Bool) (answer : Except Fault α)
    (w : Worker) : w.Onward (Worker.undergo elapsed cancels answer w).2 := by
  obtain ⟨clock, flagged, hflag, hafter⟩ := exists_undergo_eq elapsed cancels answer w
  refine ⟨undergo_takesTime helapsed cancels answer w, ?_, ?_⟩ <;> rw [hafter]
  exact hflag

theorem Worker.sleep_onward (interval : Nat) (w : Worker) :
    w.Onward (Worker.sleep (.whole interval) w).2 := by
  obtain ⟨clock, hafter⟩ := exists_sleep_eq (.whole interval) w
  refine ⟨sleep_takesTime interval w, ?_, ?_⟩ <;> rw [hafter]
  exact id

end StartupGate
