import StartupGate.Proofs.Number.Zero
import StartupGate.Proofs.Probe.Course
/-!
# The first attempt

A pace refuses a duration that is zero or less, and a timer runs while the clock is before its
deadline. Of two times at most one of these comparisons holds, and where one of the times is no
number neither does: such a duration is accepted, and the timer has elapsed from the beginning.

- `Seconds.le_zero_eq_false_iff`: what the guards of a pace let pass.
- `Seconds.add_of_isZero` and `Seconds.lt_iff_isPositive`: the deadline on a clock at zero, and how
  the clock compares with it, for every kind of clock and duration.
- `Pace.isRunning_start_cases`: the first look at a timer has one of three outcomes.
- The main statement is `Probe.first_attempt_iff`.
-/

namespace StartupGate

open Number
open Number.Binary64 (parts ofInt overflow compareInt)

/-! ## Times and zero -/

namespace Seconds

/-- A time that is zero, as a whole number or as one of the two doubles. -/
def IsZero : Seconds → Prop
  | .whole n => n = 0
  | .real x => Binary64.IsZero x

/-- A time above zero, infinity included. -/
def IsPositive : Seconds → Prop
  | .whole n => 0 < n
  | .real x => (parts x).IsPositive

/-- A time that is no number. -/
def IsNaN : Seconds → Prop
  | .whole _ => False
  | .real x => parts x = .nan

/-- A whole number of seconds that has no double near it is to be added to a double. -/
def Overflows (clock duration : Seconds) : Prop :=
  ∃ x n, clock = .real x ∧ duration = .whole n ∧ overflow ≤ n.natAbs

/-- A clock takes a duration that is a number and does not overflow on it. -/
structure Takes (clock duration : Seconds) : Prop where
  fits : ¬ clock.Overflows duration
  number : ¬ duration.IsNaN

variable {z s : Seconds}

theorem eq_zero_iff : s.eq (.whole 0) = true ↔ s.IsZero := by
  cases s with
  | whole n =>
    simp only [Seconds.eq, le_whole, IsZero, Bool.and_eq_true, decide_eq_true_eq]
    omega
  | real x =>
    rw [IsZero, ← Binary64.compareInt_zero_eq_eq_iff]
    simp only [Seconds.eq, le]
    cases compareInt 0 x with
    | none => simp
    | some o => cases o <;> simp

/-- What is not refused for being zero or less is above zero, or it is no number. -/
theorem le_zero_eq_false_iff : s.le (.whole 0) = false ↔ s.IsPositive ∨ s.IsNaN := by
  cases s with
  | whole n => simp [IsPositive, IsNaN]
  | real x =>
    rw [IsPositive, IsNaN, ← Binary64.compareInt_zero_eq_lt_iff,
      ← Binary64.compareInt_zero_eq_none_iff]
    simp only [le]
    cases compareInt 0 x with
    | none => simp
    | some o => cases o <;> simp

theorem IsNaN.not_isPositive (h : s.IsNaN) : ¬ s.IsPositive := by
  cases s with
  | whole n => exact h.elim
  | real x =>
    intro hpos
    rw [IsPositive, show parts x = .nan from h] at hpos
    exact hpos

/-- Zero is before the times that are above zero. -/
theorem lt_iff_isPositive (hz : z.IsZero) : z.lt s = true ↔ s.IsPositive := by
  cases z with
  | whole n =>
    obtain rfl : n = 0 := hz
    cases s with
    | whole m => simp [IsPositive]
    | real x => simp [lt, IsPositive, Binary64.compareInt_zero_eq_lt_iff]
  | real y =>
    cases s with
    | whole m => simp [lt, IsPositive, Binary64.compareInt_of_isZero m hz, Int.compare_eq_gt]
    | real x => simp [lt, IsPositive, Binary64.lt_iff_of_isZero hz]

/-- Neither a time above zero nor what is no number is a zero. -/
theorem not_isZero_of_real {x : Float} (hx : (Seconds.real x).IsPositive ∨ (Seconds.real x).IsNaN) :
    ¬ Binary64.IsZero x := by
  rintro ⟨sign, hzero⟩
  have hparts := Binary64.parts_eq x
  rw [hzero, Binary64.partsOfUnpacked] at hparts
  rcases hx with hpos | hnan
  · rw [IsPositive, hparts] at hpos
    exact Nat.lt_irrefl 0 hpos.2
  · cases hparts.symm.trans hnan

theorem toFloat_whole (n : Int) :
    (Seconds.whole n).toFloat
      = if n.natAbs < overflow then .ok (ofInt n) else .error .integerTooLarge := by
  rw [toFloat, Binary64.ofInt?_eq]
  split <;> simp_all

theorem real_add (x : Float) (b : Seconds) :
    (Seconds.real x).add b = b.toFloat.map fun y => .real (x + y) := by
  cases b <;> rfl

/-- On a clock that is zero a deadline is above zero exactly if the duration is, and there is one
unless the duration overflows. -/
theorem add_of_isZero (hz : z.IsZero) (hs : s.IsPositive ∨ s.IsNaN) :
    (z.Overflows s ∧ z.add s = .error .integerTooLarge) ∨
      (¬ z.Overflows s ∧ ∃ t, z.add s = .ok t ∧ (t.IsPositive ↔ s.IsPositive)) := by
  cases z with
  | whole n =>
    obtain rfl : n = 0 := hz
    have hnever : ¬ (Seconds.whole 0).Overflows s := by
      rintro ⟨_, _, hclock, -⟩
      cases hclock
    refine .inr ⟨hnever, ?_⟩
    cases s with
    | whole m => exact ⟨.whole (0 + m), rfl, by rw [Int.zero_add]⟩
    | real x =>
      have hsum := Binary64.add_of_isZero Binary64.isZero_zero (not_isZero_of_real hs)
      exact ⟨.real (0 + x), rfl, by rw [hsum]⟩
  | real y =>
    cases s with
    | whole m =>
      have hpos : 0 < m := hs.resolve_right id
      rw [real_add, toFloat_whole]
      by_cases hsmall : m.natAbs < overflow
      · -- A positive integer has a positive double near it.
        have hnever : ¬ (Seconds.real y).Overflows (.whole m) := by
          rintro ⟨_, n, -, hduration, hlarge⟩
          cases hduration
          exact Nat.not_le.mpr hsmall hlarge
        have hpos' : (parts (ofInt m)).IsPositive := Binary64.isPositive_ofInt hpos
        have hsum := Binary64.add_of_isZero hz (not_isZero_of_real (.inl hpos'))
        rw [if_pos hsmall]
        exact .inr ⟨hnever, .real (y + ofInt m), rfl, by rw [hsum]; exact iff_of_true hpos' hpos⟩
      · rw [if_neg hsmall]
        exact .inl ⟨⟨y, m, rfl, rfl, Nat.not_lt.mp hsmall⟩, rfl⟩
    | real x =>
      have hnever : ¬ (Seconds.real y).Overflows (.real x) := by
        rintro ⟨_, _, -, hduration, -⟩
        cases hduration
      have hsum := Binary64.add_of_isZero hz (not_isZero_of_real hs)
      exact .inr ⟨hnever, .real (y + x), rfl, by rw [hsum]⟩

end Seconds

/-! ## The first look at a timer -/

namespace Pace

variable {p : Pace} {duration interval now : Seconds}

/-- The settings that a pace accepts are above zero or no numbers. -/
theorem of?_eq_ok_iff :
    of? duration interval = .ok p ↔
      (duration.IsPositive ∨ duration.IsNaN) ∧ (interval.IsPositive ∨ interval.IsNaN) ∧
        p = ⟨duration, interval⟩ := by
  rw [← Seconds.le_zero_eq_false_iff, ← Seconds.le_zero_eq_false_iff, of?]
  cases duration.le (.whole 0) with
  | true => simp
  | false =>
    cases interval.le (.whole 0) with
    | true => simp
    | false => simp [eq_comm]

/-- A timer that is started at zero cannot tell its deadline, or it has elapsed already, or it is
running, and its duration decides which. -/
theorem isRunning_start_cases (hp : of? duration interval = .ok p) (hnow : now.IsZero) :
    (now.Overflows duration ∧ (p.start now).isRunning now = .error .integerTooLarge) ∨
      (duration.IsNaN ∧ (p.start now).isRunning now = .ok false) ∨
      (now.Takes duration ∧ (p.start now).isRunning now = .ok true) := by
  obtain ⟨hduration, -, rfl⟩ := of?_eq_ok_iff.mp hp
  rw [start, Timer.isRunning, Timer.deadline]
  rcases Seconds.add_of_isZero hnow hduration with ⟨hlarge, hsum⟩ | ⟨hsmall, t, hsum, hsign⟩
  · rw [hsum]
    exact .inl ⟨hlarge, rfl⟩
  · refine .inr ?_
    rw [hsum]
    have hlt := (Seconds.lt_iff_isPositive (s := t) hnow).trans hsign
    rcases hduration with hpos | hnan
    · have hnumber : ¬ duration.IsNaN := fun hnan => hnan.not_isPositive hpos
      refine .inr ⟨⟨hsmall, hnumber⟩, ?_⟩
      show Except.ok (now.lt t) = _
      rw [hlt.mpr hpos]
    · -- The guard lets this through, and nothing is before a deadline that is no number.
      refine .inl ⟨hnan, ?_⟩
      show Except.ok (now.lt t) = _
      rw [Bool.eq_false_iff.mpr (mt hlt.mp hnan.not_isPositive)]

end Pace

namespace Probe

variable {service : String} {watch : Watch} {strategy : Strategy} {w u last : Worker}
  {made : List Attempt} {result : Except Fault Outcome}

/-- A probe that finds its timer running and its flag not set begins with an attempt. -/
theorem Course.exists_first (h : Course service watch strategy w made result last)
    (hwatch : watch.isRunning w = (.ok true, u)) (hflag : u.isCancelled = false) :
    ∃ a rest, made = a :: rest ∧ a.before = u ∧ strategy service u = (a.answer, a.after) := by
  cases h with
  | unwatched hother | timedOut hother => cases hwatch.symm.trans hother
  | cancelled hsame hset =>
    cases hwatch.symm.trans hsame
    cases hflag.symm.trans hset
  | raised hsame _ hattempt | settled hsame _ hattempt | sleepless hsame _ hattempt
  | again hsame _ hattempt =>
    cases hwatch.symm.trans hsame
    exact ⟨_, _, rfl, rfl, hattempt⟩

/-- **Which timers grant an attempt.** The pace is any that was accepted, of integers and doubles,
and a worker that is not cancelled starts a timer while its clock stands at zero.

The timer is running at first exactly if its duration is a number and does not overflow on the
clock. Then a probe by it, with any strategy for any service, has made an attempt before it ends, and
the first one begins in the state of the worker as it is. With a duration that is no number the probe
times out without any attempt, and with one that overflows it ends in a fault without any. -/
theorem first_attempt_iff {p : Pace} {duration interval : Seconds}
    (hp : Pace.of? duration interval = .ok p) (hclock : w.clock.eq (.whole 0) = true)
    (hflag : w.isCancelled = false) (service : String) (strategy : Strategy) :
    ((p.start w.clock).isRunning w.clock = .ok true ↔ w.clock.Takes duration) ∧
    (∀ made result last, Course service (p.start w.clock).watch strategy w made result last →
      (made ≠ [] ↔ w.clock.Takes duration) ∧
      ∀ a ∈ made.head?, a.before = w ∧ strategy service w = (a.answer, a.after)) ∧
    (duration.IsNaN → run service (p.start w.clock).watch strategy w
      = some (.ok .timedOut, close service .timedOut w)) ∧
    (w.clock.Overflows duration → run service (p.start w.clock).watch strategy w
      = some (.error .integerTooLarge, w)) := by
  have hlook : ∀ x, (p.start w.clock).isRunning w.clock = x →
      (p.start w.clock).watch.isRunning w = (x, w) := fun x hx => congrArg (·, w) hx
  rcases Pace.isRunning_start_cases hp (Seconds.eq_zero_iff.mp hclock) with
    ⟨hlarge, hfirst⟩ | ⟨hnan, hfirst⟩ | ⟨htakes, hfirst⟩
  · have hnone : Course service (p.start w.clock).watch strategy w [] (.error .integerTooLarge) w :=
      .unwatched (hlook _ hfirst)
    have hnot : ¬ w.clock.Takes duration := fun h => h.fits hlarge
    refine ⟨by rw [hfirst]; simp [hnot], ?_, ?_, fun _ => hnone.run_eq⟩
    · intro made result last hcourse
      obtain ⟨rfl, -, -⟩ := hcourse.unique hnone
      simp [hnot]
    · -- What overflows is a whole number.
      obtain ⟨_, _, -, rfl, -⟩ := hlarge
      exact False.elim
  · have hnone : Course service (p.start w.clock).watch strategy w [] (.ok .timedOut)
        (close service .timedOut w) := .timedOut (hlook _ hfirst)
    have hnot : ¬ w.clock.Takes duration := fun h => h.number hnan
    refine ⟨by rw [hfirst]; simp [hnot], ?_, fun _ => hnone.run_eq, ?_⟩
    · intro made result last hcourse
      obtain ⟨rfl, -, -⟩ := hcourse.unique hnone
      simp [hnot]
    · rintro ⟨_, _, -, rfl, -⟩
      exact hnan.elim
  · refine ⟨iff_of_true hfirst htakes, ?_, (absurd · htakes.number),
      (absurd · htakes.fits)⟩
    intro made result last hcourse
    obtain ⟨a, rest, rfl, rfl, hanswer⟩ := hcourse.exists_first (hlook _ hfirst) hflag
    refine ⟨iff_of_true (List.cons_ne_nil a rest) htakes, ?_⟩
    intro b hb
    obtain rfl : a = b := Option.some.inj hb
    exact ⟨rfl, hanswer⟩

/-- An infinite duration is a number, so that the probe begins with an attempt. An interval that is
no number does not matter at first. -/
theorem first_attempt_iff_infinite :
    ∃ p, Pace.of? (.real (Binary64.infinity false)) (.real Binary64.nan) = .ok p ∧
      ({} : Worker).clock.eq (.whole 0) = true ∧ ({} : Worker).isCancelled = false ∧
      (p.start (.whole 0)).isRunning (.whole 0) = .ok true ∧
      ∀ made result last, Course "core-data" (p.start (.whole 0)).watch
        (Strategy.scripted [("core-data", [{ answer := .ok .available }])]) {} made result last →
          made ≠ [] := by
  have htakes : (Seconds.whole 0).Takes (.real (Binary64.infinity false)) := by
    refine ⟨?_, ?_⟩
    · rintro ⟨_, _, hclock, -⟩
      cases hclock
    · intro hnan
      have hparts : parts (Binary64.infinity false) = .infinite false := rfl
      cases hparts.symm.trans hnan
  have hpace : Pace.of? (.real (Binary64.infinity false)) (.real Binary64.nan)
      = .ok ⟨.real (Binary64.infinity false), .real Binary64.nan⟩ := rfl
  obtain ⟨hrunning, hmade, -⟩ := first_attempt_iff (w := {}) hpace rfl rfl "core-data"
    (Strategy.scripted [("core-data", [{ answer := .ok .available }])])
  refine ⟨_, hpace, rfl, rfl, ?_⟩
  exact ⟨hrunning.mpr htakes, fun made result last h => (hmade made result last h).1.mpr htakes⟩

/-- A duration that is no number is accepted, and a probe of a service that is available times out
at once. -/
theorem exists_unattempted :
    ∃ p, Pace.of? (.real Binary64.nan) (.whole 1) = .ok p ∧
      ({} : Worker).clock.eq (.whole 0) = true ∧ ({} : Worker).isCancelled = false ∧
      (p.start (.whole 0)).isRunning (.whole 0) = .ok false ∧
      Course "core-data" (p.start (.whole 0)).watch
        (Strategy.scripted [("core-data", [{ answer := .ok .available }])]) {} []
        (.ok .timedOut) (close "core-data" .timedOut {}) :=
  ⟨_, rfl, rfl, rfl, rfl, .timedOut rfl⟩

end Probe

end StartupGate
