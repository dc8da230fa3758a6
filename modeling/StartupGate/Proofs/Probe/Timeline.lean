import Mathlib.Data.Nat.Find
import Mathlib.Order.Monotone.Basic
import StartupGate.Proofs.Check.Strategy
import StartupGate.Proofs.Probe.Course
/-!
# The timeline of a probe

On whole seconds a probe is settled by its timeline: the states in which its attempts would begin,
one after the other and with a sleep between any two, if nothing ever stopped them. An attempt of
the timeline is due when no attempt before it settled the matter, the clock is before the deadline
and the cancel flag is not set. The main statement is `Timeline.exists_follows`: a probe makes
exactly the attempts that are due, sleeps once after each that settles nothing, and comes to its
result where the first attempt is not due or settles the matter.
-/

namespace StartupGate.Probe

/-- An attempt that was answered, with an answer that settles nothing. -/
def Attempt.Retried (a : Attempt) : Prop :=
  ∃ d, a.answer = .ok d ∧ d ≠ .available ∧ d ≠ .misconfigured

theorem Attempt.retried_iff {a : Attempt} :
    a.Retried ↔ ∃ d, a.answer = .ok d ∧ d.outcome? = none := by
  refine exists_congr fun d => and_congr_right fun _ => ?_
  cases d <;> simp [Verdict.outcome?]

/-- A probe on whole seconds. -/
structure Timeline where
  service : String
  strategy : Strategy
  /-- The time at which the timer was started. -/
  start : Int
  duration : Int
  interval : Int
  /-- The state in which the probe begins. -/
  first : Worker

namespace Timeline

variable (t : Timeline)

/-- The watch that the probe goes by. -/
def watch : Watch := (Timer.onWhole t.start t.duration t.interval).watch

/-- The state before the attempt of a number, were all attempts before it made. -/
def before : Nat → Worker
  | 0 => t.first
  | i + 1 => (t.watch.sleep (t.strategy t.service (before i)).2).2

/-- The attempt of a number, were all attempts before it made. -/
def attempt (i : Nat) : Attempt :=
  { before := t.before i
    answer := (t.strategy t.service (t.before i)).1
    after := (t.strategy t.service (t.before i)).2 }

/-- What is asked of the surroundings of a probe: the clock shows whole seconds, attempts take time
and give none back, and a cancel flag that was set stays set. -/
structure Steady : Prop where
  whole : ∃ c, t.first.clock = .whole c
  passes : ∀ i, (t.attempt i).before.Later (t.attempt i).after
  stays : ∀ i, (t.before i).isCancelled = true → (t.before (i + 1)).isCancelled = true

/-- The clock is before the deadline when the attempt of a number would begin. -/
def InTime (i : Nat) : Prop := ∃ c, (t.before i).clock = .whole c ∧ c < t.start + t.duration

/-- The attempt of a number is to be made. -/
structure Due (i : Nat) : Prop where
  retried : ∀ j < i, (t.attempt j).Retried
  inTime : t.InTime i
  uncancelled : (t.before i).isCancelled = false

/-- `t.Ending n made result last`: at the number `n`, after `made` attempts in all, the probe comes
to `result` and leaves the state `last`. -/
inductive Ending (n : Nat) : Nat → Except Fault Outcome → Worker → Prop where
  /-- The deadline is reached, whether the cancel flag is set or not. -/
  | timedOut (hlate : ¬ t.InTime n) :
      Ending n n (.ok .timedOut) (close t.service .timedOut (t.before n))
  /-- The cancel flag is set before the deadline. -/
  | cancelled (hearly : t.InTime n) (hflag : (t.before n).isCancelled = true) :
      Ending n n (.ok .cancelled) (close t.service .cancelled (t.before n))
  /-- The attempt finds the service available. -/
  | available (hdue : t.Due n) (hanswer : (t.attempt n).answer = .ok .available) :
      Ending n (n + 1) (.ok .available) (t.attempt n).after
  /-- The attempt finds the service misconfigured. -/
  | misconfigured (hdue : t.Due n) (hanswer : (t.attempt n).answer = .ok .misconfigured) :
      Ending n (n + 1) (.ok .misconfigured) (close t.service .misconfigured (t.attempt n).after)
  /-- The attempt ends in a fault, which is passed on as it is. -/
  | raised {f : Fault} (hdue : t.Due n) (hanswer : (t.attempt n).answer = .error f) :
      Ending n (n + 1) (.error f) (t.attempt n).after

/-- A run of the probe as its timeline has it. -/
structure Follows (n made : Nat) (result : Except Fault Outcome) (last : Worker) : Prop where
  run_eq : run t.service t.watch t.strategy t.first = some (result, last)
  /-- The attempts of the run are the first of the timeline. -/
  course : Course t.service t.watch t.strategy t.first ((List.range made).map t.attempt) result last
  /-- The attempts of the run are the ones that are due. -/
  made_iff : ∀ i, i < made ↔ t.Due i
  /-- All attempts but the one that settles the matter are retried, each after one sleep. -/
  retried : ∀ i < n, (t.attempt i).Retried ∧
    t.watch.sleep (t.attempt i).after = (.ok (), (t.attempt (i + 1)).before)
  /-- Where the strategy does not sleep by itself, there are no other sleeps. -/
  sleeps : (∀ u, (t.strategy t.service u).2.sleeps = u.sleeps) → last.sleeps = t.first.sleeps + n
  ending : t.Ending n made result last

/-! ## The clock and the flag along a timeline -/

variable {t : Timeline}

theorem watch_isRunning {w : Worker} {c : Int} (hclock : w.clock = .whole c) :
    t.watch.isRunning w = (.ok (decide (c < t.start + t.duration)), w) :=
  Timer.isRunning_onWhole hclock ..

theorem watch_sleep {w : Worker} {c : Int} (hclock : w.clock = .whole c) :
    t.watch.sleep w
      = (.ok (), { w with sleeps := w.sleeps + 1, clock := .whole (c + t.interval) }) :=
  Worker.sleep_whole hclock t.interval

theorem before_succ {i : Nat} {c : Int} (hclock : (t.attempt i).after.clock = .whole c) :
    t.before (i + 1) = { (t.attempt i).after with
      sleeps := (t.attempt i).after.sleeps + 1
      clock := .whole (c + t.interval) } := by
  show (t.watch.sleep (t.attempt i).after).2 = _
  rw [watch_sleep hclock]

/-- Along a steady timeline the clock shows whole seconds, and moves on by the interval at least
from one attempt to the next. -/
theorem Steady.exists_times (hsteady : t.Steady) :
    ∃ time : Nat → Int, (∀ i, (t.before i).clock = .whole (time i)) ∧
      ∀ i, time i + t.interval ≤ time (i + 1) := by
  have hstep : ∀ i c, (t.before i).clock = .whole c →
      ∃ d, (t.before (i + 1)).clock = .whole d ∧ c + t.interval ≤ d := by
    intro i c hc
    obtain ⟨e, he⟩ := hsteady.passes i c hc
    exact ⟨c + e + t.interval, by rw [before_succ he], by omega⟩
  have hwhole : ∀ i, ∃ c, (t.before i).clock = .whole c := by
    intro i
    induction i with
    | zero => exact hsteady.whole
    | succ i ih =>
      obtain ⟨c, hc⟩ := ih
      obtain ⟨d, hd, -⟩ := hstep i c hc
      exact ⟨d, hd⟩
  choose time htime using hwhole
  refine ⟨time, htime, fun i => ?_⟩
  obtain ⟨d, hd, hle⟩ := hstep i _ (htime i)
  rwa [Seconds.whole.inj ((htime (i + 1)).symm.trans hd)]

theorem Steady.exists_after (hsteady : t.Steady) (i : Nat) :
    ∃ c, (t.attempt i).after.clock = .whole c := by
  obtain ⟨time, htime, -⟩ := hsteady.exists_times
  obtain ⟨e, he⟩ := hsteady.passes i _ (htime i)
  exact ⟨_, he⟩

/-- A flag that is set before an attempt is set before every later one. -/
theorem Steady.isCancelled_mono (hsteady : t.Steady) {i j : Nat} (hij : i ≤ j)
    (h : (t.before i).isCancelled = true) : (t.before j).isCancelled = true := by
  induction j, hij using Nat.le_induction with
  | base => exact h
  | succ j _ ih => exact hsteady.stays j ih

/-- A deadline that is reached before an attempt is reached before every later one. -/
theorem Steady.inTime_anti (hsteady : t.Steady) (hinterval : 0 < t.interval) {i j : Nat}
    (hij : i ≤ j) (h : t.InTime j) : t.InTime i := by
  obtain ⟨time, htime, hstep⟩ := hsteady.exists_times
  have hmono : Monotone time := monotone_nat_of_le_succ fun k => by have := hstep k; omega
  obtain ⟨c, hc, hlt⟩ := h
  obtain rfl : time j = c := Seconds.whole.inj ((htime j).symm.trans hc)
  exact ⟨time i, htime i, lt_of_le_of_lt (hmono hij) hlt⟩

/-- The deadline is reached at last. -/
theorem Steady.exists_not_inTime (hsteady : t.Steady) (hinterval : 0 < t.interval) :
    ∃ i, ¬ t.InTime i := by
  obtain ⟨time, htime, hstep⟩ := hsteady.exists_times
  -- Each sleep takes a second at least.
  have hgrow : ∀ i : Nat, time 0 + i ≤ time i := by
    intro i
    induction i with
    | zero => simp
    | succ i ih => have := hstep i; push_cast; omega
  refine ⟨(t.start + t.duration - time 0).toNat, ?_⟩
  rintro ⟨c, hc, hlt⟩
  obtain rfl := Seconds.whole.inj ((htime _).symm.trans hc)
  have := hgrow (t.start + t.duration - time 0).toNat
  omega

/-! ## The run along a timeline -/

/-- The probe goes on after the attempt of a number. -/
def GoesOn (t : Timeline) (i : Nat) : Prop :=
  t.InTime i ∧ (t.before i).isCancelled = false ∧ (t.attempt i).Retried

theorem due_of_goesOn {n i : Nat} (hbefore : ∀ j < n, t.GoesOn j) (hi : i < n) : t.Due i where
  retried := fun j hj => (hbefore j (hj.trans hi)).2.2
  inTime := (hbefore i hi).1
  uncancelled := (hbefore i hi).2.1

/-- At the first number at which the probe does not go on it ends. -/
theorem exists_ending {n : Nat} (hbefore : ∀ i < n, t.GoesOn i) (hn : ¬ t.GoesOn n) :
    ∃ made result last, t.Ending n made result last := by
  by_cases hearly : t.InTime n
  case neg => exact ⟨n, _, _, .timedOut hearly⟩
  by_cases hflag : (t.before n).isCancelled = true
  case pos => exact ⟨n, _, _, .cancelled hearly hflag⟩
  have hflag : (t.before n).isCancelled = false := Bool.eq_false_iff.mpr hflag
  have hdue : t.Due n := ⟨fun j hj => (hbefore j hj).2.2, hearly, hflag⟩
  cases hanswer : (t.attempt n).answer with
  | error f => exact ⟨n + 1, _, _, .raised hdue hanswer⟩
  | ok d =>
    cases d with
    | available => exact ⟨n + 1, _, _, .available hdue hanswer⟩
    | misconfigured => exact ⟨n + 1, _, _, .misconfigured hdue hanswer⟩
    | unavailable | unrecognized =>
      exact absurd ⟨hearly, hflag, _, hanswer, by simp, by simp⟩ hn

variable {n made : Nat} {result : Except Fault Outcome} {last : Worker}

theorem Ending.le (h : t.Ending n made result last) : n ≤ made := by
  cases h <;> omega

theorem isRunning_of_inTime {i : Nat} (h : t.InTime i) :
    t.watch.isRunning (t.before i) = (.ok true, t.before i) := by
  obtain ⟨c, hc, hlt⟩ := h
  rw [watch_isRunning hc, decide_eq_true hlt]

theorem Steady.isRunning_of_not_inTime (hsteady : t.Steady) {i : Nat} (h : ¬ t.InTime i) :
    t.watch.isRunning (t.before i) = (.ok false, t.before i) := by
  obtain ⟨time, htime, -⟩ := hsteady.exists_times
  have hlate : ¬ time i < t.start + t.duration := fun hlt => h ⟨_, htime i, hlt⟩
  rw [watch_isRunning (htime i), decide_eq_false hlate]

theorem Steady.sleep_after (hsteady : t.Steady) (i : Nat) :
    t.watch.sleep (t.attempt i).after = (.ok (), t.before (i + 1)) := by
  obtain ⟨c, hc⟩ := hsteady.exists_after i
  rw [before_succ hc, watch_sleep hc]

theorem attempt_of_answer {i : Nat} {x : Except Fault Verdict} (h : (t.attempt i).answer = x) :
    t.attempt i = ⟨t.before i, x, (t.attempt i).after⟩ ∧
      t.strategy t.service (t.before i) = (x, (t.attempt i).after) := by
  subst h
  exact ⟨rfl, rfl⟩

/-- Where a probe ends, its last attempt, if there is one, makes up the rest of its course. -/
theorem Ending.course_before (hsteady : t.Steady) (h : t.Ending n made result last) :
    Course t.service t.watch t.strategy (t.before n) ((List.range' n (made - n)).map t.attempt)
      result last := by
  cases h with
  | timedOut hlate =>
    rw [Nat.sub_self]
    exact .timedOut (hsteady.isRunning_of_not_inTime hlate)
  | cancelled hearly hflag =>
    rw [Nat.sub_self]
    exact .cancelled (isRunning_of_inTime hearly) hflag
  | available hdue hanswer =>
    obtain ⟨hattempt, hstrategy⟩ := attempt_of_answer hanswer
    rw [Nat.add_sub_cancel_left, List.range'_one, List.map_singleton, hattempt]
    exact .settled (isRunning_of_inTime hdue.inTime) hdue.uncancelled hstrategy rfl
  | misconfigured hdue hanswer =>
    obtain ⟨hattempt, hstrategy⟩ := attempt_of_answer hanswer
    rw [Nat.add_sub_cancel_left, List.range'_one, List.map_singleton, hattempt]
    exact .settled (isRunning_of_inTime hdue.inTime) hdue.uncancelled hstrategy rfl
  | raised hdue hanswer =>
    obtain ⟨hattempt, hstrategy⟩ := attempt_of_answer hanswer
    rw [Nat.add_sub_cancel_left, List.range'_one, List.map_singleton, hattempt]
    exact .raised (isRunning_of_inTime hdue.inTime) hdue.uncancelled hstrategy

/-- The course of a probe follows its timeline, from every number up to the one where it ends. -/
theorem Ending.course_from (hsteady : t.Steady) (hbefore : ∀ i < n, t.GoesOn i)
    (h : t.Ending n made result last) {i : Nat} (hi : i ≤ n) :
    Course t.service t.watch t.strategy (t.before i) ((List.range' i (made - i)).map t.attempt)
      result last := by
  -- The induction goes down from the end, since a course is built from its last attempt.
  induction hi using Nat.decreasingInduction with
  | self => exact h.course_before hsteady
  | of_succ i hi ih =>
    obtain ⟨hearly, hflag, hretried⟩ := hbefore i hi
    obtain ⟨d, hanswer, hverdict⟩ := Attempt.retried_iff.mp hretried
    obtain ⟨hattempt, hstrategy⟩ := attempt_of_answer hanswer
    have hmade : made - i = (made - (i + 1)) + 1 := by have := h.le; omega
    rw [hmade, List.range'_succ, List.map_cons, hattempt]
    exact .again (isRunning_of_inTime hearly) hflag hstrategy hverdict (hsteady.sleep_after i) ih

/-- The attempts before the end of a probe, and the one that ends it, are the ones that are due. -/
theorem Ending.lt_made_iff (hsteady : t.Steady) (hinterval : 0 < t.interval)
    (hbefore : ∀ i < n, t.GoesOn i) (h : t.Ending n made result last) (i : Nat) :
    i < made ↔ t.Due i := by
  -- An attempt after one that settles the matter is not due.
  have hunsettled : ∀ {x : Except Fault Verdict}, (t.attempt n).answer = x → n < i → t.Due i →
      ∃ d, x = .ok d ∧ d ≠ .available ∧ d ≠ .misconfigured :=
    fun hanswer hni hdue => hanswer ▸ hdue.retried n hni
  -- Numbers before the end, at the end and after it.
  rcases Nat.lt_trichotomy i n with hlt | rfl | hgt
  · exact iff_of_true (hlt.trans_le h.le) (due_of_goesOn hbefore hlt)
  · cases h with
    | timedOut hlate => exact iff_of_false (lt_irrefl _) fun hdue => hlate hdue.inTime
    | cancelled _ hflag =>
      refine iff_of_false (lt_irrefl _) fun hdue => ?_
      simp [hdue.uncancelled] at hflag
    | available hdue | misconfigured hdue | raised hdue =>
      exact iff_of_true (Nat.lt_succ_self _) hdue
  · have hle : made ≤ n + 1 := by cases h <;> omega
    refine iff_of_false (by omega) fun hdue => ?_
    cases h with
    | timedOut hlate => exact hlate (hsteady.inTime_anti hinterval hgt.le hdue.inTime)
    | cancelled _ hflag =>
      have := hsteady.isCancelled_mono hgt.le hflag
      simp [hdue.uncancelled] at this
    | available _ hanswer =>
      obtain ⟨d, hd, hne, -⟩ := hunsettled hanswer hgt hdue
      exact hne (Except.ok.inj hd).symm
    | misconfigured _ hanswer =>
      obtain ⟨d, hd, -, hne⟩ := hunsettled hanswer hgt hdue
      exact hne (Except.ok.inj hd).symm
    | raised _ hanswer =>
      obtain ⟨d, hd, -⟩ := hunsettled hanswer hgt hdue
      cases hd

theorem close_sleeps (service : String) (o : Outcome) (w : Worker) :
    (close service o w).sleeps = w.sleeps := by
  cases o <;> rfl

/-- Where the strategy does not sleep by itself, the sleeps before an attempt are as many as the
attempts. -/
theorem Steady.sleeps_before (hsteady : t.Steady)
    (hstrategy : ∀ u, (t.strategy t.service u).2.sleeps = u.sleeps) (i : Nat) :
    (t.before i).sleeps = t.first.sleeps + i := by
  induction i with
  | zero => rfl
  | succ i ih =>
    obtain ⟨c, hc⟩ := hsteady.exists_after i
    rw [before_succ hc]
    show (t.strategy t.service (t.before i)).2.sleeps + 1 = _
    rw [hstrategy, ih, Nat.add_assoc]

theorem Ending.sleeps (hsteady : t.Steady) (h : t.Ending n made result last)
    (hstrategy : ∀ u, (t.strategy t.service u).2.sleeps = u.sleeps) :
    last.sleeps = t.first.sleeps + n := by
  have hn := hsteady.sleeps_before hstrategy n
  have hafter : (t.attempt n).after.sleeps = t.first.sleeps + n := (hstrategy _).trans hn
  cases h with
  | timedOut | cancelled => rwa [close_sleeps]
  | available | raised => exact hafter
  | misconfigured => rwa [close_sleeps]

/-- A timeline is steady when attempts only move a worker onward, from a clock of whole seconds and
towards a cancellation at a whole second if there is one. -/
theorem steady_of_onward {c : Int} (hclock : t.first.clock = .whole c)
    (hcancelAt : ∀ s ∈ t.first.cancelAt, ∃ n, s = .whole n) (hinterval : 0 ≤ t.interval)
    (hstrategy : ∀ w : Worker, w.Onward (t.strategy t.service w).2) : t.Steady := by
  obtain ⟨interval, hinterval⟩ := Int.eq_ofNat_of_zero_le hinterval
  have hstep : ∀ i, (t.before i).Onward (t.before (i + 1)) := by
    intro i
    have hsleep := Worker.sleep_onward interval (t.attempt i).after
    rw [← hinterval] at hsleep
    exact (hstrategy (t.before i)).trans hsleep
  have hfirst : ∀ i, t.first.Onward (t.before i) := by
    intro i
    induction i with
    | zero => exact .refl _
    | succ i ih => exact ih.trans (hstep i)
  refine ⟨⟨c, hclock⟩, fun i => (hstrategy (t.before i)).later, fun i hflag => ?_⟩
  obtain ⟨e, he⟩ := (hfirst i).later c hclock
  exact (hstep i).isCancelled he (by rwa [(hfirst i).cancelAt]) hflag

/-! ## The main statement -/

/-- **A probe on whole seconds follows its timeline.** It makes exactly the attempts that are due,
sleeps once after each that settles nothing, and ends as the first attempt has it that is not due or
settles the matter. -/
theorem exists_follows (t : Timeline) (hinterval : 0 < t.interval) (hsteady : t.Steady) :
    ∃ n made result last, t.Follows n made result last := by
  classical
  -- The probe ends at the first number at which it does not go on.
  have hstops : ∃ i, ¬ t.GoesOn i := by
    obtain ⟨i, hi⟩ := hsteady.exists_not_inTime hinterval
    exact ⟨i, fun h => hi h.1⟩
  have hbefore : ∀ i < Nat.find hstops, t.GoesOn i :=
    fun i hi => not_not.mp (Nat.find_min hstops hi)
  obtain ⟨made, result, last, hending⟩ := exists_ending hbefore (Nat.find_spec hstops)
  have hcourse := hending.course_from hsteady hbefore (Nat.zero_le _)
  rw [Nat.sub_zero, ← List.range_eq_range'] at hcourse
  exact ⟨Nat.find hstops, made, result, last,
    { run_eq := hcourse.run_eq
      course := hcourse
      made_iff := hending.lt_made_iff hsteady hinterval hbefore
      retried := fun i hi => ⟨(hbefore i hi).2.2, hsteady.sleep_after i⟩
      sleeps := hending.sleeps hsteady
      ending := hending }⟩

/-- The first attempt is slow, the second comes to nothing that is known, the third succeeds, though
only after the deadline. -/
def changing : Timeline where
  service := "core-data"
  strategy := .scripted [("core-data",
    [{ elapsed := .whole 2, answer := .ok .unavailable }, { answer := .ok .unrecognized },
      { elapsed := .whole 10, answer := .ok .available }])]
  start := 0
  duration := 9
  interval := 3
  first := {}

theorem exists_follows_changing :
    0 < changing.interval ∧ changing.Steady ∧
      ∃ n made last, changing.Follows n made (.ok .available) last := by
  have hsteady : changing.Steady :=
    steady_of_onward rfl (by simp [changing]) (by decide)
      (Strategy.scripted_onward (by simpa using ⟨⟨2, rfl⟩, ⟨0, rfl⟩, ⟨10, rfl⟩⟩) _)
  obtain ⟨n, made, result, last, hfollows⟩ := exists_follows changing (by decide) hsteady
  have hcourse : ∃ made last, Course changing.service changing.watch changing.strategy
      changing.first made (.ok .available) last :=
    ⟨_, _, .again rfl rfl rfl rfl rfl (.again rfl rfl rfl rfl rfl (.settled rfl rfl rfl rfl))⟩
  obtain ⟨made', last', hcourse⟩ := hcourse
  obtain ⟨-, rfl, -⟩ := hfollows.course.unique hcourse
  exact ⟨by decide, hsteady, n, made, last, hfollows⟩

end Timeline

end StartupGate.Probe
