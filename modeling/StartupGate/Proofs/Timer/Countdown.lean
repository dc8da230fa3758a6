import StartupGate.Proofs.Config.Pace
import StartupGate.Proofs.Number.Zero
import StartupGate.Proofs.Probe.Time
/-!
# Timers that share one clock

A pace starts any number of timers on one clock. Each of them can be slept on, which moves the clock
for all, and the clock is moved from outside too. A `Clockwork` is a worker, whose clock it is, with
the timers that were started on it so far. What happens to it is a list of `Clockwork.Event`, in any
order.

- One timer: what is left on it is counted down from its start, and whether it runs, which is a
  comparison of its own, can be told from what is left (`Timer.counts_onWhole`).
- One event: `Clockwork.apply_cases` says what it can do, and `Clockwork.exists_apply` that on whole
  seconds nothing goes wrong.
- A run of events: no timer is changed or lost and the clock does not go back
  (`Clockwork.exists_run`), and every timer stems from one of the starts
  (`Clockwork.startedAt_of_run`).
- The main statement is `Clockwork.timers_count_down`.
-/

namespace StartupGate

/-! ## The time left -/

namespace Seconds

open Number.Binary64 (compareInt_of_isZero isZero_zero)

/-- A whole number of seconds, where the double zero stands for all that is not above zero. -/
def floored (n : Int) : Seconds := if 0 < n then .whole n else .real 0

theorem floored_of_pos {n : Int} (hn : 0 < n) : floored n = .whole n := if_pos hn

theorem floored_of_nonpos {n : Int} (hn : n ≤ 0) : floored n = .real 0 := if_neg (by omega)

@[simp] theorem zero_lt_whole (n : Int) : (Seconds.real 0).lt (.whole n) = decide (0 < n) := by
  rw [lt, compareInt_of_isZero n isZero_zero, Bool.eq_iff_iff]
  simp [Int.compare_eq_gt]

@[simp] theorem whole_lt_zero (n : Int) : (Seconds.whole n).lt (.real 0) = decide (n < 0) := by
  rw [lt, compareInt_of_isZero n isZero_zero, Bool.eq_iff_iff]
  simp [Int.compare_eq_lt]

@[simp] theorem whole_le_zero (n : Int) : (Seconds.whole n).le (.real 0) = decide (n ≤ 0) := by
  rw [le, compareInt_of_isZero n isZero_zero, Bool.eq_iff_iff]
  simp [Int.compare_eq_gt]

@[simp] theorem zero_le_whole (n : Int) : (Seconds.real 0).le (.whole n) = decide (0 ≤ n) := by
  rw [le, compareInt_of_isZero n isZero_zero, Bool.eq_iff_iff]
  simp [Int.compare_eq_lt]

theorem floored_eq (n : Int) : (floored n).eq (.whole (max 0 n)) = true := by
  rw [Seconds.eq, Bool.and_eq_true]
  rcases Int.lt_or_le 0 n with hn | hn
  · rw [floored_of_pos hn, Int.max_eq_right hn.le]
    simp
  · rw [floored_of_nonpos hn, Int.max_eq_left hn]
    simp

theorem zero_lt_floored (n : Int) : (Seconds.whole 0).lt (floored n) = decide (0 < n) := by
  rcases Int.lt_or_le 0 n with hn | hn
  · rw [floored_of_pos hn, lt_whole]
  · rw [floored_of_nonpos hn, whole_lt_zero, decide_eq_false (Int.not_lt.mpr hn)]
    rfl

theorem floored_mono {m n : Int} (hle : m ≤ n) : (floored m).le (floored n) = true := by
  rcases Int.lt_or_le 0 m with hm | hm
  · rw [floored_of_pos hm, floored_of_pos (hm.trans_le hle)]
    simpa using hle
  · rw [floored_of_nonpos hm]
    rcases Int.lt_or_le 0 n with hn | hn
    · rw [floored_of_pos hn]
      simpa using hn.le
    · -- The double zero is not above itself.
      rw [floored_of_nonpos hn]
      decide

end Seconds

/-! ## One timer -/

namespace Timer

variable (created duration interval now : Int)

theorem remaining_onWhole :
    (onWhole created duration interval).remaining (.whole now)
      = .ok (.floored (duration - (now - created))) := by
  have hleft : created + duration - now = duration - (now - created) := by omega
  simp only [remaining, deadline, onWhole, Seconds.add_whole, Seconds.floored, ← hleft]
  show Except.ok _ = _
  simp only [Seconds.zero_lt_whole, decide_eq_true_eq]

/-- What a timer that was started at the time `created` shows at the time `now`: what is left of its
duration, which is never below zero, and that it has not elapsed exactly where something is left. -/
def Counts (t : Timer) (duration created now : Int) : Prop :=
  ∃ left, t.remaining (.whole now) = .ok left ∧
    left.eq (.whole (max 0 (duration - (now - created)))) = true ∧
    t.isRunning (.whole now) = .ok ((Seconds.whole 0).lt left)

theorem counts_onWhole : (onWhole created duration interval).Counts duration created now := by
  refine ⟨_, remaining_onWhole .., Seconds.floored_eq _, ?_⟩
  -- The deadline is compared with the clock, and zero with their difference.
  have hdeadline : now < created + duration ↔ 0 < duration - (now - created) := by omega
  rw [Seconds.zero_lt_floored, ← decide_eq_decide.mpr hdeadline]
  rfl

/-- From one time to another there is not more left on a timer than before, and it has elapsed if it
had elapsed before. -/
structure Dwindles (t : Timer) (earlier later : Seconds) : Prop where
  remaining : ∃ before after, t.remaining earlier = .ok before ∧ t.remaining later = .ok after ∧
    after.le before = true
  elapsed : t.isRunning earlier = .ok false → t.isRunning later = .ok false

theorem dwindles_onWhole {later : Int} (hle : now ≤ later) :
    (onWhole created duration interval).Dwindles (.whole now) (.whole later) where
  remaining := by
    refine ⟨_, _, remaining_onWhole .., remaining_onWhole .., ?_⟩
    apply Seconds.floored_mono
    omega
  elapsed := by
    intro helapsed
    have hover : decide (now < created + duration) = false := Except.ok.inj helapsed
    have hlate : ¬ later < created + duration := by
      have := of_decide_eq_false hover
      omega
    show Except.ok (decide (later < created + duration)) = _
    rw [decide_eq_false hlate]

end Timer

/-! ## Timers on one clock -/

/-- A worker, whose clock the timers go by, and the timers in the order of their starts. -/
structure Clockwork where
  worker : Worker
  timers : List Timer := []

namespace Clockwork

/-- What happens to timers on one clock. -/
inductive Event where
  /-- Another timer is started. -/
  | start
  /-- There is a sleep on the timer in this place of the list, if there is one. -/
  | sleep (timer : Nat)
  /-- The clock is moved. -/
  | advance (seconds : Nat)
deriving DecidableEq

/-- What an event makes of the timers of a pace. -/
def apply (p : Pace) (c : Clockwork) : Event → Except Fault Clockwork
  | .start => .ok { c with timers := c.timers ++ [p.start c.worker.clock] }
  | .sleep i =>
    match c.timers[i]? with
    | none => .ok c
    | some t =>
      match t.watch.sleep c.worker with
      | (.error f, _) => .error f
      | (.ok (), w) => .ok { c with worker := w }
  | .advance seconds => do
    return { c with worker := ← c.worker.elapse (.whole seconds) }

/-- What a list of events makes of the timers of a pace. -/
def run (p : Pace) (c : Clockwork) (events : List Event) : Except Fault Clockwork :=
  events.foldlM (apply p) c

variable {p : Pace} {c d : Clockwork} {e : Event} {events : List Event}

theorem run_cons : run p c (e :: events) = c.apply p e >>= fun d => run p d events :=
  List.foldlM_cons

/-- An event starts another timer, or it lets time pass and leaves the timers as they are. -/
theorem apply_cases (h : c.apply p e = .ok d) :
    (e = .start ∧ d = { c with timers := c.timers ++ [p.start c.worker.clock] }) ∨
      (e ≠ .start ∧ d.timers = c.timers) := by
  cases e with
  | start => exact .inl ⟨rfl, (Except.ok.inj h).symm⟩
  | sleep i =>
    refine .inr ⟨by simp, ?_⟩
    simp only [apply] at h
    split at h
    · cases h
      rfl
    · split at h
      · cases h
      · cases h
        rfl
  | advance seconds =>
    refine .inr ⟨by simp, ?_⟩
    obtain ⟨w, -, hw⟩ := exists_of_bind_eq_ok h
    cases hw
    rfl

theorem timers_prefix_of_run (h : run p c events = .ok d) : c.timers <+: d.timers := by
  induction events generalizing c with
  | nil =>
    cases h
    exact List.prefix_refl _
  | cons e rest ih =>
    obtain ⟨b, hfirst, hrest⟩ := exists_of_bind_eq_ok (run_cons.symm.trans h)
    rcases apply_cases hfirst with ⟨-, rfl⟩ | ⟨-, hsame⟩
    · exact (List.prefix_append _ _).trans (ih hrest)
    · exact hsame ▸ ih hrest

/-- A timer stays in its place, and it stays as it is. -/
theorem getElem?_of_run {i : Nat} {t : Timer} (h : run p c events = .ok d)
    (hi : c.timers[i]? = some t) : d.timers[i]? = some t := by
  obtain ⟨more, hmore⟩ := timers_prefix_of_run h
  obtain ⟨hplace, -⟩ := List.getElem?_eq_some_iff.mp hi
  rw [← hmore, List.getElem?_append_left hplace, hi]

/-- There are as many timers as there were starts. -/
theorem length_of_run (h : run p c events = .ok d) :
    d.timers.length = c.timers.length + events.count .start := by
  induction events generalizing c with
  | nil =>
    cases h
    rfl
  | cons e rest ih =>
    obtain ⟨b, hfirst, hrest⟩ := exists_of_bind_eq_ok (run_cons.symm.trans h)
    rw [ih hrest]
    rcases apply_cases hfirst with ⟨rfl, rfl⟩ | ⟨hother, hsame⟩
    · rw [List.count_cons_self, List.length_append, List.length_singleton]
      omega
    · rw [hsame, List.count_cons_of_ne hother]

/-- The timer in place `i` is started by one of the events, at the time `created`. -/
def StartedAt (p : Pace) (c : Clockwork) (events : List Event) (i : Nat) (created : Seconds) :
    Prop :=
  ∃ before later b, events = before ++ .start :: later ∧ run p c before = .ok b ∧
    b.timers.length = i ∧ b.worker.clock = created

/-- A timer that was not there before stems from a start, and has been left alone since. -/
theorem startedAt_of_run {i : Nat} {t : Timer} (h : run p c events = .ok d)
    (hnew : c.timers.length ≤ i) (hi : d.timers[i]? = some t) :
    ∃ created, StartedAt p c events i created ∧ t = p.start created := by
  induction events generalizing c with
  | nil =>
    cases h
    rw [List.getElem?_eq_none hnew] at hi
    cases hi
  | cons e rest ih =>
    obtain ⟨b, hfirst, hrest⟩ := exists_of_bind_eq_ok (run_cons.symm.trans h)
    by_cases hlater : b.timers.length ≤ i
    · -- It is not there after the first event either.
      obtain ⟨created, ⟨before, later, b', rfl, hbefore, hlength, hclock⟩, ht⟩ := ih hrest hlater
      refine ⟨created, ⟨e :: before, later, b', rfl, ?_, hlength, hclock⟩, ht⟩
      rw [run_cons, hfirst]
      exact hbefore
    · rcases apply_cases hfirst with ⟨rfl, rfl⟩ | ⟨-, hsame⟩
      · -- The first event is the start.
        have hlast : i = c.timers.length := by
          simp only [List.length_append, List.length_singleton] at hlater
          omega
        subst hlast
        refine ⟨_, ⟨[], rest, c, rfl, rfl, rfl, rfl⟩, ?_⟩
        have hkept : d.timers[c.timers.length]? = some (p.start c.worker.clock) :=
          getElem?_of_run hrest List.getElem?_concat_length
        exact Option.some.inj (hi.symm.trans hkept)
      · exact absurd (hsame ▸ hnew) hlater

/-! ## Whole seconds -/

section Whole

variable {duration interval now : Int}

/-- The clock shows whole seconds, and so it did at the start of every timer. -/
structure OnWhole (duration interval : Int) (c : Clockwork) : Prop where
  clock : ∃ now, c.worker.clock = .whole now
  timers : ∀ t ∈ c.timers, ∃ created, t = .onWhole created duration interval

theorem apply_sleep {i : Nat} {created : Int} (hclock : c.worker.clock = .whole now)
    (hi : c.timers[i]? = some (.onWhole created duration interval)) :
    c.apply p (.sleep i)
      = .ok { c with worker := { c.worker with
          sleeps := c.worker.sleeps + 1, clock := .whole (now + interval) } } := by
  have hsleep : (Timer.onWhole created duration interval).watch.sleep c.worker
      = (.ok (), { c.worker with
          sleeps := c.worker.sleeps + 1, clock := .whole (now + interval) }) :=
    Worker.sleep_whole hclock interval
  simp only [apply, hi, hsleep]

theorem apply_advance (hclock : c.worker.clock = .whole now) (seconds : Nat) :
    c.apply p (.advance seconds)
      = .ok { c with worker := { c.worker with clock := .whole (now + seconds) } } := by
  rw [apply, Worker.elapse, hclock]
  rfl

/-- On whole seconds nothing goes wrong with an event, and it does not move the clock back. -/
theorem exists_apply (hinterval : 0 ≤ interval) (hc : c.OnWhole duration interval) (e : Event) :
    ∃ d, c.apply ⟨.whole duration, .whole interval⟩ e = .ok d ∧ d.OnWhole duration interval ∧
      c.worker.Later d.worker := by
  obtain ⟨now, hclock⟩ := hc.clock
  cases e with
  | start =>
    refine ⟨_, rfl, ⟨⟨now, hclock⟩, ?_⟩, Worker.later_of_clock_eq rfl⟩
    intro t ht
    rcases List.mem_append.mp ht with hold | hnew
    · exact hc.timers t hold
    · rw [List.mem_singleton.mp hnew, hclock]
      exact ⟨now, rfl⟩
  | sleep i =>
    cases hi : c.timers[i]? with
    | none =>
      refine ⟨c, ?_, hc, Worker.later_of_clock_eq rfl⟩
      simp only [apply, hi]
    | some t =>
      obtain ⟨created, rfl⟩ := hc.timers t (List.mem_of_getElem? hi)
      obtain ⟨n, rfl⟩ := Int.eq_ofNat_of_zero_le hinterval
      exact ⟨_, apply_sleep hclock hi, ⟨⟨_, rfl⟩, hc.timers⟩, Worker.later_of_whole hclock rfl⟩
  | advance seconds =>
    exact ⟨_, apply_advance hclock seconds, ⟨⟨_, rfl⟩, hc.timers⟩,
      Worker.later_of_whole hclock rfl⟩

/-- On whole seconds nothing goes wrong with a list of events, and it does not move the clock
back. -/
theorem exists_run (hinterval : 0 ≤ interval) (hc : c.OnWhole duration interval)
    (events : List Event) :
    ∃ d, run ⟨.whole duration, .whole interval⟩ c events = .ok d ∧ d.OnWhole duration interval ∧
      c.worker.Later d.worker := by
  induction events generalizing c with
  | nil => exact ⟨c, rfl, hc, Worker.later_of_clock_eq rfl⟩
  | cons e rest ih =>
    obtain ⟨b, hfirst, hb, hlater⟩ := exists_apply hinterval hc e
    obtain ⟨d, hrest, hd, hlater'⟩ := ih hb
    refine ⟨d, ?_, hd, hlater.trans hlater'⟩
    rw [run_cons, hfirst]
    exact hrest

/-- **Timers on one clock count down independently of each other.** The duration and the interval
are positive integers, the clock shows whole seconds, and timers are started, slept on and passed
over by time in any order.

The pace is accepted and nothing goes wrong. There are as many timers as there were starts, and each
of them shows at all times what is left since the clock stood where it was at its start, and that it
has not elapsed exactly where something is left. Whatever happens next, the timer stays, what is left
does not increase, and once it has elapsed it remains so. A sleep on it changes none of the timers,
and all else but the count of sleeps is as if its interval had passed. -/
theorem timers_count_down (hduration : 0 < duration) (hinterval : 0 < interval) {w : Worker}
    {start : Int} (hstart : w.clock = .whole start) (events : List Event) :
    ∃ p c now, Pace.of? (.whole duration) (.whole interval) = .ok p ∧
      run p { worker := w } events = .ok c ∧ c.worker.clock = .whole now ∧
      c.timers.length = events.count .start ∧
      ∀ i t, c.timers[i]? = some t →
        (∃ created, StartedAt p { worker := w } events i (.whole created) ∧
          t.Counts duration created now) ∧
        (∀ more, ∃ d, run p c more = .ok d ∧ d.timers[i]? = some t ∧
          t.Dwindles c.worker.clock d.worker.clock) ∧
        ∃ slept passed, c.apply p (.sleep i) = .ok slept ∧
          c.apply p (.advance interval.toNat) = .ok passed ∧ passed.timers = c.timers ∧
          slept = { passed with
            worker := { passed.worker with sleeps := passed.worker.sleeps + 1 } } := by
  have hfresh : OnWhole duration interval { worker := w } := ⟨⟨start, hstart⟩, by simp⟩
  obtain ⟨c, hrun, hc, -⟩ := exists_run hinterval.le hfresh events
  obtain ⟨now, hclock⟩ := hc.clock
  refine ⟨_, c, now, Pace.of?_of_one_le hduration hinterval, hrun, hclock, ?count, ?timers⟩
  case count =>
    rw [length_of_run hrun]
    exact Nat.zero_add _
  case timers =>
    intro i t hi
    obtain ⟨created, rfl⟩ := hc.timers t (List.mem_of_getElem? hi)
    refine ⟨⟨created, ?started, Timer.counts_onWhole ..⟩, ?dwindles, ?sleep⟩
    case started =>
      obtain ⟨time, hstarted, ht⟩ := startedAt_of_run hrun (Nat.zero_le i) hi
      have htime : Seconds.whole created = time := congrArg Timer.start ht
      exact htime ▸ hstarted
    case dwindles =>
      intro more
      obtain ⟨d, hmore, hd, hlater⟩ := exists_run hinterval.le hc more
      obtain ⟨elapsed, hlater⟩ := hlater now hclock
      refine ⟨d, hmore, getElem?_of_run hmore hi, ?_⟩
      rw [hclock, hlater]
      exact Timer.dwindles_onWhole _ _ _ _ (by omega)
    case sleep =>
      refine ⟨_, _, apply_sleep hclock hi, apply_advance hclock _, rfl, ?_⟩
      rw [Int.toNat_of_nonneg hinterval.le]

/-- The clock stands at 2 when two timers are started. It is moved to 5, another timer is started,
and a sleep on the first one moves the clock to 9. So 6 seconds are left on the third timer, and not
more, whatever happens next. -/
theorem timers_count_down_interleaved :
    (0 : Int) < 10 ∧ (0 : Int) < 4 ∧
      ∃ p c, Pace.of? (.whole 10) (.whole 4) = .ok p ∧
        run p { worker := { clock := .whole 2 } } [.start, .start, .advance 3, .start, .sleep 0]
          = .ok c ∧
        c.timers.length = 3 ∧ c.worker.clock = .whole 9 ∧
        ∀ more, ∃ d left, run p c more = .ok d ∧ d.timers[2]? = some (p.start (.whole 5)) ∧
          (p.start (.whole 5)).remaining d.worker.clock = .ok left ∧
          left.le (.whole 6) = true := by
  have hduration : (0 : Int) < 10 := by decide
  have hinterval : (0 : Int) < 4 := by decide
  obtain ⟨p, c, now, hp, hrun, hclock, hcount, htimers⟩ := timers_count_down hduration hinterval
    (w := { clock := .whole 2 }) rfl [.start, .start, .advance 3, .start, .sleep 0]
  obtain rfl : _ = p := Except.ok.inj hp
  obtain rfl : _ = c := Except.ok.inj hrun
  refine ⟨hduration, hinterval, _, _, rfl, rfl, hcount, rfl, ?_⟩
  intro more
  obtain ⟨-, hmore, -⟩ := htimers 2 (.onWhole 5 10 4) rfl
  obtain ⟨d, hd, hplace, ⟨before, left, hbefore, hleft, hle⟩, -⟩ := hmore more
  obtain rfl : Seconds.floored 6 = before :=
    Except.ok.inj ((Timer.remaining_onWhole 5 10 4 9).symm.trans hbefore)
  exact ⟨d, left, hd, hplace, hleft, hle⟩

end Whole

end Clockwork

end StartupGate
