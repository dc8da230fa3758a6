import Mathlib.Algebra.Order.Floor.Div
import StartupGate.Proofs.Check.Strategy
import StartupGate.Proofs.Probe.Termination
/-!
# How long a probe takes

A probe counts neither its attempts nor its sleeps; nothing but the clock ends it. On whole seconds
every round takes the interval at least, so that a deadline leaves time for a number of attempts.

* No more attempts are made than the deadline has time for (`Probe.Course.length_le`).
* The clock passes the deadline by less than an interval and the time of the last attempt
  (`Probe.Course.clock_last`).
* A probe in which nothing happens takes exactly as long as it may (`Probe.Course.uneventful`).

The main statement is `Probe.bounded_by_deadline`.
-/

namespace StartupGate.Probe

variable {service : String} {strategy : Strategy} {start duration interval c : Int}
  {w last : Worker} {made : List Attempt} {result : Except Fault Outcome}

/-! ## Rounds on whole seconds -/

/-- The rounds of a probe on whole seconds. The timer tells at every look whether the clock is
before the deadline, an attempt takes `e` seconds, and a sleep takes the interval. -/
@[elab_as_elim]
theorem Course.induction_onWhole (htime : (strategy service).TakesTime)
    {motive : Worker → Int → List Attempt → Except Fault Outcome → Worker → Prop}
    (hclock : w.clock = .whole c)
    (h : Course service (Timer.onWhole start duration interval).watch strategy w made result last)
    (timedOut : ∀ (w : Worker) (c : Int), w.clock = .whole c → start + duration ≤ c →
      motive w c [] (.ok .timedOut) (close service .timedOut w))
    (cancelled : ∀ (w : Worker) (c : Int), w.clock = .whole c → c < start + duration →
      motive w c [] (.ok .cancelled) (close service .cancelled w))
    (raised : ∀ (w v : Worker) (c : Int) (e : Nat) (f : Fault), w.clock = .whole c →
      c < start + duration → v.clock = .whole (c + e) → motive w c [⟨w, .error f, v⟩] (.error f) v)
    (settled : ∀ (w v : Worker) (c : Int) (e : Nat) (d : Verdict) (o : Outcome),
      w.clock = .whole c → c < start + duration → v.clock = .whole (c + e) → d.outcome? = some o →
      motive w c [⟨w, .ok d, v⟩] (.ok o) (close service o v))
    (again : ∀ (w v x last : Worker) (c : Int) (e : Nat) (d : Verdict) (made : List Attempt)
      (result : Except Fault Outcome), w.clock = .whole c → c < start + duration →
      v.clock = .whole (c + e) → d.outcome? = none → x.sleeps = v.sleeps + 1 →
      x.clock = .whole (c + e + interval) →
      Course service (Timer.onWhole start duration interval).watch strategy x made result last →
      motive x (c + e + interval) made result last →
      motive w c (⟨w, .ok d, v⟩ :: made) result last) :
    motive w c made result last := by
  -- What a look at the timer tells, and where an attempt leaves the clock.
  have hlook : ∀ {w u : Worker} {c : Int} {running : Bool}, w.clock = .whole c →
      (Timer.onWhole start duration interval).watch.isRunning w = (.ok running, u) →
      decide (c < start + duration) = running ∧ w = u := by
    intro w u c running hclock hwatch
    obtain ⟨hrunning, hsame⟩ := Prod.mk.inj ((Timer.isRunning_onWhole hclock ..).symm.trans hwatch)
    exact ⟨Except.ok.inj hrunning, hsame⟩
  have hafter : ∀ {w v : Worker} {c : Int} {answer : Except Fault Verdict}, w.clock = .whole c →
      strategy service w = (answer, v) → ∃ e : Nat, v.clock = .whole (c + e) := by
    intro w v c answer hclock hattempt
    have := htime w c hclock
    rwa [hattempt] at this
  induction h generalizing c with
  | unwatched hwatch =>
    rw [Timer.isRunning_onWhole hclock] at hwatch
    cases (Prod.mk.inj hwatch).1
  | timedOut hwatch =>
    obtain ⟨hlate, rfl⟩ := hlook hclock hwatch
    exact timedOut _ _ hclock (not_lt.mp (of_decide_eq_false hlate))
  | cancelled hwatch =>
    obtain ⟨hearly, rfl⟩ := hlook hclock hwatch
    exact cancelled _ _ hclock (of_decide_eq_true hearly)
  | raised hwatch _ hattempt =>
    obtain ⟨hearly, rfl⟩ := hlook hclock hwatch
    obtain ⟨e, he⟩ := hafter hclock hattempt
    exact raised _ _ _ e _ hclock (of_decide_eq_true hearly) he
  | settled hwatch _ hattempt hverdict =>
    obtain ⟨hearly, rfl⟩ := hlook hclock hwatch
    obtain ⟨e, he⟩ := hafter hclock hattempt
    exact settled _ _ _ e _ _ hclock (of_decide_eq_true hearly) he hverdict
  | sleepless hwatch _ hattempt _ hsleep =>
    obtain ⟨-, rfl⟩ := hlook hclock hwatch
    obtain ⟨e, he⟩ := hafter hclock hattempt
    cases (Prod.mk.inj ((Worker.sleep_whole he interval).symm.trans hsleep)).1
  | again hwatch _ hattempt hverdict hsleep hrest ih =>
    obtain ⟨hearly, rfl⟩ := hlook hclock hwatch
    obtain ⟨e, he⟩ := hafter hclock hattempt
    obtain rfl := (Prod.mk.inj ((Worker.sleep_whole he interval).symm.trans hsleep)).2
    exact again _ _ _ _ _ e _ _ _ hclock (of_decide_eq_true hearly) he hverdict rfl rfl hrest
      (ih rfl)

theorem clock_close (service : String) (o : Outcome) (w : Worker) :
    (close service o w).clock = w.clock := by
  cases o <;> rfl

/-- A probe that makes no attempt does not touch the clock. -/
theorem Course.clock_of_nil (hclock : w.clock = .whole c)
    (h : Course service (Timer.onWhole start duration interval).watch strategy w [] result last) :
    last.clock = .whole c := by
  have hwatch := Timer.isRunning_onWhole hclock start duration interval
  cases h with
  | unwatched hwatch' => cases (Prod.mk.inj (hwatch.symm.trans hwatch')).1
  | timedOut hwatch' | cancelled hwatch' =>
    obtain rfl := (Prod.mk.inj (hwatch.symm.trans hwatch')).2
    rwa [clock_close]

/-! ## Bounds -/

/-- A deadline that `n` intervals reach leaves time for `n` attempts. -/
theorem Course.length_le (htime : (strategy service).TakesTime) (hclock : w.clock = .whole c)
    (h : Course service (Timer.onWhole start duration interval).watch strategy w made result last)
    (n : Nat) (hn : start + duration ≤ c + n * interval) : made.length ≤ n := by
  -- An attempt before the deadline leaves at least one interval to it.
  have hpos : ∀ {n : Nat} {c : Int}, c < start + duration → start + duration ≤ c + n * interval →
      1 ≤ n := by
    intro n c hearly hn
    refine Nat.one_le_iff_ne_zero.mpr fun hzero => ?_
    rw [hzero, Nat.cast_zero, zero_mul] at hn
    omega
  revert n
  refine Course.induction_onWhole htime hclock h ?_ ?_ ?_ ?_ ?_
  · exact fun _ _ _ _ n _ => Nat.zero_le n
  · exact fun _ _ _ _ n _ => Nat.zero_le n
  · exact fun _ _ _ _ _ _ hearly _ n hn => hpos hearly hn
  · exact fun _ _ _ _ _ _ _ hearly _ _ n hn => hpos hearly hn
  · intro w v x last c e d made result _ hearly _ _ _ _ _ ih n hn
    obtain ⟨n, rfl⟩ := Nat.exists_eq_succ_of_ne_zero (Nat.one_le_iff_ne_zero.mp (hpos hearly hn))
    -- The sleep takes one of the intervals, and the attempt may take some of the others.
    push_cast [add_mul] at hn
    exact Nat.succ_le_succ (ih n (by omega))

/-- A probe that makes an attempt is over an interval after its last attempt at the latest, and this
attempt begins before the deadline. -/
theorem Course.clock_last (htime : (strategy service).TakesTime) (hinterval : 0 ≤ interval)
    (hclock : w.clock = .whole c)
    (h : Course service (Timer.onWhole start duration interval).watch strategy w made result last) :
    ∀ x ∈ made.getLast?, ∃ (b f : Int) (e : Nat), x.before.clock = .whole b ∧
      x.after.clock = .whole (b + e) ∧ last.clock = .whole f ∧
      b < start + duration ∧ f ≤ b + e + interval := by
  refine Course.induction_onWhole htime hclock h ?_ ?_ ?raised ?settled ?again
  · simp
  · simp
  case raised =>
    intro w v c e f hbefore hearly he
    simp only [List.getLast?_singleton, Option.mem_some_iff, forall_eq']
    exact ⟨c, c + e, e, hbefore, he, he, hearly, by omega⟩
  case settled =>
    intro w v c e d o hbefore hearly he _
    simp only [List.getLast?_singleton, Option.mem_some_iff, forall_eq']
    exact ⟨c, c + e, e, hbefore, he, by rwa [clock_close], hearly, by omega⟩
  case again =>
    intro w v x last c e d made result hbefore hearly he _ _ hx hrest ih
    cases made with
    | nil =>
      -- This is the last attempt, and after the sleep nothing takes time.
      simp only [List.getLast?_singleton, Option.mem_some_iff, forall_eq']
      exact ⟨c, c + e + interval, e, hbefore, he, hrest.clock_of_nil hx, hearly, le_rfl⟩
    | cons y later =>
      rw [List.getLast?_cons_cons]
      exact ih

/-! ## Probes in which nothing happens -/

/-- A probe whose attempts come to nothing and take no time, and which is not cancelled, sleeps up
to its deadline and makes every attempt that it has time for. The number `n` is the least number of
intervals that reach the deadline. -/
theorem Course.uneventful (htime : (strategy service).TakesTime) (hclock : w.clock = .whole c)
    (h : Course service (Timer.onWhole start duration interval).watch strategy w made result last)
    (hidle : ∀ x ∈ made, x.answer = .ok .unavailable ∧ x.after.clock = x.before.clock)
    (hresult : result ≠ .ok .cancelled) {n : Nat}
    (hn : ∀ m : Nat, n ≤ m ↔ start + duration ≤ c + m * interval) :
    made.length = n ∧ result = .ok .timedOut ∧ last.clock = .whole (c + n * interval) := by
  revert hidle hresult n
  refine Course.induction_onWhole htime hclock h ?timedOut ?cancelled ?raised ?settled ?again
  case timedOut =>
    intro w c hclock hlate _ _ n hn
    obtain rfl : n = 0 := Nat.le_zero.mp ((hn 0).mpr (by omega))
    refine ⟨rfl, rfl, ?_⟩
    rw [clock_close, hclock, Nat.cast_zero, zero_mul, add_zero]
  case cancelled => exact fun _ _ _ _ _ hresult => absurd rfl hresult
  case raised =>
    intro w v c e f _ _ _ hidle
    cases (hidle _ (List.mem_singleton_self _)).1
  case settled =>
    intro w v c e d o _ _ _ hverdict hidle
    obtain rfl : d = .unavailable := Except.ok.inj (hidle _ (List.mem_singleton_self _)).1
    cases hverdict
  case again =>
    intro w v x last c e d made result hbefore hearly hafter _ _ _ _ ih hidle hresult n hn
    obtain ⟨⟨-, hstill⟩, hlater⟩ := List.forall_mem_cons.mp hidle
    -- The attempt took no time.
    obtain rfl : e = 0 := by
      have hsame : Seconds.whole (c + e) = .whole c := hafter.symm.trans (hstill.trans hbefore)
      injection hsame
      omega
    cases n with
    | zero =>
      have := (hn 0).mp le_rfl
      omega
    | succ n =>
      -- A round takes one of the intervals, which leaves the others to the rest of the probe.
      have hrest : ∀ m : Nat, n ≤ m ↔ start + duration ≤ c + (0 : Nat) + interval + m * interval := by
        intro m
        have := hn (m + 1)
        push_cast [add_mul] at this
        omega
      obtain ⟨hlength, hend, hlast⟩ := ih hlater hresult hrest
      refine ⟨congrArg (· + 1) hlength, hend, ?_⟩
      rw [hlast]
      push_cast [add_mul]
      exact congrArg _ (by omega)

/-- Where attempts do not sleep by themselves, a probe that is ended by its deadline sleeps once
after each. -/
theorem Course.sleeps_of_timedOut (htime : (strategy service).TakesTime)
    (hclock : w.clock = .whole c)
    (h : Course service (Timer.onWhole start duration interval).watch strategy w made result last)
    (hawake : ∀ x ∈ made, x.after.sleeps = x.before.sleeps) (hresult : result = .ok .timedOut) :
    last.sleeps = w.sleeps + made.length := by
  revert hawake hresult
  refine Course.induction_onWhole htime hclock h ?timedOut ?cancelled ?raised ?settled ?again
  case timedOut => exact fun _ _ _ _ _ _ => rfl
  case cancelled | raised => intros; contradiction
  case settled =>
    intro w v c e d o _ _ _ hverdict _ hresult
    obtain rfl := Except.ok.inj hresult
    cases d <;> cases hverdict
  case again =>
    intro w v x last c e d made result _ _ _ _ hslept _ _ ih hawake hresult
    obtain ⟨hfirst, hlater⟩ := List.forall_mem_cons.mp hawake
    have hfirst : v.sleeps = w.sleeps := hfirst
    rw [ih hlater hresult, hslept, hfirst, List.length_cons, Nat.add_assoc, Nat.add_comm 1]

/-- A probe that was cancelled leaves a worker that is told to stop. -/
theorem Course.isCancelled_of_cancelled {watch : Watch}
    (h : Course service watch strategy w made (.ok .cancelled) last) : last.isCancelled = true := by
  generalize hresult : (.ok .cancelled : Except Fault Outcome) = result at h
  induction h with
  | unwatched | timedOut | raised | sleepless => cases hresult
  | cancelled _ hflag => exact hflag
  | @settled _ _ _ d _ _ _ _ hverdict =>
    obtain rfl := Except.ok.inj hresult
    cases d <;> cases hverdict
  | again _ _ _ _ _ _ ih => exact ih hresult

/-! ## The main statement -/

/-- **The deadline bounds a probe.** Attempts take whole numbers of seconds, none of them negative,
and are arbitrary otherwise; the worker may be told to stop at any time.

The probe ends, and it makes no more attempts than there are intervals, the last one begun, up to
the deadline. If it makes any, then it ends less than an interval and the time of its last attempt
after the deadline. If every attempt finds the service unavailable and takes no time, and the worker
is not told to stop, then it makes exactly as many attempts, sleeps once after each, and times out
when the last of these intervals is over. -/
theorem bounded_by_deadline (htime : (strategy service).TakesTime) (duration interval : Nat)
    (hinterval : 0 < interval) (hclock : w.clock = .whole start) :
    ∃ made result last,
      run service (Timer.onWhole start duration interval).watch strategy w = some (result, last) ∧
      Course service (Timer.onWhole start duration interval).watch strategy w made result last ∧
      made.length ≤ duration ⌈/⌉ interval ∧
      (∀ x ∈ made.getLast?, ∃ (b f : Int) (e : Nat), x.before.clock = .whole b ∧
        x.after.clock = .whole (b + e) ∧ last.clock = .whole f ∧
        f < start + duration + interval + e) ∧
      ((∀ x ∈ made, x.answer = .ok .unavailable ∧ x.after.clock = x.before.clock) →
        last.isCancelled = false →
        made.length = duration ⌈/⌉ interval ∧ result = .ok .timedOut ∧
        last.clock = .whole (start + (duration ⌈/⌉ interval : Nat) * interval) ∧
        ((∀ x ∈ made, x.after.sleeps = x.before.sleeps) →
          last.sleeps = w.sleeps + duration ⌈/⌉ interval)) := by
  obtain ⟨made, result, last, hcourse⟩ :=
    @exists_course_onWhole _ _ start duration interval htime (by omega) _ _ hclock
  -- The quotient is the least number of intervals that reach the deadline.
  have hleast : ∀ m : Nat, duration ⌈/⌉ interval ≤ m ↔
      start + (duration : Int) ≤ start + m * (interval : Int) := by
    intro m
    rw [ceilDiv_le_iff_le_mul hinterval, Nat.mul_comm]
    omega
  refine ⟨made, result, last, hcourse.run_eq, hcourse,
    hcourse.length_le htime hclock _ ((hleast _).mp le_rfl), ?clock, ?uneventful⟩
  case clock =>
    intro x hx
    obtain ⟨b, f, e, hbefore, hafter, hlast, hearly, hf⟩ :=
      hcourse.clock_last htime (by omega) hclock x hx
    exact ⟨b, f, e, hbefore, hafter, hlast, by omega⟩
  case uneventful =>
    intro hidle hflag
    have hresult : result ≠ .ok .cancelled := by
      rintro rfl
      rw [hcourse.isCancelled_of_cancelled] at hflag
      cases hflag
    obtain ⟨hlength, hend, hlast⟩ := hcourse.uneventful htime hclock hidle hresult hleast
    refine ⟨hlength, hend, hlast, fun hawake => ?_⟩
    rw [hcourse.sleeps_of_timedOut htime hclock hawake hend, hlength]

/-- Seven seconds leave time for three attempts that are three seconds apart, and the last sleep
ends after nine. -/
theorem bounded_by_deadline_unavailable :
    ∃ made last,
      Course "core-data" (Timer.onWhole 0 7 3).watch (.scripted [("core-data",
        [{ answer := .ok .unavailable }])]) {} made (.ok .timedOut) last ∧
      made.length = 3 ∧ last.clock = .whole 9 ∧ last.sleeps = 3 := by
  have htime : (Strategy.scripted [("core-data", [{ answer := .ok .unavailable }])]
      "core-data").TakesTime := fun w =>
    (Strategy.scripted_onward (by simpa using ⟨0, rfl⟩) _ w).later
  obtain ⟨made, result, last, -, hcourse, -, -, huneventful⟩ :=
    @bounded_by_deadline _ _ 0 {} htime 7 3 (by decide) rfl
  -- The course of this probe, of which there is one.
  have hwritten : ∃ made last, Course "core-data" (Timer.onWhole 0 7 3).watch (.scripted
      [("core-data", [{ answer := .ok .unavailable }])]) {} made (.ok .timedOut) last ∧
      (∀ x ∈ made, x.answer = .ok .unavailable ∧ x.after.clock = x.before.clock) ∧
      last.isCancelled = false ∧ ∀ x ∈ made, x.after.sleeps = x.before.sleeps :=
    ⟨_, _, .again rfl rfl rfl rfl rfl (.again rfl rfl rfl rfl rfl
      (.again rfl rfl rfl rfl rfl (.timedOut rfl))),
      by simp [Worker.cancel], rfl, by simp [Worker.cancel]⟩
  obtain ⟨_, _, hwritten, hidle, hflag, hawake⟩ := hwritten
  obtain ⟨rfl, rfl, rfl⟩ := hcourse.unique hwritten
  obtain ⟨hlength, -, hlast, hsleeps⟩ := huneventful hidle hflag
  exact ⟨made, last, hcourse, hlength, hlast, hsleeps hawake⟩

end StartupGate.Probe
