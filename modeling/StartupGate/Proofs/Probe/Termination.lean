import StartupGate.Proofs.Probe.Course
import StartupGate.Proofs.Probe.Time
/-!
# Probes on whole seconds end

Where attempts take whole numbers of seconds, none of them negative, and the interval is a second at
least, every round of a probe brings the clock nearer to the deadline. So the probe ends, whatever
the attempts come to and whenever the cancel flag is set or cleared (`Probe.exists_course_onWhole`).
The timer never fails on the way, so that nothing but an attempt can end the probe in a fault
(`Probe.Course.serves_onWhole`).
-/

namespace StartupGate.Probe

variable {service : String} {strategy : Strategy} {start duration interval : Int}

/-- A probe on whole seconds ends before the clock is past the deadline by more than one round. The
number `budget` bounds the seconds that are left. -/
theorem exists_course_of_budget (htime : (strategy service).TakesTime) (hinterval : 1 ≤ interval)
    (budget : Nat) {w : Worker} {c : Int} (hclock : w.clock = .whole c)
    (hbudget : start + duration ≤ c + budget) :
    ∃ made result last, Course service (Timer.onWhole start duration interval).watch strategy w
      made result last := by
  -- Each round spends a second of the budget at least, since the sleep at its end takes one.
  induction budget generalizing w c with
  | zero =>
    have hlate : (Timer.onWhole start duration interval).watch.isRunning w = (.ok false, w) := by
      rw [Timer.isRunning_onWhole hclock, decide_eq_false (by omega)]
    exact ⟨_, _, _, .timedOut hlate⟩
  | succ budget ih =>
    have hwatch := Timer.isRunning_onWhole hclock start duration interval
    by_cases hearly : c < start + duration
    · rw [decide_eq_true hearly] at hwatch
      cases hflag : w.isCancelled with
      | true => exact ⟨_, _, _, .cancelled hwatch hflag⟩
      | false =>
        obtain ⟨elapsed, hafter⟩ := htime w c hclock
        rcases hattempt : strategy service w with ⟨answer, v⟩
        rw [hattempt] at hafter
        cases answer with
        | error f => exact ⟨_, _, _, .raised hwatch hflag hattempt⟩
        | ok d =>
          cases hverdict : d.outcome? with
          | some o => exact ⟨_, _, _, .settled hwatch hflag hattempt hverdict⟩
          | none =>
            -- Nothing is settled, and the sleep takes the clock past this second.
            have hsleep := Worker.sleep_whole hafter interval
            obtain ⟨made, result, last, hrest⟩ :=
              ih (w := { v with
                sleeps := v.sleeps + 1
                clock := .whole (c + elapsed + interval) }) rfl (by push_cast at hbudget; omega)
            exact ⟨_, _, _, .again hwatch hflag hattempt hverdict hsleep hrest⟩
    · rw [decide_eq_false hearly] at hwatch
      exact ⟨_, _, _, .timedOut hwatch⟩

/-- **A probe on whole seconds ends**, whatever its attempts come to. -/
theorem exists_course_onWhole (htime : (strategy service).TakesTime) (hinterval : 1 ≤ interval)
    {w : Worker} {c : Int} (hclock : w.clock = .whole c) :
    ∃ made result last, Course service (Timer.onWhole start duration interval).watch strategy w
      made result last :=
  exists_course_of_budget htime hinterval (start + duration - c).toNat hclock (by omega)

/-- On whole seconds the timer does not touch the clock before an attempt, and the attempt leaves it
on whole seconds. -/
theorem exists_clock_after (htime : (strategy service).TakesTime) {w u v : Worker} {c : Int}
    {running : Bool} {answer : Except Fault Verdict} (hclock : w.clock = .whole c)
    (hwatch : (Timer.onWhole start duration interval).watch.isRunning w = (.ok running, u))
    (hattempt : strategy service u = (answer, v)) :
    u.clock = .whole c ∧ ∃ c', v.clock = .whole c' := by
  rw [Timer.isRunning_onWhole hclock] at hwatch
  obtain rfl := (Prod.mk.inj hwatch).2
  obtain ⟨elapsed, hafter⟩ := htime w c hclock
  rw [hattempt] at hafter
  exact ⟨hclock, _, hafter⟩

/-- Every attempt of a probe on whole seconds begins on whole seconds. -/
theorem Course.clock_before_onWhole (htime : (strategy service).TakesTime) {w last : Worker}
    {made : List Attempt} {result : Except Fault Outcome} {c : Int} (hclock : w.clock = .whole c)
    (h : Course service (Timer.onWhole start duration interval).watch strategy w made result last) :
    ∀ x ∈ made, ∃ c', x.before.clock = .whole c' := by
  induction h generalizing c with
  | unwatched | timedOut | cancelled => simp
  | raised hwatch _ hattempt | settled hwatch _ hattempt | sleepless hwatch _ hattempt =>
    obtain ⟨hbefore, -⟩ := exists_clock_after htime hclock hwatch hattempt
    exact List.forall_mem_singleton.mpr ⟨_, hbefore⟩
  | again hwatch _ hattempt _ hsleep _ ih =>
    obtain ⟨hbefore, b, hb⟩ := exists_clock_after htime hclock hwatch hattempt
    obtain rfl := (Prod.mk.inj ((Worker.sleep_whole hb interval).symm.trans hsleep)).2
    exact List.forall_mem_cons.mpr ⟨⟨_, hbefore⟩, ih rfl⟩

/-- On whole seconds the timer of a probe serves it: the clock can always be compared with the
deadline, and a sleep can always be added to it. -/
theorem Course.serves_onWhole (htime : (strategy service).TakesTime) {w last : Worker}
    {made : List Attempt} {result : Except Fault Outcome} {c : Int} (hclock : w.clock = .whole c)
    (h : Course service (Timer.onWhole start duration interval).watch strategy w made result last) :
    Serves (Timer.onWhole start duration interval).watch w made := by
  have hlook : ∀ {v : Worker} {b : Int}, v.clock = .whole b → ∃ running u,
      (Timer.onWhole start duration interval).watch.isRunning v = (.ok running, u) :=
    fun hv => ⟨_, _, Timer.isRunning_onWhole hv start duration interval⟩
  -- A look at the timer is served in every round, and a sleep where the round has one.
  induction h generalizing c with
  | unwatched | timedOut | cancelled => exact hlook hclock
  | raised => exact ⟨hlook hclock, fun h => by cases h⟩
  | settled _ _ _ hverdict =>
    exact ⟨hlook hclock, fun h => by simp [Attempt.result?, hverdict] at h⟩
  | sleepless hwatch _ hattempt _ _ =>
    obtain ⟨-, b, hb⟩ := exists_clock_after htime hclock hwatch hattempt
    exact ⟨hlook hclock, fun _ => ⟨_, Worker.sleep_whole hb interval, hlook rfl⟩⟩
  | again hwatch _ hattempt _ hsleep _ ih =>
    obtain ⟨-, b, hb⟩ := exists_clock_after htime hclock hwatch hattempt
    obtain rfl := (Prod.mk.inj ((Worker.sleep_whole hb interval).symm.trans hsleep)).2
    exact ⟨hlook hclock, fun _ => ⟨_, hsleep, ih rfl⟩⟩

end StartupGate.Probe
