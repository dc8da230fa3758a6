import StartupGate.Proofs.Check.Requests
import StartupGate.Proofs.Gate.Timeliness
import StartupGate.Proofs.Probe.Timeline
/-!
# Longer deadlines

A probe looks at its deadline between two attempts and nowhere else, so that a later deadline shows
only where the earlier one would have ended the probe.

* A probe that is not ended by its deadline does not change when it is given more time, and one that
  is goes on where it was ended (`Probe.Course.exists_prolonged`).
* A service that a worker finds available is found available by a worker with more time
  (`CheckAll.ComesTo.prolong`).

The main statement is `Gate.longer_deadline`, on probes, on checks of several services, and on the
gate.
-/

namespace StartupGate

/-! ## Probes -/

namespace Probe

/-- What becomes of a probe that made the attempts `made` and left the state `last` when it is given
more time: the same, unless its deadline ended it, and the same attempts at first in any case. -/
structure Prolonged (made : List Attempt) (result : Except Fault Outcome) (last : Worker)
    (made' : List Attempt) (result' : Except Fault Outcome) (last' : Worker) : Prop where
  same : result ≠ .ok .timedOut → made' = made ∧ result' = result ∧ last' = last
  attempts : made <+: made'

variable {service : String} {strategy : Strategy} {start duration duration' interval c : Int}
  {w u last : Worker} {made : List Attempt} {result : Except Fault Outcome}

theorem Prolonged.refl (made : List Attempt) (result : Except Fault Outcome) (last : Worker) :
    Prolonged made result last made result last :=
  ⟨fun _ => ⟨rfl, rfl, rfl⟩, List.prefix_refl made⟩

theorem Prolonged.cons {made' : List Attempt} {result' : Except Fault Outcome} {last' : Worker}
    (h : Prolonged made result last made' result' last') (a : Attempt) :
    Prolonged (a :: made) result last (a :: made') result' last' where
  same hne := by
    obtain ⟨rfl, hrest⟩ := h.same hne
    exact ⟨rfl, hrest⟩
  attempts := List.prefix_cons_inj a |>.mpr h.attempts

/-- A timer that is running would be running with more time. -/
theorem isRunning_prolong (hle : duration ≤ duration') (hclock : w.clock = .whole c)
    (hwatch : (Timer.onWhole start duration interval).watch.isRunning w = (.ok true, u)) :
    (Timer.onWhole start duration' interval).watch.isRunning w = (.ok true, u) := by
  rw [Timer.isRunning_onWhole hclock] at hwatch ⊢
  obtain ⟨hrunning, rfl⟩ := Prod.mk.inj hwatch
  have hearly : c < start + duration := of_decide_eq_true (Except.ok.inj hrunning)
  rw [decide_eq_true (by omega : c < start + duration')]

/-- **A probe with more time** goes as before up to the point where the deadline ended it. -/
theorem Course.exists_prolonged (htime : (strategy service).TakesTime) (hinterval : 1 ≤ interval)
    (hle : duration ≤ duration') (hclock : w.clock = .whole c)
    (h : Course service (Timer.onWhole start duration interval).watch strategy w made result last) :
    ∃ made' result' last',
      Course service (Timer.onWhole start duration' interval).watch strategy w made' result' last' ∧
        Prolonged made result last made' result' last' := by
  -- Both probes take the same rule in every round but the one in which the first one times out.
  induction h generalizing c with
  | unwatched hwatch =>
    -- On whole seconds the timer does not fail.
    rw [Timer.isRunning_onWhole hclock] at hwatch
    cases (Prod.mk.inj hwatch).1
  | timedOut =>
    -- From here on the second probe is on its own, and it comes to an end.
    obtain ⟨made', result', last', hrest⟩ :=
      @exists_course_onWhole _ _ start duration' _ htime hinterval _ _ hclock
    exact ⟨made', result', last', hrest, fun hne => absurd rfl hne, List.nil_prefix⟩
  | cancelled hwatch hflag =>
    have hwatch := isRunning_prolong hle hclock hwatch
    exact ⟨_, _, _, .cancelled hwatch hflag, .refl _ _ _⟩
  | raised hwatch hflag hattempt =>
    have hwatch := isRunning_prolong hle hclock hwatch
    exact ⟨_, _, _, .raised hwatch hflag hattempt, .refl _ _ _⟩
  | settled hwatch hflag hattempt hverdict =>
    have hwatch := isRunning_prolong hle hclock hwatch
    exact ⟨_, _, _, .settled hwatch hflag hattempt hverdict, .refl _ _ _⟩
  | sleepless hwatch hflag hattempt hverdict hsleep =>
    have hwatch := isRunning_prolong hle hclock hwatch
    exact ⟨_, _, _, .sleepless hwatch hflag hattempt hverdict hsleep, .refl _ _ _⟩
  | again hwatch hflag hattempt hverdict hsleep _ ih =>
    obtain ⟨-, b, hb⟩ := exists_clock_after htime hclock hwatch hattempt
    -- A sleep does not depend on the deadline, and it ends on whole seconds.
    obtain rfl := (Prod.mk.inj ((Worker.sleep_whole hb interval).symm.trans hsleep)).2
    obtain ⟨made', result', last', hrest, hprolonged⟩ := ih rfl
    have hwatch := isRunning_prolong hle hclock hwatch
    exact ⟨_, _, _, .again hwatch hflag hattempt hverdict hsleep hrest, hprolonged.cons _⟩

end Probe

/-! ## Checks -/

/-- What a worker comes to before its deadline it comes to with more time. -/
theorem CheckAll.ComesTo.prolong {strategy : Strategy} {initial : String → Worker} {k : String}
    {duration duration' interval : Int} {result : Except Fault Outcome}
    (htime : (strategy k).TakesTime) (hinterval : 1 ≤ interval) (hle : duration ≤ duration')
    (hclock : ∃ c : Int, (initial k).clock = .whole c)
    (h : ComesTo (Pace.mk (.whole duration) (.whole interval)).factory strategy initial k result)
    (hne : result ≠ .ok .timedOut) :
    ComesTo (Pace.mk (.whole duration') (.whole interval)).factory strategy initial k result := by
  obtain ⟨c, hclock⟩ := hclock
  obtain ⟨r, hrun, rfl⟩ := h.exists_runWorker
  obtain ⟨hservice, made, hcourse⟩ := (runWorker_onWhole_iff hclock).mp hrun
  obtain ⟨made', result', last', hcourse', hprolonged⟩ :=
    hcourse.exists_prolonged htime hinterval hle hclock
  obtain ⟨rfl, rfl, rfl⟩ := hprolonged.same hne
  have hrun' := (runWorker_onWhole_iff hclock).mpr ⟨hservice, _, hcourse'⟩
  exact (isReport_of_runWorker hrun').comesTo

/-! ## The gate -/

namespace Gate

/-- **A longer deadline never hurts.** Attempts take whole numbers of seconds, none of them
negative, and are arbitrary otherwise.

A probe ends under both deadlines, and each of its two runs has a course. Unless the earlier one ends it, it makes the same attempts, comes
to the same result and leaves the same worker, with its messages, its requests, its sleeps and its
clock, under the later one. Otherwise its attempts are the first ones of the probe with more time,
and so are its requests, where attempts lose none. A check that passes, and a gate that opens, also
do so with more time, in whatever order the workers complete. -/
theorem longer_deadline {duration duration' interval : Int} (hinterval : 1 ≤ interval)
    (hle : duration ≤ duration') :
    (∀ (service : String) (strategy : Strategy) (start c : Int) (w : Worker),
      (strategy service).TakesTime → w.clock = .whole c →
      ∃ made result last made' result' last',
        Probe.run service (Timer.onWhole start duration interval).watch strategy w
          = some (result, last) ∧
        Probe.run service (Timer.onWhole start duration' interval).watch strategy w
          = some (result', last') ∧
        Probe.Course service (Timer.onWhole start duration interval).watch strategy w
          made result last ∧
        Probe.Course service (Timer.onWhole start duration' interval).watch strategy w
          made' result' last' ∧
        (result ≠ .ok .timedOut → made' = made ∧ result' = result ∧ last' = last) ∧
        made <+: made' ∧
        ((∀ u : Worker, ∃ sent, u.Recorded (strategy service u).2 sent) →
          ∃ sent later, w.Recorded last sent ∧ w.Recorded last' (sent ++ later))) ∧
    (∀ (strategy : Strategy) (services : List String) (initial : String → Worker)
      (completion completion' : List String → List String),
      (∀ l, (completion l).Perm l) → (∀ l, (completion' l).Perm l) →
      (∀ k ∈ services, (strategy k).TakesTime) →
      (∀ k ∈ services, ∃ c : Int, (initial k).clock = .whole c) →
      CheckAll.Passes completion services (Pace.mk (.whole duration) (.whole interval)).factory
        strategy initial →
      CheckAll.Passes completion' services (Pace.mk (.whole duration') (.whole interval)).factory
        strategy initial) ∧
    ∀ (net : Http.Network) (config : Config) (registry : Option RegistryClient)
      (initial : String → Worker) (clients : Directory)
      (completion completion' : List String → List String),
      (∀ l, (completion l).Perm l) → (∀ l, (completion' l).Perm l) →
      net.TakesTime → (∀ client ∈ registry, client.TakesTime) →
      (∀ k ∈ requiredServices, ∃ c : Int, (initial k).clock = .whole c) →
      Opens completion (Pace.mk (.whole duration) (.whole interval)).factory net config registry
        initial clients →
      Opens completion' (Pace.mk (.whole duration') (.whole interval)).factory net config registry
        initial clients := by
  refine ⟨?probes, ?checks, ?gate⟩
  case probes =>
    intro service strategy start c w htime hclock
    obtain ⟨made, result, last, hcourse⟩ :=
      @Probe.exists_course_onWhole _ _ start duration _ htime hinterval _ _ hclock
    obtain ⟨made', result', last', hcourse', hprolonged⟩ :=
      hcourse.exists_prolonged htime hinterval hle hclock
    refine ⟨made, result, last, made', result', last', hcourse.run_eq, hcourse'.run_eq, hcourse,
      hcourse', hprolonged.same, hprolonged.attempts, fun hkeeps => ?_⟩
    -- The requests of a probe are those of its attempts, one after the other.
    obtain ⟨later, rfl⟩ := hprolonged.attempts
    have hrecorded := hcourse'.recorded (Timer.watch_silent _) hkeeps
    rw [List.flatMap_append] at hrecorded
    exact ⟨_, _, hcourse.recorded (Timer.watch_silent _) hkeeps, hrecorded⟩
  case checks =>
    intro strategy services initial completion completion' hcompletion hcompletion' htime hclock
      hpasses
    rw [CheckAll.passes_iff hcompletion] at hpasses
    rw [CheckAll.passes_iff hcompletion']
    intro k hk
    exact (hpasses k hk).prolong (htime k hk) hinterval hle (hclock k hk) (by simp)
  case gate =>
    intro net config registry initial clients completion completion' hcompletion hcompletion' hnet
      hregistry hclock hopens
    rw [opens_iff hcompletion] at hopens
    rw [opens_iff hcompletion']
    obtain ⟨hcomplete, havailable, hfits⟩ := hopens
    refine ⟨hcomplete, fun k hk => ?_, hfits⟩
    have htime := Strategy.select_takesTime hnet config hregistry k
    exact (havailable k hk).prolong htime hinterval hle (hclock k hk) (by simp)

/-- Five seconds are over after the first of three attempts that nine seconds leave time for. A gate
that opens within five seconds opens within nine. -/
theorem longer_deadline_changing :
    (∃ made last made' last',
      Probe.run "core-data" (Timer.onWhole 0 5 3).watch Probe.Timeline.changing.strategy {}
        = some (.ok .timedOut, last) ∧
      Probe.run "core-data" (Timer.onWhole 0 9 3).watch Probe.Timeline.changing.strategy {}
        = some (.ok .available, last') ∧
      Probe.Course "core-data" (Timer.onWhole 0 5 3).watch Probe.Timeline.changing.strategy {} made
        (.ok .timedOut) last ∧
      Probe.Course "core-data" (Timer.onWhole 0 9 3).watch Probe.Timeline.changing.strategy {} made'
        (.ok .available) last' ∧
      made <+: made' ∧ made.length = 1 ∧ made'.length = 3) ∧
    Opens id (Pace.mk (.whole 5) (.whole 1)).factory slowAnswers bothConfigured none
      (fun _ => {}) {} ∧
    Opens List.reverse (Pace.mk (.whole 9) (.whole 1)).factory slowAnswers bothConfigured none
      (fun _ => {}) {} := by
  refine ⟨?probe, exists_ready_slowAnswers, ?gate⟩
  case probe =>
    have htime : (Probe.Timeline.changing.strategy "core-data").TakesTime := fun w =>
      (Strategy.scripted_onward (by simpa using ⟨⟨2, rfl⟩, ⟨0, rfl⟩, ⟨10, rfl⟩⟩) _ w).later
    obtain ⟨hprobes, -⟩ := longer_deadline (show (1 : Int) ≤ 3 by decide)
      (show (5 : Int) ≤ 9 by decide)
    obtain ⟨made, result, last, made', result', last', hrun, hrun', hcourse, hcourse', -, hprefix,
      -⟩ := hprobes "core-data" _ 0 0 {} htime rfl
    -- The courses under both deadlines, of which there is one each.
    have hearly : ∃ made last, Probe.Course "core-data" (Timer.onWhole 0 5 3).watch
        Probe.Timeline.changing.strategy {} made (.ok .timedOut) last ∧ made.length = 1 :=
      ⟨_, _, .again rfl rfl rfl rfl rfl (.timedOut rfl), rfl⟩
    have hlate : ∃ made last, Probe.Course "core-data" (Timer.onWhole 0 9 3).watch
        Probe.Timeline.changing.strategy {} made (.ok .available) last ∧ made.length = 3 :=
      ⟨_, _, .again rfl rfl rfl rfl rfl (.again rfl rfl rfl rfl rfl (.settled rfl rfl rfl rfl)),
        rfl⟩
    obtain ⟨_, _, hearly, hone⟩ := hearly
    obtain ⟨_, _, hlate, hthree⟩ := hlate
    obtain ⟨rfl, rfl, rfl⟩ := hcourse.unique hearly
    obtain ⟨rfl, rfl, rfl⟩ := hcourse'.unique hlate
    exact ⟨_, _, _, _, hrun, hrun', hcourse, hcourse', hprefix, hone, hthree⟩
  case gate =>
    have hnet : slowAnswers.TakesTime :=
      Http.Network.ofScripts_takesTime (by simpa using ⟨⟨10, rfl⟩, ⟨0, rfl⟩⟩)
    obtain ⟨-, -, hgate⟩ := longer_deadline (le_refl (1 : Int)) (show (5 : Int) ≤ 9 by decide)
    exact hgate slowAnswers bothConfigured none _ {} id List.reverse (fun _ => .refl _)
      List.reverse_perm hnet (by simp) (fun _ _ => ⟨0, rfl⟩) exists_ready_slowAnswers

end Gate

end StartupGate
