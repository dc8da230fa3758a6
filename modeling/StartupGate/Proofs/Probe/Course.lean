import StartupGate.Check.Probe
/-!
# The course of a probe

A probe is a loop over a timer, a cancel flag and a strategy, and what it did shows only in the
state it leaves. `Course` is the loop as a derivation, which keeps the attempts that were made in
their order. The two agree: a probe ends exactly when it has a course (`run_eq_some_iff`), and a
probe has one course at most (`Course.unique`). What holds of every attempt of a probe is therefore
shown by induction on its course. With a timer that serves it, a probe is ended by the deadline, by
the cancel flag or by its last attempt (`Course.ended`).
-/

namespace StartupGate.Probe

/-- One attempt of a probe: the state in which it begins, its answer, and the state it leaves. -/
structure Attempt where
  before : Worker
  answer : Except Fault Verdict
  after : Worker

/-- `Course service watch strategy w made result last`: the probe that begins in `w` makes the
attempts `made`, comes to `result` and leaves the state `last`. -/
inductive Course (service : String) (watch : Watch) (strategy : Strategy) :
    Worker → List Attempt → Except Fault Outcome → Worker → Prop where
  /-- The timer cannot tell whether it has elapsed. -/
  | unwatched {w u : Worker} {f : Fault} (hwatch : watch.isRunning w = (.error f, u)) :
      Course service watch strategy w [] (.error f) u
  /-- The timer has elapsed. The cancel flag is not looked at. -/
  | timedOut {w u : Worker} (hwatch : watch.isRunning w = (.ok false, u)) :
      Course service watch strategy w [] (.ok .timedOut) (close service .timedOut u)
  /-- The timer is running and the cancel flag is set. -/
  | cancelled {w u : Worker} (hwatch : watch.isRunning w = (.ok true, u))
      (hflag : u.isCancelled = true) :
      Course service watch strategy w [] (.ok .cancelled) (close service .cancelled u)
  /-- The attempt ends in a fault. -/
  | raised {w u v : Worker} {f : Fault} (hwatch : watch.isRunning w = (.ok true, u))
      (hflag : u.isCancelled = false) (hattempt : strategy service u = (.error f, v)) :
      Course service watch strategy w [⟨u, .error f, v⟩] (.error f) v
  /-- The attempt settles the matter. -/
  | settled {w u v : Worker} {d : Verdict} {o : Outcome}
      (hwatch : watch.isRunning w = (.ok true, u)) (hflag : u.isCancelled = false)
      (hattempt : strategy service u = (.ok d, v)) (hverdict : d.outcome? = some o) :
      Course service watch strategy w [⟨u, .ok d, v⟩] (.ok o) (close service o v)
  /-- The attempt settles nothing and the sleep after it ends in a fault. -/
  | sleepless {w u v x : Worker} {d : Verdict} {f : Fault}
      (hwatch : watch.isRunning w = (.ok true, u)) (hflag : u.isCancelled = false)
      (hattempt : strategy service u = (.ok d, v)) (hverdict : d.outcome? = none)
      (hsleep : watch.sleep v = (.error f, x)) :
      Course service watch strategy w [⟨u, .ok d, v⟩] (.error f) x
  /-- The attempt settles nothing, and after a sleep the probe goes on. -/
  | again {w u v x last : Worker} {d : Verdict} {made : List Attempt}
      {result : Except Fault Outcome} (hwatch : watch.isRunning w = (.ok true, u))
      (hflag : u.isCancelled = false) (hattempt : strategy service u = (.ok d, v))
      (hverdict : d.outcome? = none) (hsleep : watch.sleep v = (.ok (), x))
      (hrest : Course service watch strategy x made result last) :
      Course service watch strategy w (⟨u, .ok d, v⟩ :: made) result last

variable {service : String} {watch : Watch} {strategy : Strategy} {w last : Worker}
  {made : List Attempt} {result : Except Fault Outcome}

/-! ## Agreement with the loop -/

/-- A probe with a course ends as its course does. -/
theorem Course.run_eq (h : Course service watch strategy w made result last) :
    run service watch strategy w = some (result, last) := by
  induction h with
  | unwatched hwatch => rw [run, Watch.probe, hwatch]
  | timedOut hwatch => rw [run, Watch.probe, hwatch]
  | cancelled hwatch hflag =>
    rw [run, Watch.probe, hwatch]
    simp only [hflag, if_true]
  | raised hwatch hflag hattempt =>
    rw [run, Watch.probe, hwatch]
    simp only [hflag, hattempt, Bool.false_eq_true, if_false]
  | settled hwatch hflag hattempt hverdict =>
    rw [run, Watch.probe, hwatch]
    simp only [hflag, hattempt, hverdict, Bool.false_eq_true, if_false]
  | sleepless hwatch hflag hattempt hverdict hsleep =>
    rw [run, Watch.probe, hwatch]
    simp only [hflag, hattempt, hverdict, hsleep, Bool.false_eq_true, if_false]
  | again hwatch hflag hattempt hverdict hsleep _ ih =>
    rw [run, Watch.probe, hwatch]
    simp only [hflag, hattempt, hverdict, hsleep, Bool.false_eq_true, if_false]
    exact ih

/-- A probe that ends has a course. -/
theorem exists_course_of_run (h : run service watch strategy w = some (result, last)) :
    ∃ made, Course service watch strategy w made result last := by
  -- The cases are those of the loop, and the hypothesis is about what it comes to after a sleep.
  refine Watch.probe.partial_correctness watch service strategy
    (fun w r => ∃ made, Course service watch strategy w made r.1 r.2) ?_ w (result, last) h
  intro loop ih w r hr
  split at hr
  · rename_i f u hwatch
    cases hr
    exact ⟨_, .unwatched hwatch⟩
  · rename_i u hwatch
    cases hr
    exact ⟨_, .timedOut hwatch⟩
  · rename_i u hwatch
    split at hr
    · rename_i hflag
      cases hr
      exact ⟨_, .cancelled hwatch hflag⟩
    · rename_i hflag
      have hflag : u.isCancelled = false := Bool.eq_false_iff.mpr hflag
      split at hr
      · rename_i f v hattempt
        cases hr
        exact ⟨_, .raised hwatch hflag hattempt⟩
      · rename_i d v hattempt
        split at hr
        · rename_i o hverdict
          cases hr
          exact ⟨_, .settled hwatch hflag hattempt hverdict⟩
        · rename_i hverdict
          split at hr
          · rename_i f x hsleep
            cases hr
            exact ⟨_, .sleepless hwatch hflag hattempt hverdict hsleep⟩
          · rename_i x hsleep
            obtain ⟨made, hrest⟩ := ih x r hr
            exact ⟨_, .again hwatch hflag hattempt hverdict hsleep hrest⟩

/-- A probe ends exactly when it has a course, and then as its course does. -/
theorem run_eq_some_iff :
    run service watch strategy w = some (result, last) ↔
      ∃ made, Course service watch strategy w made result last :=
  ⟨exists_course_of_run, fun ⟨_, h⟩ => h.run_eq⟩

/-- A probe has one course at most. -/
theorem Course.unique {made' : List Attempt} {result' : Except Fault Outcome} {last' : Worker}
    (h : Course service watch strategy w made result last)
    (h' : Course service watch strategy w made' result' last') :
    made = made' ∧ result = result' ∧ last = last' := by
  -- Two courses from one state take the same rule, since the rules exclude each other.
  induction h generalizing made' with
  | unwatched hwatch => cases h' <;> simp_all
  | timedOut hwatch => cases h' <;> simp_all
  | cancelled hwatch hflag => cases h' <;> simp_all
  | raised hwatch hflag hattempt => cases h' <;> simp_all
  | settled hwatch hflag hattempt hverdict => cases h' <;> simp_all
  | sleepless hwatch hflag hattempt hverdict hsleep => cases h' <;> simp_all
  | again hwatch hflag hattempt hverdict hsleep _ ih =>
    cases h' with
    | again hwatch' hflag' hattempt' hverdict' hsleep' hrest' =>
      obtain ⟨_, rfl⟩ := Prod.mk.inj (hwatch.symm.trans hwatch')
      obtain ⟨hd, rfl⟩ := Prod.mk.inj (hattempt.symm.trans hattempt')
      cases hd
      obtain ⟨_, rfl⟩ := Prod.mk.inj (hsleep.symm.trans hsleep')
      obtain ⟨rfl, rfl, rfl⟩ := ih hrest'
      exact ⟨rfl, rfl, rfl⟩
    | _ => simp_all

/-! ## The attempts of a course -/

/-- Every attempt of a probe begins after the timer was found running and the cancel flag not set,
and is what the strategy makes of the state in which it begins. -/
theorem Course.attempt_of_mem {a : Attempt}
    (h : Course service watch strategy w made result last) (ha : a ∈ made) :
    (∃ u, watch.isRunning u = (.ok true, a.before)) ∧ a.before.isCancelled = false ∧
      strategy service a.before = (a.answer, a.after) := by
  induction h with
  | unwatched | timedOut | cancelled => exact absurd ha List.not_mem_nil
  | raised hwatch hflag hattempt | settled hwatch hflag hattempt
  | sleepless hwatch hflag hattempt =>
    rw [List.mem_singleton.mp ha]
    exact ⟨⟨_, hwatch⟩, hflag, hattempt⟩
  | again hwatch hflag hattempt _ _ _ ih =>
    rcases List.mem_cons.mp ha with rfl | hrest
    · exact ⟨⟨_, hwatch⟩, hflag, hattempt⟩
    · exact ih hrest

/-- A probe that finds its service available does so by its last attempt, and leaves the state
which that attempt left. -/
theorem Course.last_of_available
    (h : Course service watch strategy w made (.ok .available) last) :
    ∃ earlier a, made = earlier ++ [a] ∧ a.answer = .ok .available ∧ a.after = last := by
  generalize hresult : (.ok .available : Except Fault Outcome) = result at h
  induction h with
  | unwatched | timedOut | cancelled | raised | sleepless => simp at hresult
  | @settled w u v d o hwatch hflag hattempt hverdict =>
    obtain rfl : Outcome.available = o := Except.ok.inj hresult
    obtain rfl : d = .available := by cases d <;> simp_all [Verdict.outcome?]
    exact ⟨[], ⟨u, .ok .available, v⟩, rfl, rfl, rfl⟩
  | again _ _ _ _ _ _ ih =>
    obtain ⟨earlier, a, rfl, hanswer, hafter⟩ := ih hresult
    exact ⟨_ :: earlier, a, rfl, hanswer, hafter⟩

/-- A probe that comes to an outcome was ended by the deadline, by the cancel flag, or by an attempt
with a verdict of this outcome. -/
theorem Course.exists_verdict_of_ok {o : Outcome}
    (h : Course service watch strategy w made (.ok o) last) :
    o = .timedOut ∨ o = .cancelled ∨ ∃ x ∈ made, ∃ d, x.answer = .ok d ∧ d.outcome? = some o := by
  generalize hresult : (.ok o : Except Fault Outcome) = result at h
  induction h with
  | unwatched | raised | sleepless => cases hresult
  | timedOut => exact .inl (Except.ok.inj hresult)
  | cancelled => exact .inr (.inl (Except.ok.inj hresult))
  | settled _ _ _ hverdict =>
    obtain rfl := Except.ok.inj hresult
    exact .inr (.inr ⟨_, List.mem_singleton_self _, _, rfl, hverdict⟩)
  | again _ _ _ _ _ _ ih =>
    refine (ih hresult).imp_right (Or.imp_right ?_)
    rintro ⟨x, hx, hverdict⟩
    exact ⟨x, List.mem_cons_of_mem _ hx, hverdict⟩

/-- The result that an attempt ends a probe with, if it does. -/
def Attempt.result? (a : Attempt) : Option (Except Fault Outcome) :=
  match a.answer with
  | .error f => some (.error f)
  | .ok d => d.outcome?.map .ok

/-- The timer of a probe serves along the attempts that are made from a state on: it tells whether
it has elapsed whenever it is asked, and each sleep after an attempt that ends nothing comes to its
end. -/
def Serves (watch : Watch) : Worker → List Attempt → Prop
  | w, [] => ∃ running u, watch.isRunning w = (.ok running, u)
  | w, a :: later => (∃ running u, watch.isRunning w = (.ok running, u)) ∧
      (a.result? = none → ∃ x, watch.sleep a.after = (.ok (), x) ∧ Serves watch x later)

/-- A probe with a timer that serves it is ended by the deadline, by the cancel flag, or by its last
attempt; no attempt before that ends anything. -/
theorem Course.ended (h : Course service watch strategy w made result last)
    (hserves : Serves watch w made) :
    ((∀ a ∈ made, a.result? = none) ∧ (result = .ok .timedOut ∨ result = .ok .cancelled)) ∨
      ∃ earlier a, made = earlier ++ [a] ∧ (∀ b ∈ earlier, b.result? = none) ∧
        a.result? = some result := by
  induction h with
  | unwatched hwatch =>
    -- The timer would have failed.
    obtain ⟨running, u, hserved⟩ := hserves
    rw [hwatch] at hserved
    cases hserved
  | timedOut => exact .inl ⟨by simp, .inl rfl⟩
  | cancelled => exact .inl ⟨by simp, .inr rfl⟩
  | raised => exact .inr ⟨[], _, rfl, by simp, rfl⟩
  | settled _ _ _ hverdict =>
    exact .inr ⟨[], _, rfl, by simp, by simp [Attempt.result?, hverdict]⟩
  | sleepless _ _ _ hverdict hsleep =>
    obtain ⟨x, hslept, -⟩ := hserves.2 (by simp [Attempt.result?, hverdict])
    rw [hsleep] at hslept
    cases hslept
  | @again w u v x last d made result _ _ _ hverdict hsleep _ ih =>
    have hfirst : (Attempt.mk u (.ok d) v).result? = none := by simp [Attempt.result?, hverdict]
    -- The timer goes on to serve where the sleep left the worker.
    obtain ⟨y, hslept, hlater⟩ := hserves.2 hfirst
    rw [hsleep] at hslept
    cases hslept
    rcases ih hlater with ⟨hall, hend⟩ | ⟨earlier, a, rfl, hearlier, ha⟩
    · exact .inl ⟨List.forall_mem_cons.mpr ⟨hfirst, hall⟩, hend⟩
    · exact .inr ⟨_ :: earlier, a, rfl, List.forall_mem_cons.mpr ⟨hfirst, hearlier⟩, ha⟩

/-- A transitive relation in which the timer, the strategy and the sleeps take a worker from one
state to the next holds between the beginning of a probe and the beginning of every attempt, and
between the beginning and the end of every attempt. -/
theorem Course.relates {R : Worker → Worker → Prop} (htrans : ∀ {u v x}, R u v → R v x → R u x)
    (hwatch : ∀ u, R u (watch.isRunning u).2) (hstrategy : ∀ u, R u (strategy service u).2)
    (hsleep : ∀ u, R u (watch.sleep u).2)
    (h : Course service watch strategy w made result last) :
    ∀ a ∈ made, R w a.before ∧ R a.before a.after := by
  induction h with
  | unwatched | timedOut | cancelled => exact fun a ha => absurd ha List.not_mem_nil
  | raised hu _ hv | settled hu _ hv | sleepless hu _ hv =>
    intro a ha
    rw [List.mem_singleton.mp ha]
    exact ⟨Step.relates_of_eq (hwatch _) hu, Step.relates_of_eq (hstrategy _) hv⟩
  | again hu _ hv _ hx _ ih =>
    have hu := Step.relates_of_eq (hwatch _) hu
    have hv := Step.relates_of_eq (hstrategy _) hv
    have hx := Step.relates_of_eq (hsleep _) hx
    intro a ha
    rcases List.mem_cons.mp ha with rfl | hrest
    · exact ⟨hu, hv⟩
    · -- A later attempt begins after the first one and its sleep.
      obtain ⟨hbefore, hafter⟩ := ih a hrest
      exact ⟨htrans hu (htrans hv (htrans hx hbefore)), hafter⟩

end StartupGate.Probe
