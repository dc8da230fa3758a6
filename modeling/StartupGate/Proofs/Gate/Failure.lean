import StartupGate.Proofs.Check.Ping
import StartupGate.Proofs.Gate.Attempts
import StartupGate.Proofs.Gate.Timeliness
import StartupGate.Proofs.Number.Range
/-!
# Workers that fail

A time limit of any size passes validation, and so does a port. But from some size on a time limit
cannot be told in seconds, and a port has too many digits for an address, and an attempt looks both
up outside of what it recovers from. Where the network raises nothing but faults of requests and time
is counted in whole seconds, these are the only ways for a worker to fail: the workers of a check
that pings fail exactly where the time limit or the port of their service is that large and they get
as far as their first attempt (`Gate.failed_iff`).
-/

namespace StartupGate

/-! ## Time limits -/

/-- A time limit can be told in seconds exactly when the nearest double is finite. -/
theorem Consul.exists_secondsOfMillis_iff {millis : Int} :
    (∃ timeout, secondsOfMillis millis = .ok timeout) ↔
      millis.natAbs < 1000 * Number.Binary64.overflow := by
  rw [← Number.Binary64.ofQuotient?_isSome_iff millis (by decide), secondsOfMillis]
  cases Number.Binary64.ofQuotient? millis 1000 <;> simp

/-- An attempt has nothing to go by exactly where the time limit is too large, or the port. -/
theorem Strategy.exists_target_error_iff {config : Config} {endpoint : Endpoint} :
    (∃ f, target config endpoint = .error f) ↔
      1000 * Number.Binary64.overflow ≤ config.timeout.natAbs ∨ ¬ FitsAddress endpoint.port := by
  simp only [target_eq_error_iff]
  rw [← Nat.not_lt, ← Consul.exists_secondsOfMillis_iff]
  by_cases hfits : FitsAddress endpoint.port
  · cases Consul.secondsOfMillis config.timeout <;> simp [hfits]
  · simp [hfits]

/-! ## Faults of attempts -/

/-- No verdict settles a probe as failed. -/
theorem Verdict.outcome?_ne_failed (d : Verdict) : d.outcome? ≠ some .failed := by
  cases d <;> simp [outcome?]

/-- Every fault of the network is one of the request. -/
def Http.Network.RaisesRequests (net : Http.Network) : Prop :=
  ∀ url n f, (net url n).answer = .error f → f.isRequest = true

theorem Http.answer_get {net : Http.Network} (hnet : net.TakesTime) {w : Worker} {c : Int}
    (hclock : w.clock = .whole c) (url : String) (timeout : Option Float)
    (headers : Option (List (String × String))) :
    (get net url timeout headers w).1 = (net url (w.requests.count url)).answer := by
  obtain ⟨elapsed, helapsed⟩ := hnet url (w.requests.count url)
  simp only [get, Worker.undergo, Worker.elapse, Worker.record, helapsed, hclock]
  rfl

theorem Http.isRequest_of_ping {net : Network} (hnet : net.TakesTime)
    (hfaults : net.RaisesRequests) {base : String} {timeout : Option Float} {w u : Worker} {c : Int}
    {f : Fault} (hclock : w.clock = .whole c) (h : ping net base timeout w = (.error f, u)) :
    f.isRequest = true := by
  rw [ping] at h
  split at h
  · cases h
  · rename_i f' u' hget
    obtain rfl := Except.error.inj (Prod.mk.inj h).1
    have hanswer := answer_get hnet hclock (pingUrl base) timeout none
    rw [hget] at hanswer
    exact hfaults _ _ f' hanswer.symm

namespace Strategy

variable {net : Http.Network} {config : Config} {service : String} {w : Worker}

/-- An attempt that knows its address and its time limit recovers from all that the network
raises. -/
theorem exists_verdict_of_ping {endpoint : Endpoint} {t : String × Float}
    (hendpoint : config.endpoint? service = some endpoint)
    (htarget : target config endpoint = .ok t) (hnet : net.TakesTime)
    (hfaults : net.RaisesRequests) {c : Int} (hclock : w.clock = .whole c) :
    ∃ d, (ping net config service w).1 = .ok d := by
  obtain ⟨url, timeout⟩ := t
  simp only [ping, hendpoint, htarget]
  split
  · rename_i f u hping
    -- The fault is that of the exchange.
    have hrequest : f.isRequest = true := Http.isRequest_of_ping hnet hfaults (w := w.log .info
      ("Check " ++ service ++ " service's status by ping...")) hclock hping
    rw [if_pos hrequest]
    exact ⟨_, rfl⟩
  · split
    · exact ⟨_, rfl⟩
    · exact ⟨_, rfl⟩

end Strategy

/-! ## Workers -/

namespace CheckAll

variable {net : Http.Network} {config : Config} {duration interval : Int}
  {initial : String → Worker} {k : String} {c : Int}

variable {r : Report} {endpoint : Endpoint}
  (hrun : runWorker (Pace.mk (.whole duration) (.whole interval)).factory
    (Strategy.select net config none) initial k = some r)
  (hclock : (initial k).clock = .whole c)
include hrun hclock

/-- The worker of a service whose attempts recover from all that the network raises does not fail:
nothing but an attempt could have raised. -/
theorem outcome_ne_failed_of_target {t : String × Float}
    (hendpoint : config.endpoint? k = some endpoint)
    (htarget : Strategy.target config endpoint = .ok t) (hnet : net.TakesTime)
    (hfaults : net.RaisesRequests) : r.outcome ≠ .failed := by
  obtain ⟨rfl, made, hcourse⟩ := (runWorker_onWhole_iff hclock).mp hrun
  have htime : (Strategy.select net config none r.service).TakesTime :=
    Strategy.select_takesTime hnet config (by simp) r.service
  -- Every attempt begins on whole seconds, so that it recovers.
  have hanswer : ∀ x ∈ made, ∃ d, x.answer = .ok d := by
    intro x hx
    obtain ⟨b, hbefore⟩ := hcourse.clock_before_onWhole htime hclock x hx
    have hverdict : ∃ d, (Strategy.ping net config r.service x.before).1 = .ok d :=
      Strategy.exists_verdict_of_ping hendpoint htarget hnet hfaults hbefore
    obtain ⟨d, hd⟩ := hverdict
    have hattempt := congrArg Prod.fst (hcourse.attempt_of_mem hx).2.2
    exact ⟨d, hattempt.symm.trans hd⟩
  -- The timer serves the probe, which is therefore ended by time, the cancel flag or an attempt.
  have hends := hcourse.ended (hcourse.serves_onWhole htime hclock)
  rcases hends with ⟨-, hresult | hresult⟩ | ⟨earlier, x, rfl, -, hresult⟩
  · simp [Report.outcome, hresult]
  · simp [Report.outcome, hresult]
  · obtain ⟨d, hd⟩ := hanswer x (by simp)
    rw [Probe.Attempt.result?, hd] at hresult
    obtain ⟨o, ho, hresult⟩ := Option.map_eq_some_iff.mp hresult
    rw [Report.outcome, ← hresult]
    rintro rfl
    exact d.outcome?_ne_failed ho

theorem outcome_ne_failed_of_cancelled (hduration : 1 ≤ duration)
    (hflag : (initial k).isCancelled = true) : r.outcome ≠ .failed := by
  obtain ⟨rfl, made, hcourse⟩ := (runWorker_onWhole_iff hclock).mp hrun
  have hwatch := Timer.isRunning_onWhole hclock c duration interval
  rw [decide_eq_true (by omega)] at hwatch
  obtain ⟨-, hresult, -⟩ := hcourse.unique (.cancelled hwatch hflag)
  rw [Report.outcome, hresult]
  simp

/-- A worker fails exactly where its attempts have nothing to go by and it makes its first one. -/
theorem outcome_eq_failed_iff (hendpoint : config.endpoint? k = some endpoint)
    (hnet : net.TakesTime) (hfaults : net.RaisesRequests) (hduration : 1 ≤ duration) :
    r.outcome = .failed ↔
      (1000 * Number.Binary64.overflow ≤ config.timeout.natAbs ∨ ¬ FitsAddress endpoint.port) ∧
        (initial k).isCancelled = false := by
  rw [← Strategy.exists_target_error_iff]
  cases hflag : (initial k).isCancelled with
  | true =>
    -- The flag is looked at before the first attempt.
    have hne := outcome_ne_failed_of_cancelled hrun hclock hduration hflag
    exact iff_of_false hne (by simp)
  | false =>
    cases htarget : Strategy.target config endpoint with
    | error f =>
      have hresult := (report_of_target_eq_error hrun hclock hendpoint htarget hduration hflag).1
      exact iff_of_true (by rw [Report.outcome, hresult]) (by simp)
    | ok t =>
      have hne := outcome_ne_failed_of_target hrun hclock hendpoint htarget hnet hfaults
      exact iff_of_false hne (by simp)

end CheckAll

/-! ## The gate -/

namespace Gate

variable {completion : List String → List String} {config : Config} {net : Http.Network}
  {initial : String → Worker} {duration interval : Int}

/-- **When workers fail.** The configuration was accepted and its endpoints are complete, services
are pinged, the network raises nothing but faults of requests, time is counted in whole seconds from
any start on, and workers may be told to stop at any time. Then the gate has an answer, in which a
worker failed exactly where it was not told to stop from the beginning and the time limit is no less
than a thousand times the least number that is rounded to infinity, or the port of its service has
more digits than are written. -/
theorem failed_iff {d : Data} (hcompletion : ∀ l, (completion l).Perm l)
    (hvalid : Config.validate d = .ok config)
    (hgap : config.firstGap? requiredServices = none) (hnet : net.TakesTime)
    (hfaults : net.RaisesRequests)
    (hclock : ∀ k ∈ requiredServices, ∃ c : Int, (initial k).clock = .whole c)
    (hduration : 1 ≤ duration) (hinterval : 1 ≤ interval) (clients : Directory) :
    ∃ a, check completion (Pace.mk (.whole duration) (.whole interval)).factory net config none
        initial clients = some a ∧
      (∀ k ∈ requiredServices, ∃ r ∈ a.reports, r.service = k) ∧
      ∀ r ∈ a.reports, r.outcome = .failed ↔
        (((1000 * Number.Binary64.overflow : Nat) : Int) ≤ config.timeout ∨
          ¬ FitsAddress (config.endpoint r.service).port) ∧
        (initial r.service).isCancelled = false := by
  obtain ⟨a, report, hcheck, hrun, hmem⟩ :=
    exists_check_onWhole config none duration hnet (by simp) hclock hinterval hcompletion hgap clients
  have hservice : ∀ k ∈ requiredServices, (report k).service = k :=
    fun k hk => (CheckAll.exists_ran_of_runWorker (hrun k hk)).1
  refine ⟨a, hcheck, fun k hk => ⟨report k, (hmem _).mpr ⟨k, hk, rfl⟩, hservice k hk⟩, ?_⟩
  -- What remains is about one worker. Its endpoint is there since no setting is missing.
  intro r hr
  obtain ⟨k, hk, rfl⟩ := (hmem r).mp hr
  obtain ⟨c, hc⟩ := hclock k hk
  have hendpoint := Config.endpoint?_of_host (Config.firstGap?_eq_none_iff.mp hgap k hk).1
  have hpositive := Config.one_le_timeout hvalid
  rw [hservice k hk,
    CheckAll.outcome_eq_failed_iff (hrun k hk) hc hendpoint hnet hfaults hduration]
  -- The time limit is positive, so that its size is its value.
  refine and_congr_left fun _ => or_congr_left ?_
  omega

/-! ## What is accepted -/

theorem promptAnswers_raisesRequests : promptAnswers.RaisesRequests := fun _ _ _ h => by cases h

/-- With the time limit that is valid by default, and a port that can be written, no worker
fails. -/
theorem failed_iff_dataAt :
    ∃ a, Config.validate (dataAt 5000 2).toData = .ok (dataAt 5000 2) ∧
      check List.reverse (Pace.mk (.whole 5) (.whole 1)).factory promptAnswers (dataAt 5000 2) none
        (fun _ => {}) {} = some a ∧ ∀ r ∈ a.reports, r.outcome ≠ .failed := by
  have hsmall : ¬ ((1000 * Number.Binary64.overflow : Nat) : Int) ≤ 5000 := by
    obtain ⟨hlower, -⟩ := Number.Binary64.overflow_bounds
    have hten : Number.tenPow 308 = 10 * Number.tenPow 307 := Number.tenPow_succ 307
    have hpos := Number.tenPow_pos 307
    omega
  have hvalid : Config.validate (dataAt 5000 2).toData = .ok (dataAt 5000 2) :=
    validate_dataAt (by decide) (by decide)
  have hfits : (dataAt 5000 2).FitsAddresses := by decide
  have hduration : (1 : Int) ≤ 5 := by decide
  obtain ⟨a, hcheck, -, hfailed⟩ := failed_iff List.reverse_perm hvalid (by decide)
    promptAnswers_takesTime promptAnswers_raisesRequests fresh_clock hduration (le_refl 1) {}
  refine ⟨a, hvalid, hcheck, fun r hr h => ?_⟩
  have hservice := (exists_ran_of_check List.reverse_perm hcheck hr).1
  rcases ((hfailed r hr).mp h).1 with hlarge | hlong
  · exact hsmall hlarge
  · exact hlong (hfits r.service hservice)

/-- The worker of the data fails where the time limit or its port is too large. -/
theorem exists_failed_of_large {config : Config} (hgap : config.firstGap? requiredServices = none)
    (hlarge : 1000 * Number.Binary64.overflow ≤ config.timeout.natAbs ∨
      ¬ FitsAddress (config.endpoint dataService).port) :
    ∃ a, check List.reverse (Pace.mk (.whole 5) (.whole 1)).factory promptAnswers config none
        (fun _ => {}) {} = some a ∧
      ∃ r ∈ a.reports, r.service = dataService ∧ r.outcome = .failed := by
  have hduration : (1 : Int) ≤ 5 := by decide
  have hdata : dataService ∈ requiredServices := by decide
  have hendpoint := Config.endpoint?_of_host (Config.firstGap?_eq_none_iff.mp hgap _ hdata).1
  obtain ⟨a, report, hcheck, hrun, hmem⟩ := exists_check_onWhole config none 5
    promptAnswers_takesTime (by simp) fresh_clock (le_refl 1) List.reverse_perm hgap {}
  have hservice := (CheckAll.exists_ran_of_runWorker (hrun dataService hdata)).1
  have hfailed := (CheckAll.outcome_eq_failed_iff (hrun dataService hdata) rfl hendpoint
    promptAnswers_takesTime promptAnswers_raisesRequests hduration).mpr ⟨hlarge, rfl⟩
  exact ⟨a, hcheck, _, (hmem _).mpr ⟨dataService, hdata, rfl⟩, hservice, hfailed⟩

/-- **A configuration that is accepted can make a worker fail**, although its endpoints are complete
and every request would be answered with success: one with a time limit that is too large, and one
with the default time limit and a port that is too large. -/
theorem exists_failed :
    promptAnswers.TakesTime ∧ promptAnswers.RaisesRequests ∧
      ∀ config ∈ [dataAt (Number.tenPow 400) 2, dataAt 5000 longPort],
        Config.validate config.toData = .ok config ∧
        config.firstGap? requiredServices = none ∧
        ∃ a, check List.reverse (Pace.mk (.whole 5) (.whole 1)).factory promptAnswers config none
            (fun _ => {}) {} = some a ∧
          ∃ r ∈ a.reports, r.service = dataService ∧ r.outcome = .failed := by
  refine ⟨promptAnswers_takesTime, promptAnswers_raisesRequests, List.forall_mem_cons.mpr
    ⟨?timeout, List.forall_mem_singleton.mpr ?port⟩⟩
  case timeout =>
    have hpositive : (1 : Int) ≤ Number.tenPow 400 := by
      have hpos := Number.tenPow_pos 400
      omega
    -- Only the size of the time limit matters, so that its double is never computed.
    have hlarge : 1000 * Number.Binary64.overflow ≤ (Number.tenPow 400 : Int).natAbs := by
      rw [Int.natAbs_natCast]
      exact Number.Binary64.overflow_bounds.2
    have hgap := Config.firstGap?_eq_none_iff.mpr
      (complete_dataAt (Number.tenPow 400) (show (2 : Int) ≠ 0 by decide))
    exact ⟨validate_dataAt hpositive (by decide), hgap, exists_failed_of_large hgap (.inl hlarge)⟩
  case port =>
    have hgap := Config.firstGap?_eq_none_iff.mpr complete_longPort
    exact ⟨validate_longPort, hgap, exists_failed_of_large hgap (.inr not_fitsAddress_longPort)⟩

end Gate

end StartupGate
