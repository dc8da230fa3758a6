import Mathlib.Algebra.Order.Floor.Div
import StartupGate.Proofs.Check.Ping
import StartupGate.Proofs.Gate.Attempts
import StartupGate.Proofs.Gate.Timeliness
import StartupGate.Proofs.Probe.Timeline
/-!
# Recovery before the deadline

Services that are pinged without delay are asked at the start and then once in every interval. So a
service that answers its request number `n`, counted from zero, as the first one with success, is
found available exactly when `n` intervals are over before the deadline, and after `n + 1` requests
with a sleep between any two. In all other cases its worker times out, after as many requests and
sleeps as intervals begin before the deadline. `Gate.check_recovers` says so for the workers of a
check of the gate, apart from those that have no address to ping: they fail before the first request
(`CheckAll.Report.Unaddressed`, `Gate.exists_unaddressed`).
-/

namespace StartupGate

/-! ## Workers between requests -/

/-- The state of a worker that began at `start` and has since pinged a service `requests` times and
slept `sleeps` times for the interval. No other time went by, and nothing told it to stop. -/
structure Worker.Polled (config : Config) (service : String) (timeout : Float) (start : Int)
    (interval requests sleeps : Nat) (w : Worker) : Prop where
  clock : w.clock = .whole (start + sleeps * interval)
  unflagged : w.flagged = false
  unplanned : w.cancelAt = none
  calls : w.calls = List.replicate requests (config.pingCall service timeout)
  requests : w.requests.count (config.pingUrl service) = requests
  sleeps : w.sleeps = sleeps

variable {net : Http.Network} {config : Config} {service : String} {timeout : Float} {start : Int}
  {duration interval : Nat}

section Polled

variable {requests sleeps : Nat} {w : Worker}

theorem Worker.polled_fresh (config : Config) (service : String) (timeout : Float) (start : Int)
    (interval : Nat) :
    Worker.Polled config service timeout start interval 0 0 { clock := .whole start } where
  clock := by simp
  unflagged := rfl
  unplanned := rfl
  calls := rfl
  requests := rfl
  sleeps := rfl

theorem Worker.Polled.isCancelled
    (h : w.Polled config service timeout start interval requests sleeps) :
    w.isCancelled = false := by
  rw [Worker.isCancelled, h.unflagged, h.unplanned]
  rfl

theorem Worker.Polled.exists_ping
    (h : w.Polled config service timeout start interval requests sleeps)
    (hpings : Strategy.PingsPromptly net config service timeout) :
    ∃ u, Strategy.ping net config service w
        = (.ok (net (config.pingUrl service) requests).verdict, u) ∧
      u.Polled config service timeout start interval (requests + 1) sleeps := by
  obtain ⟨logs, hping⟩ := hpings.exists_ping_eq h.clock
  rw [h.requests] at hping
  exact ⟨_, hping,
    { clock := h.clock
      unflagged := h.unflagged
      unplanned := h.unplanned
      calls := by rw [h.calls, List.replicate_succ']
      requests := by rw [Tally.count_bump, h.requests, if_pos rfl]
      sleeps := h.sleeps }⟩

theorem Worker.Polled.exists_sleep
    (h : w.Polled config service timeout start interval requests sleeps) :
    ∃ u, Worker.sleep (.whole interval) w = (.ok (), u) ∧
      u.Polled config service timeout start interval requests (sleeps + 1) :=
  ⟨_, Worker.sleep_whole h.clock interval,
    { clock := by push_cast; rw [Int.add_mul, Int.one_mul, Int.add_assoc]
      unflagged := h.unflagged
      unplanned := h.unplanned
      calls := h.calls
      requests := h.requests
      sleeps := by rw [h.sleeps] }⟩

theorem Worker.Polled.close (h : w.Polled config service timeout start interval requests sleeps)
    (o : Outcome) :
    (Probe.close service o w).Polled config service timeout start interval requests sleeps := by
  cases o <;> exact ⟨h.clock, h.unflagged, h.unplanned, h.calls, h.requests, h.sleeps⟩

end Polled

/-! ## The timeline of pings -/

namespace Probe.Timeline

/-- The timeline of a worker that is fresh at the start of its timer and pings a service without
delay. -/
structure Pings (t : Timeline) (net : Http.Network) (config : Config) (timeout : Float)
    (duration interval : Nat) : Prop where
  promptly : Strategy.PingsPromptly net config t.service timeout
  strategy : t.strategy = Strategy.select net config none
  duration : t.duration = duration
  interval : t.interval = interval
  first : t.first = { clock := .whole t.start }

variable {t : Timeline} (h : t.Pings net config timeout duration interval)
include h

/-- An attempt sends one request more, and has the verdict of the exchange with its number. -/
theorem Pings.polled_after {i : Nat}
    (hbefore : (t.before i).Polled config t.service timeout t.start interval i i) :
    (t.attempt i).answer = .ok (net (config.pingUrl t.service) i).verdict ∧
      (t.attempt i).after.Polled config t.service timeout t.start interval (i + 1) i := by
  obtain ⟨u, hping, hu⟩ := hbefore.exists_ping h.promptly
  have hattempt : t.attempt i
      = ⟨t.before i, .ok (net (config.pingUrl t.service) i).verdict, u⟩ := by
    rw [attempt, h.strategy, Strategy.select, hping]
  rw [hattempt]
  exact ⟨rfl, hu⟩

/-- Before an attempt as many requests and sleeps are over as its number says. -/
theorem Pings.polled_before (i : Nat) :
    (t.before i).Polled config t.service timeout t.start interval i i := by
  -- The request of an attempt and the sleep after it keep the two counts in step.
  induction i with
  | zero =>
    rw [before, h.first]
    exact Worker.polled_fresh ..
  | succ i ih =>
    obtain ⟨-, hafter⟩ := h.polled_after ih
    obtain ⟨u, hsleep, hu⟩ := hafter.exists_sleep
    have hnext : t.before (i + 1) = u := by
      rw [before_succ hafter.clock, h.interval]
      exact (Prod.mk.inj ((Worker.sleep_whole hafter.clock interval).symm.trans hsleep)).2
    rw [hnext]
    exact hu

theorem Pings.steady : t.Steady where
  whole := ⟨t.start, by rw [h.first]⟩
  passes := fun i =>
    Worker.later_of_clock_eq
      ((h.polled_after (h.polled_before i)).2.clock.trans (h.polled_before i).clock.symm)
  stays := by
    intro i hflag
    rw [(h.polled_before i).isCancelled] at hflag
    cases hflag

/-- An attempt is in time when as many intervals as its number says are shorter than the
duration. -/
theorem Pings.inTime_iff {i : Nat} : t.InTime i ↔ i * interval < duration := by
  have hclock := (h.polled_before i).clock
  have hlt : t.start + i * interval < t.start + t.duration ↔ i * interval < duration := by
    rw [Int.add_lt_add_iff_left, h.duration]
    exact_mod_cast Iff.rfl
  rw [← hlt]
  constructor
  · rintro ⟨c, hc, hearly⟩
    obtain rfl := Seconds.whole.inj (hclock.symm.trans hc)
    exact hearly
  · exact fun hearly => ⟨_, hclock, hearly⟩

/-- The probe goes on after an attempt in time that does not succeed. -/
theorem Pings.goesOn {i : Nat} (hearly : i * interval < duration)
    (hfails : (net (config.pingUrl t.service) i).succeeds = false) : t.GoesOn i := by
  have hbefore := h.polled_before i
  have hanswer := (h.polled_after hbefore).1
  rw [Http.Exchange.verdict, if_neg (by simp [hfails])] at hanswer
  exact ⟨h.inTime_iff.mpr hearly, hbefore.isCancelled, .unavailable, hanswer, by simp⟩

/-- Where the exchange number `n` is the first that succeeds, and `n` intervals are shorter than the
duration, the service is found available by the request of this number. -/
theorem Pings.exists_course_available {n : Nat} (hearly : n * interval < duration)
    (hsucceeds : (net (config.pingUrl t.service) n).succeeds = true)
    (hfails : ∀ i < n, (net (config.pingUrl t.service) i).succeeds = false) :
    ∃ made last, Course t.service t.watch t.strategy t.first made (.ok .available) last ∧
      last.Polled config t.service timeout t.start interval (n + 1) n := by
  -- Requests before that one are in time too, since the deadline is still further off.
  have hbefore : ∀ i < n, t.GoesOn i := by
    intro i hi
    have hle : i * interval ≤ n * interval := Nat.mul_le_mul_right interval hi.le
    exact h.goesOn (hle.trans_lt hearly) (hfails i hi)
  obtain ⟨hanswer, hafter⟩ := h.polled_after (h.polled_before n)
  rw [Http.Exchange.verdict, if_pos hsucceeds] at hanswer
  have hdue : t.Due n :=
    ⟨fun j hj => (hbefore j hj).2.2, h.inTime_iff.mpr hearly, (h.polled_before n).isCancelled⟩
  have hending := Ending.available hdue hanswer
  exact ⟨_, _, hending.course_from h.steady hbefore (Nat.zero_le n), hafter⟩

/-- Where no exchange in time succeeds, the probe times out after as many requests as intervals
begin before the deadline. -/
theorem Pings.exists_course_timedOut (hinterval : 0 < interval)
    (hfails : ∀ i, i * interval < duration →
      (net (config.pingUrl t.service) i).succeeds = false) :
    ∃ made last, Course t.service t.watch t.strategy t.first made (.ok .timedOut) last ∧
      last.Polled config t.service timeout t.start interval (duration ⌈/⌉ interval)
        (duration ⌈/⌉ interval) := by
  -- The number of intervals that begin before the deadline is the ceiling of the quotient.
  have hceil : ∀ i, i < duration ⌈/⌉ interval ↔ i * interval < duration := by
    intro i
    rw [← not_le, ceilDiv_le_iff_le_mul hinterval, not_le, Nat.mul_comm]
  have hbefore : ∀ i < duration ⌈/⌉ interval, t.GoesOn i := by
    intro i hi
    have hearly := (hceil i).mp hi
    exact h.goesOn hearly (hfails i hearly)
  have hlate : ¬ t.InTime (duration ⌈/⌉ interval) := by
    rw [h.inTime_iff, ← hceil]
    exact lt_irrefl _
  have hending := Ending.timedOut hlate
  exact ⟨_, _, hending.course_from h.steady hbefore (Nat.zero_le _),
    (h.polled_before _).close .timedOut⟩

end Probe.Timeline

/-- Before a deadline that the recovery does not meet no exchange succeeds. -/
theorem Http.fails_of_late {scripts : List (String × List Http.Exchange)} {url : String}
    (hlate : ∀ n ∈ Http.recovery? scripts url, duration ≤ n * interval) {i : Nat}
    (hearly : i * interval < duration) :
    (Http.Network.ofScripts scripts url i).succeeds = false := by
  cases hrecovery : Http.recovery? scripts url with
  | none => exact Http.recovery?_eq_none_iff.mp hrecovery i
  | some n =>
    have hlt : i * interval < n * interval := hearly.trans_le (hlate n hrecovery)
    exact (Http.recovery?_eq_some_iff.mp hrecovery).2 i (Nat.lt_of_mul_lt_mul_right hlt)

/-! ## Workers of a check -/

namespace CheckAll

/-- A worker came to an outcome, after sending a request so many times and sleeping so often. -/
structure Report.Made (r : Report) (o : Outcome) (call : Call) (requests sleeps : Nat) : Prop where
  result : r.result = .ok o
  calls : r.worker.calls = List.replicate requests call
  sleeps : r.worker.sleeps = sleeps

/-- What the number of the first exchange that succeeds, if there is one, foretells of a worker. -/
structure Report.Foretold (r : Report) (recovery : Option Nat) (call : Call)
    (duration interval : Nat) : Prop where
  inTime : ∀ n ∈ recovery, n * interval < duration → r.Made .available call (n + 1) n
  late : (∀ n ∈ recovery, duration ≤ n * interval) →
    r.Made .timedOut call (duration ⌈/⌉ interval) (duration ⌈/⌉ interval)

variable {r : Report} {call : Call} {duration interval : Nat} {initial : String → Worker}

/-- A worker finds its service available exactly when the recovery comes before the deadline. -/
theorem Report.Foretold.available_iff {recovery : Option Nat}
    (h : r.Foretold recovery call duration interval) :
    r.result = .ok .available ↔ ∃ n ∈ recovery, n * interval < duration := by
  constructor
  · intro havailable
    -- Otherwise the worker would have timed out.
    by_contra hnone
    have hlate : ∀ n ∈ recovery, duration ≤ n * interval := by
      intro n hn
      exact not_lt.mp fun hearly => hnone ⟨n, hn, hearly⟩
    rw [(h.late hlate).result] at havailable
    cases havailable
  · rintro ⟨n, hn, hearly⟩
    exact (h.inTime n hn hearly).result

/-- A course of the probe of a fresh worker makes its report. -/
theorem runWorker_of_polled {strategy : Strategy} {config : Config} {k : String} {timeout : Float}
    {start : Int} {o : Outcome} {made : List Probe.Attempt} {last : Worker} {requests sleeps : Nat}
    (hfresh : initial k = { clock := .whole start })
    (hcourse : Probe.Course k (Timer.onWhole start duration interval).watch strategy (initial k)
      made (.ok o) last)
    (hpolled : last.Polled config k timeout start interval requests sleeps) :
    runWorker (Pace.mk (.whole duration) (.whole interval)).factory strategy initial k
        = some ⟨k, .ok o, last⟩ ∧
      (Report.mk k (.ok o) last).Made o (config.pingCall k timeout) requests sleeps := by
  refine ⟨runWorker_factory_iff.mpr ⟨rfl, made, ?_⟩, rfl, hpolled.calls, hpolled.sleeps⟩
  rw [Pace.start, hfresh]
  rwa [hfresh] at hcourse

/-- The report of a fresh worker that pings its service without delay is as its script foretells. -/
theorem exists_report_foretold {scripts : List (String × List Http.Exchange)} {config : Config}
    {k : String} {timeout : Float} {start : Int}
    (hpromptly : Strategy.PingsPromptly (.ofScripts scripts) config k timeout)
    (hfresh : initial k = { clock := .whole start }) (hinterval : 0 < interval) :
    ∃ r, runWorker (Pace.mk (.whole duration) (.whole interval)).factory
        (Strategy.select (.ofScripts scripts) config none) initial k = some r ∧ r.service = k ∧
      r.Foretold (Http.recovery? scripts (config.pingUrl k)) (config.pingCall k timeout) duration
        interval := by
  have hpings : (Probe.Timeline.mk k (Strategy.select (.ofScripts scripts) config none) start
      duration interval (initial k)).Pings (.ofScripts scripts) config timeout duration interval :=
    ⟨hpromptly, rfl, rfl, rfl, hfresh⟩
  by_cases hintime : ∃ n ∈ Http.recovery? scripts (config.pingUrl k), n * interval < duration
  · obtain ⟨n, hn, hearly⟩ := hintime
    obtain ⟨hsucceeds, hfails⟩ := Http.recovery?_eq_some_iff.mp hn
    obtain ⟨made, last, hcourse, hpolled⟩ :=
      hpings.exists_course_available hearly hsucceeds hfails
    obtain ⟨hrun, hmade⟩ := runWorker_of_polled hfresh hcourse hpolled
    -- A script has one recovery, and this one is not late.
    refine ⟨_, hrun, rfl, fun m hm _ => ?_, fun hlate => ?_⟩
    · obtain rfl : n = m := Option.some.inj (hn.symm.trans hm)
      exact hmade
    · exact absurd hearly (not_lt.mpr (hlate n hn))
  · have hlate : ∀ n ∈ Http.recovery? scripts (config.pingUrl k), duration ≤ n * interval := by
      intro n hn
      exact not_lt.mp fun hearly => hintime ⟨n, hn, hearly⟩
    obtain ⟨made, last, hcourse, hpolled⟩ :=
      hpings.exists_course_timedOut hinterval fun i hearly => Http.fails_of_late hlate hearly
    obtain ⟨hrun, hmade⟩ := runWorker_of_polled hfresh hcourse hpolled
    exact ⟨_, hrun, rfl, fun n hn hearly => absurd ⟨n, hn, hearly⟩ hintime, fun _ => hmade⟩

/-- A worker failed because the address of its service could not be written, before it sent a
request. -/
structure Report.Unaddressed (r : Report) : Prop where
  result : r.result = .error .tooManyDigits
  calls : r.worker.calls = []
  sleeps : r.worker.sleeps = 0

theorem unaddressed_of_runWorker {duration interval : Int} {config : Config} {k : String}
    {start : Int}
    (hrun : runWorker (Pace.mk (.whole duration) (.whole interval)).factory
      (Strategy.select net config none) initial k = some r)
    (hfresh : initial k = { clock := .whole start })
    (hhost : (config.endpoint k).host ≠ "") (hlong : ¬ FitsAddress (config.endpoint k).port)
    (hduration : 1 ≤ duration) : r.Unaddressed := by
  have hclock : (initial k).clock = .whole start := by rw [hfresh]
  have hflag : (initial k).isCancelled = false := by
    rw [hfresh]
    rfl
  obtain ⟨hresult, hworker⟩ := report_of_target_eq_error hrun hclock
    (Config.endpoint?_of_host hhost) (Strategy.target_of_not_fits hlong) hduration hflag
  rw [hfresh] at hworker
  exact ⟨hresult, by rw [hworker]; rfl, by rw [hworker]; rfl⟩

/-- A worker without an address never finds its service available, whatever the deadline. -/
theorem not_available_of_runWorker {timers : TimerFactory} {config : Config} {k : String}
    (hrun : runWorker timers (Strategy.select net config none) initial k = some r)
    (hhost : (config.endpoint k).host ≠ "") (hlong : ¬ FitsAddress (config.endpoint k).port) :
    r.result ≠ .ok .available := by
  intro havailable
  obtain ⟨rfl, made, hran⟩ := exists_ran_of_runWorker hrun
  obtain ⟨x, hx, hanswer, -⟩ := hran.exists_settling havailable
  -- Each of its attempts raises.
  have hraised : Strategy.select net config none r.service x.before = (.error .tooManyDigits, _) :=
    Strategy.ping_of_target_eq_error (Config.endpoint?_of_host hhost)
      (Strategy.target_of_not_fits hlong)
  have hattempt := congrArg Prod.fst (hraised.symm.trans (hran.attempt_of_mem hx))
  cases hattempt.trans hanswer

end CheckAll

/-! ## The gate -/

namespace Gate

variable {scripts : List (String × List Http.Exchange)} {config : Config} {timeout : Float}
  {initial : String → Worker} {interval : Nat}

/-- What becomes of the worker of a required service: it recovers as its script foretells, or it has
no address. -/
theorem exists_report_recovers
    (hcomplete : ∀ k ∈ requiredServices,
      (config.endpoint k).host ≠ "" ∧ (config.endpoint k).port ≠ 0)
    (htimeout : Consul.secondsOfMillis config.timeout = .ok timeout)
    (hscripts : ∀ p ∈ scripts, ∀ e ∈ p.2, e.Prompt)
    (hfresh : ∀ k ∈ requiredServices, ∃ start : Int, initial k = { clock := .whole start })
    (hinterval : 0 < interval) (duration : Nat) {k : String} (hk : k ∈ requiredServices) :
    ∃ r, CheckAll.runWorker (Pace.mk (.whole duration) (.whole interval)).factory
        (Strategy.select (.ofScripts scripts) config none) initial k = some r ∧ r.service = k ∧
      (FitsAddress (config.endpoint k).port →
        r.Foretold (Http.recovery? scripts (config.pingUrl k)) (config.pingCall k timeout)
          duration interval) ∧
      (¬ FitsAddress (config.endpoint k).port → 0 < duration → r.Unaddressed) ∧
      (r.result = .ok .available ↔ FitsAddress (config.endpoint k).port ∧
        ∃ n ∈ Http.recovery? scripts (config.pingUrl k), n * interval < duration) := by
  obtain ⟨start, hstart⟩ := hfresh k hk
  have hhost := (hcomplete k hk).1
  by_cases hfits : FitsAddress (config.endpoint k).port
  · have hpromptly : Strategy.PingsPromptly (.ofScripts scripts) config k timeout :=
      ⟨hhost, hfits, htimeout, Http.Network.ofScripts_prompt hscripts _⟩
    obtain ⟨r, hrun, hservice, hforetold⟩ :=
      CheckAll.exists_report_foretold hpromptly hstart hinterval
    refine ⟨r, hrun, hservice, fun _ => hforetold, fun hlong => absurd hfits hlong, ?_⟩
    rw [hforetold.available_iff, and_iff_right hfits]
  · -- Without an address no request is sent, but the worker has to end all the same.
    have hnet : (Http.Network.ofScripts scripts).TakesTime :=
      Http.Network.ofScripts_takesTime fun p hp e he => ⟨0, (hscripts p hp e he).elapsed⟩
    have hclock : (initial k).clock = .whole start := by rw [hstart]
    obtain ⟨r, hrun⟩ := CheckAll.exists_runWorker_onWhole duration hclock
      (@Strategy.select_takesTime _ hnet config none (by simp) k) (by omega : (1 : Int) ≤ interval)
    refine ⟨r, hrun, (CheckAll.exists_ran_of_runWorker hrun).1, fun h => absurd h hfits,
      fun _ hduration => CheckAll.unaddressed_of_runWorker hrun hstart hhost hfits (by omega), ?_⟩
    exact iff_of_false (CheckAll.not_available_of_runWorker hrun hhost hfits) fun h => hfits h.1

/-- **Services recover before the deadline or not at all.** The required services have complete
endpoints and are pinged by fresh workers that nothing cancels, over scripts whose items are replies
or faults of requests and take no time. Let item `n` of the script of a service, counted from zero,
be the first that succeeds, if there is one. Where `n` intervals are shorter than the duration, the
worker finds the service available after `n + 1` requests and `n` sleeps. Otherwise it times out
after as many requests, and as many sleeps, as intervals begin before the deadline. The gate opens
exactly when all required services recover in time, and stays shut otherwise.

This holds of services with a port that fits an address. The worker of any other one fails before its
first request, and the gate stays shut. -/
theorem check_recovers {completion : List String → List String}
    (hcompletion : ∀ l, (completion l).Perm l)
    (hcomplete : ∀ k ∈ requiredServices,
      (config.endpoint k).host ≠ "" ∧ (config.endpoint k).port ≠ 0)
    (htimeout : Consul.secondsOfMillis config.timeout = .ok timeout)
    (hscripts : ∀ p ∈ scripts, ∀ e ∈ p.2, e.Prompt)
    (hfresh : ∀ k ∈ requiredServices, ∃ start : Int, initial k = { clock := .whole start })
    (hinterval : 0 < interval) (duration : Nat) (clients : Directory) :
    ∃ a, check completion (Pace.mk (.whole duration) (.whole interval)).factory
        (.ofScripts scripts) config none initial clients = some a ∧
      (∀ k ∈ requiredServices, ∃ r ∈ a.reports, r.service = k ∧
        (FitsAddress (config.endpoint k).port →
          r.Foretold (Http.recovery? scripts (config.pingUrl k)) (config.pingCall k timeout)
            duration interval) ∧
        (¬ FitsAddress (config.endpoint k).port → 0 < duration → r.Unaddressed)) ∧
      (a.ready = .ok true ↔ ∀ k ∈ requiredServices, FitsAddress (config.endpoint k).port ∧
        ∃ n ∈ Http.recovery? scripts (config.pingUrl k), n * interval < duration) ∧
      (a.ready ≠ .ok true → a.ready = .ok false) := by
  have hworker := @exists_report_recovers _ _ _ _ _ hcomplete htimeout hscripts hfresh hinterval
    duration
  have hgap := Config.firstGap?_eq_none_iff.mpr hcomplete
  have hends : ∀ k ∈ requiredServices, ∃ result,
      CheckAll.ComesTo (Pace.mk (.whole duration) (.whole interval)).factory
        (Strategy.select (.ofScripts scripts) config none) initial k result := by
    intro k hk
    obtain ⟨r, hrun, -⟩ := hworker hk
    exact ⟨r.result, (CheckAll.isReport_of_runWorker hrun).comesTo⟩
  obtain ⟨all, hcheck, hverdict⟩ := exists_check_eq_conclude hcompletion hgap hends clients
  -- All services are found available exactly when all of them recover in time.
  have hrecovers : all.ready = true ↔ ∀ k ∈ requiredServices,
      FitsAddress (config.endpoint k).port ∧
        ∃ n ∈ Http.recovery? scripts (config.pingUrl k), n * interval < duration := by
    rw [hverdict]
    refine forall₂_congr fun k hk => ?_
    obtain ⟨r, hrun, -, -, -, havailable⟩ := hworker hk
    rw [← havailable]
    have hcomes := (CheckAll.isReport_of_runWorker hrun).comesTo
    exact ⟨fun h => hcomes.unique h, fun hresult => hresult ▸ hcomes⟩
  have hfits : all.ready = true → config.FitsAddresses :=
    fun hready k hk => (hrecovers.mp hready k hk).1
  refine ⟨_, hcheck, fun k hk => ?_, ?_, fun hclosed => ?_⟩
  · -- The report in the answer is that of the worker run alone.
    obtain ⟨r, hr, hrun⟩ := exists_report_of_check hcompletion hgap hcheck hk
    obtain ⟨r', hrun', hservice, hforetold, hunaddressed, -⟩ := hworker hk
    obtain rfl := Option.some.inj (hrun'.symm.trans hrun)
    exact ⟨r', hr, hservice, hforetold, hunaddressed⟩
  · rw [conclude_opens_iff, and_iff_left_of_imp hfits, hrecovers]
  · -- Workers that find their services available have addresses, so that no fault is left.
    rw [conclude_shut_iff, Bool.eq_false_iff]
    exact fun hready => hclosed (conclude_opens_iff.mpr ⟨hready, hfits hready⟩)

/-- The metadata recover with the second request, the data with the third one. -/
def recovering : List (String × List Http.Exchange) :=
  [("http://m:1/api/v2/ping",
     [{ answer := .ok { status := 503 } }, { answer := .ok { status := 200 } }]),
   ("http://d:2/api/v2/ping",
     [{ answer := .error (.request "ConnectTimeout" none) }, { answer := .ok { status := 503 } },
      { answer := .ok { status := 204 } }])]

/-- Two intervals last until the deadline, so that the third request would come too late. -/
theorem check_recovers_tooLate :
    (∀ p ∈ recovering, ∀ e ∈ p.2, e.Prompt) ∧
      ∃ timeout a, Consul.secondsOfMillis bothConfigured.timeout = .ok timeout ∧
        check List.reverse (Pace.mk (.whole 6) (.whole 3)).factory (.ofScripts recovering)
          bothConfigured none (fun _ => {}) {} = some a ∧
        (∃ r ∈ a.reports, r.service = metadataService ∧
          r.Made .available (bothConfigured.pingCall metadataService timeout) 2 1) ∧
        (∃ r ∈ a.reports, r.service = dataService ∧
          r.Made .timedOut (bothConfigured.pingCall dataService timeout) 2 2) ∧
        a.ready = .ok false := by
  have hreply : ∀ status, (Http.Exchange.mk (.whole 0) false (.ok ⟨status, ""⟩)).Prompt :=
    fun _ => ⟨rfl, rfl, by simp⟩
  have hscripts : ∀ p ∈ recovering, ∀ e ∈ p.2, e.Prompt := by
    simp only [recovering, List.forall_mem_cons]
    refine ⟨⟨hreply _, hreply _, by simp⟩, ⟨⟨rfl, rfl, ?_⟩, hreply _, hreply _, by simp⟩, by simp⟩
    simp [Fault.isRequest]
  obtain ⟨timeout, htimeout⟩ : ∃ t, Consul.secondsOfMillis bothConfigured.timeout = .ok t :=
    ⟨_, rfl⟩
  have hfresh : ∀ k ∈ requiredServices,
      ∃ start : Int, (fun _ => {} : String → Worker) k = { clock := .whole start } :=
    fun _ _ => ⟨0, rfl⟩
  obtain ⟨a, hcheck, hworkers, hopens, hshut⟩ := check_recovers
    List.reverse_perm (by decide) htimeout hscripts hfresh (show 0 < 3 by decide) 6 {}
  refine ⟨hscripts, timeout, a, htimeout, hcheck, ?_, ?_, ?_⟩
  · obtain ⟨r, hr, hservice, hforetold, -⟩ := hworkers metadataService (by decide)
    exact ⟨r, hr, hservice, (hforetold (by decide)).inTime 1 (by decide) (by decide)⟩
  · obtain ⟨r, hr, hservice, hforetold, -⟩ := hworkers dataService (by decide)
    exact ⟨r, hr, hservice, (hforetold (by decide)).late (by decide)⟩
  · refine hshut ?_
    rw [ne_eq, hopens]
    decide

/-- **A service that would recover at once may have no address**, although its configuration is
accepted and its endpoint complete: its worker fails without a request, and the gate stays shut. -/
theorem exists_unaddressed :
    ∃ config timeout a, Config.validate config.toData = .ok config ∧
      (∀ k ∈ requiredServices, (config.endpoint k).host ≠ "" ∧ (config.endpoint k).port ≠ 0) ∧
      Consul.secondsOfMillis config.timeout = .ok timeout ∧
      (∀ url n, (promptAnswers url n).Prompt ∧ (promptAnswers url n).succeeds = true) ∧
      check List.reverse (Pace.mk (.whole 5) (.whole 1)).factory promptAnswers config none
        (fun _ => {}) {} = some a ∧
      a.ready = .ok false ∧ ∃ r ∈ a.reports, r.service = dataService ∧ r.Unaddressed := by
  have hgap := Config.firstGap?_eq_none_iff.mpr complete_longPort
  have hdata : dataService ∈ requiredServices := by decide
  have hduration : (1 : Int) ≤ 5 := by decide
  have hprompt : ∀ url n, (promptAnswers url n).Prompt :=
    fun _ _ => ⟨rfl, rfl, fun f hf => by cases hf⟩
  obtain ⟨all, hcheck, hverdict⟩ := exists_check_eq_conclude List.reverse_perm hgap
    (exists_comesTo_onWhole _ none 5 promptAnswers_takesTime (by simp) fresh_clock (le_refl 1)) {}
  obtain ⟨r, hr, hrun⟩ := exists_report_of_check List.reverse_perm hgap hcheck hdata
  have hworker := CheckAll.unaddressed_of_runWorker hrun rfl (complete_longPort _ hdata).1
    not_fitsAddress_longPort hduration
  have hshut : all.ready = false := by
    rw [Bool.eq_false_iff, ne_eq, hverdict]
    intro havailable
    -- The worker of the data comes to a fault.
    have hcomes := (CheckAll.isReport_of_runWorker hrun).comesTo.unique (havailable _ hdata)
    cases hworker.result.symm.trans hcomes
  exact ⟨dataAt 5000 longPort, _, _, validate_longPort, complete_longPort, rfl,
    fun url n => ⟨hprompt url n, rfl⟩, hcheck, conclude_shut_iff.mpr hshut, r, hr,
    (CheckAll.exists_ran_of_runWorker hrun).1, hworker⟩

end Gate

end StartupGate
