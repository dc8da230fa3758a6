import StartupGate.Proofs.Check.Strategy
import StartupGate.Proofs.Check.Workers
/-!
# Pings that are answered at once, or never sent

Where the requests of a worker take no time, do not cancel it and end in a reply or in a fault of
the request, an attempt that pings a service sends one request, and its verdict is that of the next
exchange with the address (`Strategy.PingsPromptly.exists_ping_eq`). Over a scripted network the
first exchange that succeeds, if there is one, is found in the script itself, although the script
plays its last item without end (`Http.recovery?_eq_some_iff`).

Where the address cannot be written, or the time limit cannot be told in seconds, an attempt raises
before it sends a request, and the worker fails with it (`CheckAll.report_of_target_eq_error`).
-/

namespace StartupGate

/-! ## Prompt exchanges -/

/-- On a clock of whole seconds, an event that takes no time and does not cancel leaves a worker as
it was. -/
theorem Worker.undergo_prompt {α : Type} {w : Worker} {c : Int} (hclock : w.clock = .whole c)
    (answer : Except Fault α) : Worker.undergo (.whole 0) false answer w = (answer, w) := by
  rw [undergo_whole hclock, Int.add_zero, Bool.or_false, ← hclock]

namespace Http

/-- An exchange that takes no time and does not cancel, and that ends in a reply or in a fault of
the request. -/
structure Exchange.Prompt (e : Exchange) : Prop where
  elapsed : e.elapsed = .whole 0
  cancels : e.cancels = false
  isRequest : ∀ f, e.answer = .error f → f.isRequest = true

/-- Whether an exchange ends in a reply that tells of success. -/
def Exchange.succeeds (e : Exchange) : Bool :=
  match e.answer with
  | .ok reply => isSuccess reply.status
  | .error _ => false

/-- The state of a worker after it sent a request. -/
def sent (url : String) (timeout : Option Float) (headers : Option (List (String × String)))
    (w : Worker) : Worker :=
  { w.record (.get url timeout headers) with requests := w.requests.bump url }

theorem get_prompt {net : Network} {url : String} {e : Exchange} {w : Worker} {c : Int}
    (he : net url (w.requests.count url) = e) (hprompt : e.Prompt) (hclock : w.clock = .whole c)
    (timeout : Option Float) (headers : Option (List (String × String))) :
    get net url timeout headers w = (e.answer, sent url timeout headers w) := by
  have hsent : (sent url timeout headers w).clock = .whole c := hclock
  rw [get, he, hprompt.elapsed, hprompt.cancels]
  exact Worker.undergo_prompt hsent e.answer

end Http

/-! ## One attempt -/

/-- The address at which a service is pinged. -/
def Config.pingUrl (config : Config) (service : String) : String :=
  Http.pingUrl (config.endpoint service).address

/-- The record of a ping. -/
def Config.pingCall (config : Config) (service : String) (timeout : Float) : Call :=
  .get (config.pingUrl service) (some timeout) none

/-- The verdict of an attempt whose ping came to an exchange. -/
def Http.Exchange.verdict (e : Exchange) : Verdict :=
  if e.succeeds then .available else .unavailable

/-- A service is pinged without delay: its endpoint has a host and a port that fits an address, the
time limit of requests can be told in seconds, and every exchange with its address is prompt. -/
structure Strategy.PingsPromptly (net : Http.Network) (config : Config) (service : String)
    (timeout : Float) : Prop where
  host : (config.endpoint service).host ≠ ""
  fits : FitsAddress (config.endpoint service).port
  seconds : Consul.secondsOfMillis config.timeout = .ok timeout
  prompt : ∀ n, (net (config.pingUrl service) n).Prompt

/-- An attempt without delay sends one request, and its verdict is that of the next exchange with
the address. -/
theorem Strategy.PingsPromptly.exists_ping_eq {net : Http.Network} {config : Config}
    {service : String} {timeout : Float} (h : PingsPromptly net config service timeout)
    {w : Worker} {c : Int} (hclock : w.clock = .whole c) :
    ∃ logs, ping net config service w
      = (.ok (net (config.pingUrl service) (w.requests.count (config.pingUrl service))).verdict,
        { w with
          logs
          calls := w.calls ++ [config.pingCall service timeout]
          requests := w.requests.bump (config.pingUrl service) }) := by
  have hprompt := h.prompt (w.requests.count (config.pingUrl service))
  generalize he : net (config.pingUrl service) (w.requests.count (config.pingUrl service)) = e
  rw [he] at hprompt
  have hget := Http.get_prompt
    (w := w.log .info ("Check " ++ service ++ " service's status by ping..."))
    he hprompt hclock (some timeout) none
  rw [Config.pingUrl] at hget
  have htarget := target_eq_ok_iff.mpr ⟨⟨h.fits, rfl⟩, h.seconds⟩
  -- After the one request, the verdict and the message depend on what it ended in.
  simp only [ping, Config.endpoint?_of_host h.host, htarget, Http.ping, hget]
  cases hanswer : e.answer with
  | error f =>
    have hverdict : e.verdict = .unavailable := by
      simp [Http.Exchange.verdict, Http.Exchange.succeeds, hanswer]
    simp only [hprompt.isRequest f hanswer, if_true, hverdict]
    exact ⟨_, rfl⟩
  | ok reply =>
    by_cases hsuccess : Http.isSuccess reply.status = true
    · have hverdict : e.verdict = .available := by
        simp [Http.Exchange.verdict, Http.Exchange.succeeds, hanswer, hsuccess]
      simp only [if_pos hsuccess, hverdict]
      exact ⟨_, rfl⟩
    · have hverdict : e.verdict = .unavailable := by
        simp [Http.Exchange.verdict, Http.Exchange.succeeds, hanswer, hsuccess]
      simp only [if_neg hsuccess, hverdict]
      exact ⟨_, rfl⟩

/-! ## Attempts that raise at once -/

/-- An attempt without an address or a time limit to go by raises before it sends a request. -/
theorem Strategy.ping_of_target_eq_error {net : Http.Network} {config : Config} {service : String}
    {endpoint : Endpoint} {f : Fault} {w : Worker}
    (hendpoint : config.endpoint? service = some endpoint)
    (htarget : target config endpoint = .error f) :
    ping net config service w
      = (.error f, w.log .info ("Check " ++ service ++ " service's status by ping...")) := by
  simp only [ping, hendpoint, htarget]

/-- The worker of such a service fails with its first attempt, if it gets as far as that, and does
nothing but announce it. -/
theorem CheckAll.report_of_target_eq_error {net : Http.Network} {config : Config}
    {duration interval c : Int} {initial : String → Worker} {k : String} {r : Report}
    (hrun : runWorker (Pace.mk (.whole duration) (.whole interval)).factory
      (Strategy.select net config none) initial k = some r)
    (hclock : (initial k).clock = .whole c) {endpoint : Endpoint} {f : Fault}
    (hendpoint : config.endpoint? k = some endpoint)
    (htarget : Strategy.target config endpoint = .error f) (hduration : 1 ≤ duration)
    (hflag : (initial k).isCancelled = false) :
    r.result = .error f ∧
      r.worker = (initial k).log .info ("Check " ++ k ++ " service's status by ping...") := by
  obtain ⟨rfl, made, hcourse⟩ := (runWorker_onWhole_iff hclock).mp hrun
  have hwatch := Timer.isRunning_onWhole hclock c duration interval
  rw [decide_eq_true (by omega)] at hwatch
  -- A course that raises in its first attempt is a course of this probe, hence the only one.
  have hattempt : Strategy.select net config none r.service (initial r.service) = (.error f, _) :=
    Strategy.ping_of_target_eq_error hendpoint htarget
  obtain ⟨-, hresult, hlast⟩ := hcourse.unique (.raised hwatch hflag hattempt)
  exact ⟨hresult, hlast⟩

/-! ## Recovery in a script -/

namespace Http

/-- The item of the script of an address that is the first to succeed, if one does. -/
def recovery? (scripts : List (String × List Exchange)) (url : String) : Option Nat :=
  ((scripts.lookup url).getD []).findIdx? Exchange.succeeds

variable {scripts : List (String × List Exchange)} {url : String}

/-- A network with scripts of prompt items is prompt, also where there is no route. -/
theorem Network.ofScripts_prompt (h : ∀ p ∈ scripts, ∀ e ∈ p.2, e.Prompt) (url : String)
    (n : Nat) : (ofScripts scripts url n).Prompt := by
  refine ofScripts_induction h (fun url => ⟨rfl, rfl, fun f hf => ?_⟩) url n
  rw [← Except.error.inj hf]
  rfl

/-- What a scripted network plays succeeds where an item of the script does. -/
theorem Network.ofScripts_succeeds_iff {n : Nat} :
    (ofScripts scripts url n).succeeds = true ↔
      ∃ e, Script.item? ((scripts.lookup url).getD []) n = some e ∧ e.succeeds = true := by
  rw [ofScripts]
  cases scripts.lookup url with
  | none => simp [Script.item?, Exchange.succeeds]
  | some script =>
    cases hitem : Script.item? script n with
    | none => simp [hitem, Exchange.succeeds]
    | some e => simp [hitem]

/-- Without a recovery no exchange ever succeeds, since the last item is none that does. -/
theorem recovery?_eq_none_iff :
    recovery? scripts url = none ↔ ∀ n, (Network.ofScripts scripts url n).succeeds = false := by
  rw [recovery?, List.findIdx?_eq_none_iff]
  constructor
  · refine fun hall n => Bool.eq_false_iff.mpr fun hplayed => ?_
    obtain ⟨e, hitem, he⟩ := Network.ofScripts_succeeds_iff.mp hplayed
    rw [hall e (Script.mem_of_item?_eq_some hitem)] at he
    cases he
  · intro hnever e he
    obtain ⟨i, hi, rfl⟩ := List.mem_iff_getElem.mp he
    refine Bool.eq_false_iff.mpr fun hsuccess => ?_
    have hplayed := Network.ofScripts_succeeds_iff.mpr ⟨_, Script.item?_of_lt hi, hsuccess⟩
    rw [hnever i] at hplayed
    cases hplayed

theorem succeeds_of_recovery? {n : Nat} (h : recovery? scripts url = some n) :
    (Network.ofScripts scripts url n).succeeds = true ∧
      ∀ i < n, (Network.ofScripts scripts url i).succeeds = false := by
  obtain ⟨hn, hsuccess, hbefore⟩ := List.findIdx?_eq_some_iff_getElem.mp h
  refine ⟨Network.ofScripts_succeeds_iff.mpr ⟨_, Script.item?_of_lt hn, hsuccess⟩, fun i hi => ?_⟩
  refine Bool.eq_false_iff.mpr fun hplayed => ?_
  obtain ⟨e, hitem, he⟩ := Network.ofScripts_succeeds_iff.mp hplayed
  rw [Script.item?_of_lt (Nat.lt_trans hi hn)] at hitem
  obtain rfl := Option.some.inj hitem
  exact hbefore i hi he

/-- The recovery is the first exchange that succeeds of all that ever take place. -/
theorem recovery?_eq_some_iff {n : Nat} :
    recovery? scripts url = some n ↔ (Network.ofScripts scripts url n).succeeds = true ∧
      ∀ i < n, (Network.ofScripts scripts url i).succeeds = false := by
  refine ⟨succeeds_of_recovery?, fun ⟨hsuccess, hbefore⟩ => ?_⟩
  cases hrecovery : recovery? scripts url with
  | none =>
    -- Then no exchange would succeed.
    rw [recovery?_eq_none_iff.mp hrecovery n] at hsuccess
    cases hsuccess
  | some m =>
    obtain ⟨hsuccess', hbefore'⟩ := succeeds_of_recovery? hrecovery
    -- Of two first exchanges that succeed neither is before the other.
    rcases Nat.lt_trichotomy m n with hlt | rfl | hgt
    · rw [hbefore m hlt] at hsuccess'
      cases hsuccess'
    · rfl
    · rw [hbefore' n hgt] at hsuccess
      cases hsuccess

end Http

end StartupGate
