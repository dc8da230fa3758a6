import StartupGate.Proofs.Check.Strategy
import StartupGate.Proofs.Probe.Course
/-!
# The messages of a probe

Who looks at the log of a readiness check wants to see every attempt, and every failure once. An
attempt begins with one informative message, and each way in which it can fail logs one error. The
probe itself adds one message where it gives up, and none where the service was found. So the
messages of a probe balance: the informative ones are as many as the attempts, the errors as many as
the failures, and the message with which the probe ends comes last.

`Worker.Reported` counts the messages between two states by severity. Debug messages are left out of
the account, and what logs nothing else is discreet (`Step.Discreet`).
-/

namespace StartupGate

/-! ## Counting messages -/

/-- How many of some messages are of a severity. -/
def Log.count (severity : Severity) (messages : List Entry) : Nat :=
  messages.countP (·.severity == severity)

theorem Log.count_append (severity : Severity) (first second : List Entry) :
    count severity (first ++ second) = count severity first + count severity second :=
  List.countP_append

/-- Between two states of a worker messages were logged, so many of each severity, and none was
lost. -/
def Worker.Reported (w u : Worker) (infos warnings errors : Nat) : Prop :=
  ∃ messages, u.logs = w.logs ++ messages ∧ Log.count .info messages = infos ∧
    Log.count .warning messages = warnings ∧ Log.count .error messages = errors

namespace Worker

theorem Reported.trans {w u v : Worker} {infos warnings errors infos' warnings' errors' : Nat}
    (hfirst : w.Reported u infos warnings errors)
    (hsecond : u.Reported v infos' warnings' errors') :
    w.Reported v (infos + infos') (warnings + warnings') (errors + errors') := by
  obtain ⟨first, hu, rfl, rfl, rfl⟩ := hfirst
  obtain ⟨second, hv, rfl, rfl, rfl⟩ := hsecond
  refine ⟨first ++ second, by rw [hv, hu, List.append_assoc], ?_, ?_, ?_⟩ <;>
    exact Log.count_append _ _ _

theorem reported_log (severity : Log.Severity) (text : String) (w : Worker) :
    w.Reported (w.log severity text) (Log.count .info [⟨severity, text⟩])
      (Log.count .warning [⟨severity, text⟩]) (Log.count .error [⟨severity, text⟩]) :=
  ⟨_, rfl, rfl, rfl, rfl⟩

/-- Between two states of a worker nothing but debug messages was logged. -/
abbrev Discreet (w u : Worker) : Prop := w.Reported u 0 0 0

theorem discreet_of_logs {w u : Worker} (h : u.logs = w.logs) : w.Discreet u :=
  ⟨[], by rw [h, List.append_nil], rfl, rfl, rfl⟩

end Worker

/-- A step that logs debug messages at most. -/
def Step.Discreet {α : Type} (s : Step α) : Prop := ∀ w : Worker, w.Discreet (s w).2

/-- A registry client whose questions are discreet. -/
structure RegistryClient.Discreet (client : RegistryClient) : Prop where
  isAlive : ∀ service, (client.isAlive service).Discreet
  isAvailable : ∀ service, (client.isAvailable service).Discreet

/-- A watch that is discreet, when it is asked and in its sleeps. -/
structure Watch.Discreet (watch : Watch) : Prop where
  isRunning : watch.isRunning.Discreet
  sleep : watch.sleep.Discreet

/-! ## Discreet steps -/

theorem Worker.logs_undergo {α : Type} (elapsed : Seconds) (cancels : Bool)
    (answer : Except Fault α) (w : Worker) :
    (Worker.undergo elapsed cancels answer w).2.logs = w.logs := by
  obtain ⟨clock, flagged, -, hafter⟩ := exists_undergo_eq elapsed cancels answer w
  rw [hafter]

theorem Http.get_discreet (net : Http.Network) (url : String) (timeout : Option Float)
    (headers : Option (List (String × String))) : (Http.get net url timeout headers).Discreet :=
  fun _ => Worker.discreet_of_logs (Worker.logs_undergo _ _ _ _)

/-- A registry that cannot be reached is reported in a debug message. -/
theorem Consul.client_discreet (c : Consul) (net : Http.Network) : (c.client net).Discreet where
  isAlive _ :=
    isAlive_relates (R := Worker.Discreet) Worker.Reported.trans (Worker.reported_log .debug)
      (Http.get_discreet net) c
  isAvailable :=
    isAvailable_relates (R := Worker.Discreet) Worker.Reported.trans (Http.get_discreet net) c

theorem Timer.watch_discreet (t : Timer) : t.watch.Discreet where
  isRunning _ := Worker.discreet_of_logs rfl
  sleep w := by
    obtain ⟨clock, hafter⟩ := Worker.exists_sleep_eq t.interval w
    refine Worker.discreet_of_logs ?_
    show (Worker.sleep t.interval w).2.logs = w.logs
    rw [hafter]

/-! ## The messages of an attempt -/

/-- How many errors an attempt with a verdict logs. -/
def Verdict.errors (d : Verdict) : Nat := if d = .available then 0 else 1

namespace Strategy

variable {service : String} {w u : Worker} {d : Verdict}

/-- Each way in which pinging a service can fail is reported by one error. -/
theorem ping_reported {net : Http.Network} {config : Config}
    (h : ping net config service w = (.ok d, u)) : w.Reported u 1 0 d.errors := by
  have hfirst := w.reported_log .info ("Check " ++ service ++ " service's status by ping...")
  simp only [ping] at h
  split at h
  · -- There is no endpoint.
    cases h
    exact hfirst.trans (Worker.reported_log .error _ _)
  split at h
  · -- There is no address, or the time limit cannot be told in seconds: this gives no verdict.
    cases h
  rename_i url timeout _
  have hsent := hfirst.trans (Http.ping_relates (Http.get_discreet net) url (some timeout) _)
  generalize Http.ping net url (some timeout) _ = sent at h hsent
  obtain ⟨answer, v⟩ := sent
  cases answer with
  | error f =>
    simp only at h
    split at h
    · cases h
      exact hsent.trans (Worker.reported_log .error _ _)
    · cases h
  | ok status =>
    simp only at h
    split at h
    · -- An available service needs no further message.
      cases h
      exact hsent
    · cases h
      exact hsent.trans (Worker.reported_log .error _ _)

/-- Each way in which asking a registry can fail is reported by one error. -/
theorem registry_reported {client : RegistryClient} (hclient : client.Discreet)
    (h : registry client service w = (.ok d, u)) : w.Reported u 1 0 d.errors := by
  have hfirst := w.reported_log .info ("Check " ++ service ++ " service's status via Registry...")
  simp only [registry] at h
  split at h
  case h_1 halive | h_2 halive =>
    -- The registry is not alive, or nothing is known about it.
    cases h
    have hasked := hfirst.trans (Step.relates_of_eq (hclient.isAlive service _) halive)
    exact hasked.trans (Worker.reported_log .error _ _)
  case h_3 halive =>
    have hasked := hfirst.trans (Step.relates_of_eq (hclient.isAlive service _) halive)
    split at h
    case h_1 havailable | h_2 havailable =>
      cases h
      have hanswered :=
        hasked.trans (Step.relates_of_eq (hclient.isAvailable service _) havailable)
      exact hanswered.trans (Worker.reported_log .error _ _)
    case h_3 havailable =>
      cases h
      exact hasked.trans (Step.relates_of_eq (hclient.isAvailable service _) havailable)

theorem select_reported {net : Http.Network} {config : Config} {client : Option RegistryClient}
    (hclient : ∀ c ∈ client, c.Discreet)
    (h : select net config client service w = (.ok d, u)) : w.Reported u 1 0 d.errors := by
  cases client with
  | none => exact ping_reported h
  | some c => exact registry_reported (hclient c rfl) h

end Strategy

/-! ## The messages of a probe -/

namespace Probe

variable {service : String} {watch : Watch} {strategy : Strategy} {w last : Worker}
  {made : List Attempt} {o : Outcome}

/-- The message with which a probe ends, if there is one. -/
def closing? (service : String) : Outcome → Option Log.Entry
  | .timedOut => some ⟨.error, "dependency " ++ service ++ " service checking time out"⟩
  | .cancelled => some ⟨.warning, "dependency " ++ service ++ " service checking cancelled"⟩
  | .misconfigured =>
    some ⟨.error, "dependency " ++ service ++ " service is misconfigured, giving up"⟩
  | .available | .failed => none

theorem logs_close (service : String) (o : Outcome) (w : Worker) :
    (close service o w).logs = w.logs ++ (closing? service o).toList := by
  cases o <;> simp [close, closing?, Worker.log]

/-- Whether an attempt found its service. -/
def Attempt.isAvailable (a : Attempt) : Bool :=
  match a.answer with
  | .ok d => d = .available
  | .error _ => false

/-- How many attempts did not find their service. -/
def failures (made : List Attempt) : Nat := made.countP fun a => !a.isAvailable

theorem failures_cons (u v : Worker) (d : Verdict) (made : List Attempt) :
    failures (⟨u, .ok d, v⟩ :: made) = d.errors + failures made := by
  cases d <;> simp [failures, Attempt.isAvailable, Verdict.errors, Nat.add_comm]

/-- Before its last message, a probe that comes to an outcome has logged one informative message for
each attempt and one error for each failure. -/
theorem Course.reported (hwatch : watch.Discreet)
    (hstrategy : ∀ {u v d}, strategy service u = (.ok d, v) → u.Reported v 1 0 d.errors)
    {result : Except Fault Outcome} (h : Course service watch strategy w made result last)
    (hresult : result = .ok o) :
    ∃ v, last = close service o v ∧ w.Reported v made.length 0 (failures made) := by
  induction h with
  | unwatched | raised | sleepless => cases hresult
  | timedOut hasked | cancelled hasked =>
    cases hresult
    exact ⟨_, rfl, Step.relates_of_eq (hwatch.isRunning _) hasked⟩
  | settled hasked _ hattempt =>
    cases hresult
    have hbefore := Step.relates_of_eq (hwatch.isRunning _) hasked
    refine ⟨_, rfl, ?_⟩
    rw [failures_cons]
    simpa [failures] using hbefore.trans (hstrategy hattempt)
  | again hasked _ hattempt _ hsleep _ ih =>
    obtain ⟨v, hlast, hlater⟩ := ih hresult
    have hbefore := Step.relates_of_eq (hwatch.isRunning _) hasked
    have hslept := Step.relates_of_eq (hwatch.sleep _) hsleep
    refine ⟨v, hlast, ?_⟩
    -- The attempt and what comes after it; the timer adds nothing.
    have hall := (hbefore.trans (hstrategy hattempt)).trans (hslept.trans hlater)
    rw [failures_cons, List.length_cons, Nat.add_comm]
    simpa only [Nat.zero_add] using hall

/-! ## The main statement -/

/-- **Each failed attempt is reported exactly once.** A probe that comes to an outcome logs as many
informative messages as it makes attempts. It logs an error for each attempt that did not find the
service, and one more where it timed out or gave up; it logs a warning where it was cancelled, and
no other. Its closing message, if it has one, is the last of all. -/
theorem failures_reported_once {net : Http.Network} {config : Config}
    {client : Option RegistryClient} (hclient : ∀ c ∈ client, c.Discreet) (hwatch : watch.Discreet)
    (hrun : run service watch (Strategy.select net config client) w = some (.ok o, last)) :
    ∃ made messages,
      Course service watch (Strategy.select net config client) w made (.ok o) last ∧
      last.logs = w.logs ++ messages ∧
      Log.count .info messages = made.length ∧
      Log.count .error messages
        = failures made + (if o = .timedOut ∨ o = .misconfigured then 1 else 0) ∧
      Log.count .warning messages = (if o = .cancelled then 1 else 0) ∧
      ∀ m ∈ closing? service o, messages.getLast? = some m := by
  obtain ⟨made, hcourse⟩ := exists_course_of_run hrun
  obtain ⟨v, rfl, messages, hlogs, hinfos, hwarnings, herrors⟩ :=
    hcourse.reported hwatch (Strategy.select_reported hclient) rfl
  refine ⟨made, messages ++ (closing? service o).toList, hcourse, ?logs, ?infos, ?errors, ?warnings,
    ?last⟩
  case logs => rw [logs_close, hlogs, List.append_assoc]
  case infos =>
    rw [Log.count_append, hinfos]
    cases o <;> rfl
  case errors =>
    rw [Log.count_append, herrors]
    cases o <;> rfl
  case warnings =>
    rw [Log.count_append, hwarnings]
    cases o <;> rfl
  case last =>
    intro m hm
    rw [hm]
    exact List.getLast?_concat

/-- A registry that cannot be reached. -/
def unreachable : RegistryClient := (Consul.of "http://registry:8500" none 5).client .offline

/-- A watch over one second, with sleeps of one second. -/
def brief : Watch := (Timer.mk (.whole 1) (.whole 1) (.whole 0)).watch

/-- One attempt at a registry that cannot be reached, which logs a debug message too, then a sleep
and the deadline. -/
theorem failures_reported_once_unreachable :
    (∀ c ∈ some unreachable, c.Discreet) ∧ brief.Discreet ∧ ∃ last,
      run "core-data" brief (Strategy.select .offline {} (some unreachable)) {}
        = some (.ok .timedOut, last) ∧
      last.logs.map (·.severity) = [.info, .debug, .error, .error] ∧
      ∃ made messages,
        Course "core-data" brief (Strategy.select .offline {} (some unreachable)) {} made
          (.ok .timedOut) last ∧
        last.logs = messages ∧ Log.count .info messages = made.length ∧
        Log.count .error messages = failures made + 1 ∧ Log.count .warning messages = 0 ∧
        messages.getLast? = closing? "core-data" .timedOut := by
  have hclient : ∀ c ∈ some unreachable, c.Discreet := by
    intro c hc
    obtain rfl := Option.some.inj hc
    exact Consul.client_discreet _ _
  have hwatch : brief.Discreet := Timer.watch_discreet _
  have hcourse : ∃ made last, last.logs.map (·.severity) = [.info, .debug, .error, .error] ∧
      Course "core-data" brief (Strategy.select .offline {} (some unreachable)) {} made
        (.ok .timedOut) last :=
    ⟨_, _, rfl, .again rfl rfl rfl rfl rfl (.timedOut rfl)⟩
  obtain ⟨_, last, hseverities, hcourse⟩ := hcourse
  refine ⟨hclient, hwatch, last, hcourse.run_eq, hseverities, ?_⟩
  obtain ⟨made, messages, hcourse, hlogs, hinfos, herrors, hwarnings, hclosing⟩ :=
    failures_reported_once hclient hwatch hcourse.run_eq
  exact ⟨made, messages, hcourse, hlogs, hinfos, herrors, hwarnings, hclosing _ rfl⟩

end Probe

end StartupGate
