import StartupGate.Proofs.Check.Transience
import StartupGate.Proofs.Registry.Confirmation
/-!
# The requests of attempts

What a worker asked for is in its record of calls, and `Worker.Recorded` says which calls were added
to it between two states. An attempt that pings a service sends one request, to the endpoint of this
service (`Strategy.ping_recorded`). An attempt that asks a registry records what the two questions
of the client record (`Strategy.calls_registry`), and with a Consul client these are the first few
of three requests (`Consul.exists_recorded_registry`). Along a probe with a timer that records
nothing the requests of its attempts add up (`Probe.Course.recorded`).
-/

namespace StartupGate

/-! ## Recorded calls -/

/-- Between two states of a worker these calls were recorded, and none was lost. -/
def Worker.Recorded (w u : Worker) (calls : List Call) : Prop := u.calls = w.calls ++ calls

theorem Worker.Recorded.trans {w u v : Worker} {first second : List Call}
    (hfirst : w.Recorded u first) (hsecond : u.Recorded v second) :
    w.Recorded v (first ++ second) := by
  rw [Recorded, hsecond, hfirst, List.append_assoc]

theorem Worker.recorded_nil {w u : Worker} (h : u.calls = w.calls) : w.Recorded u [] := by
  rw [Recorded, h, List.append_nil]

/-! ## Attempts that ping -/

/-- The requests of an attempt that pings a service: one to the endpoint of this service, if there
is one, its port fits an address, and the time limit can be told in seconds. -/
def Config.pings (config : Config) (service : String) : List Call :=
  match config.endpoint? service, Consul.secondsOfMillis config.timeout with
  | some endpoint, .ok timeout =>
    if FitsAddress endpoint.port then [.get (Http.pingUrl endpoint.address) (some timeout) none]
    else []
  | _, _ => []

theorem Config.pings_of_target {config : Config} {service : String} {endpoint : Endpoint}
    (hendpoint : config.endpoint? service = some endpoint) {url : String} {timeout : Float}
    (htarget : Strategy.target config endpoint = .ok (url, timeout)) :
    config.pings service = [.get (Http.pingUrl url) (some timeout) none] := by
  obtain ⟨⟨hfits, rfl⟩, hseconds⟩ := Strategy.target_eq_ok_iff.mp htarget
  simp only [pings, hendpoint, hseconds, if_pos hfits]

/-- Without an address or a time limit to go by there is no ping. -/
theorem Config.pings_of_target_error {config : Config} {service : String} {endpoint : Endpoint}
    (hendpoint : config.endpoint? service = some endpoint) {f : Fault}
    (htarget : Strategy.target config endpoint = .error f) : config.pings service = [] := by
  rcases Strategy.target_eq_error_iff.mp htarget with ⟨hlong, -⟩ | ⟨-, hseconds⟩
  · cases hseconds : Consul.secondsOfMillis config.timeout <;>
      simp only [pings, hendpoint, hseconds, if_neg hlong]
  · simp only [pings, hendpoint, hseconds]

theorem Http.recorded_of_ping {net : Network} {base : String} {timeout : Option Float}
    {w u : Worker} {x : Except Fault Int} (h : ping net base timeout w = (x, u)) :
    w.Recorded u [.get (pingUrl base) timeout none] := by
  have hsent := calls_get net (pingUrl base) timeout none w
  rw [ping] at h
  -- The request is recorded before there is an answer or a fault.
  split at h
  all_goals
    rename_i hget
    rw [hget] at hsent
    obtain rfl := (Prod.mk.inj h).2
    exact hsent

/-- **An attempt that pings sends its one request and no other.** -/
theorem Strategy.ping_recorded (net : Http.Network) (config : Config) (service : String)
    (w : Worker) : w.Recorded (ping net config service w).2 (config.pings service) := by
  simp only [ping]
  split
  · -- There is no endpoint.
    rename_i hendpoint
    rw [Config.pings, hendpoint]
    exact Worker.recorded_nil rfl
  · rename_i hendpoint
    split
    · rename_i htarget
      rw [Config.pings_of_target_error hendpoint htarget]
      exact Worker.recorded_nil rfl
    · rename_i htarget
      rw [Config.pings_of_target hendpoint htarget]
      -- Neither the verdict nor the message about it is a call.
      split
      all_goals
        rename_i hping
        have hsent := Http.recorded_of_ping hping
        split <;> exact hsent

/-! ## Attempts that ask a registry -/

/-- An attempt that asks a registry records what its questions record: the first one alone, or both
where the registry is said to be alive. -/
theorem Strategy.calls_registry (client : RegistryClient) (service : String) (w : Worker) :
    (registry client service w).2.calls = (client.isAlive service (asking service w)).2.calls ∨
      ∃ u, client.isAlive service (asking service w) = (.ok true, u) ∧
        (registry client service w).2.calls = (client.isAvailable service u).2.calls := by
  simp only [registry, asking]
  split
  · rename_i halive
    rw [halive]
    exact .inl rfl
  · rename_i halive
    rw [halive]
    exact .inl rfl
  · rename_i u halive
    refine .inr ⟨u, halive, ?_⟩
    split
    all_goals
      rename_i havailable
      simp only [havailable, Worker.log]

namespace Consul

variable (c : Consul) (net : Http.Network) (service : String) (w : Worker)

/-- The requests of an attempt in which none is refused, in their order. -/
def requests : List Call := [c.call leaderPath, c.call catalogPath, c.call (healthPath service)]

theorem isAlive_recorded : w.Recorded (c.isAlive net w).2 [c.call leaderPath] := by
  rw [isAlive]
  split
  · rename_i hsent
    exact calls_request hsent
  · rename_i hsent
    have hsent := calls_request hsent
    split <;> exact hsent

/-- The catalog is requested first, and the health checks after it or not at all. -/
theorem isAvailable_recorded :
    w.Recorded (c.isAvailable net service w).2 [c.call catalogPath] ∨
      w.Recorded (c.isAvailable net service w).2
        [c.call catalogPath, c.call (healthPath service)] := by
  rw [isAvailable]
  split
  · rename_i hcatalog
    exact .inl (calls_request hcatalog)
  · rename_i reply u hcatalog
    have hcatalog : w.Recorded u [c.call catalogPath] := calls_request hcatalog
    split
    · exact .inl hcatalog
    · -- The service is in the catalog.
      refine .inr ?_
      split
      all_goals
        rename_i hhealth
        exact hcatalog.trans (calls_request hhealth)

/-- **An attempt that asks Consul sends the first few of three requests**, the first of them in any
case. -/
theorem exists_recorded_registry :
    ∃ sent, w.Recorded (Strategy.registry (c.client net) service w).2 sent ∧ sent ≠ [] ∧
      sent <+: c.requests service := by
  have halive := c.isAlive_recorded net (Strategy.asking service w)
  rcases Strategy.calls_registry (c.client net) service w with hcalls | ⟨u, hyes, hcalls⟩
  · -- The attempt ends with the question for the leader.
    refine ⟨[c.call leaderPath], hcalls.trans halive, List.cons_ne_nil _ _, ?_⟩
    exact ⟨[c.call catalogPath, c.call (healthPath service)], rfl⟩
  · -- The registry is alive in the state `u`, in which the second question begins.
    have hu : w.Recorded u [c.call leaderPath] := by
      change c.isAlive net (Strategy.asking service w) = (.ok true, u) at hyes
      rw [hyes] at halive
      exact halive
    rcases c.isAvailable_recorded net service u with havailable | havailable
    · refine ⟨_, hcalls.trans (hu.trans havailable), List.cons_ne_nil _ _, ?_⟩
      exact ⟨[c.call (healthPath service)], rfl⟩
    · exact ⟨_, hcalls.trans (hu.trans havailable), List.cons_ne_nil _ _, List.prefix_refl _⟩

variable (base : String) (token : Option String) (timeout : Float)

/-- A client sends the token exactly where there is one that is not empty, and no other header. -/
theorem mem_headers_of {name value : String} :
    (name, value) ∈ (Consul.of base token timeout).headers ↔
      name = "X-Consul-Token" ∧ token = some value ∧ value ≠ "" := by
  cases token with
  | none => simp [Consul.of]
  | some t =>
    by_cases hempty : t = ""
    · subst hempty
      simp [Consul.of]
    · simp only [Consul.of, if_neg hempty, List.mem_singleton, Prod.mk.injEq, Option.some.injEq]
      constructor
      · rintro ⟨rfl, rfl⟩
        exact ⟨rfl, rfl, hempty⟩
      · rintro ⟨rfl, rfl, -⟩
        exact ⟨rfl, rfl⟩

end Consul

/-! ## Requests along a probe -/

/-- The calls that were recorded in the course of an attempt. -/
def Probe.Attempt.calls (x : Attempt) : List Call := x.after.calls.drop x.before.calls.length

theorem Probe.Attempt.calls_eq {x : Attempt} {calls : List Call}
    (h : x.before.Recorded x.after calls) : x.calls = calls := by
  rw [Attempt.calls, h, List.drop_left]

/-- What a probe asks of its timer records no calls. -/
structure Watch.Silent (watch : Watch) : Prop where
  isRunning : ∀ w : Worker, w.Recorded (watch.isRunning w).2 []
  sleep : ∀ w : Worker, w.Recorded (watch.sleep w).2 []

theorem Timer.watch_silent (t : Timer) : t.watch.Silent where
  isRunning _ := Worker.recorded_nil rfl
  sleep w := by
    obtain ⟨clock, hafter⟩ := Worker.exists_sleep_eq t.interval w
    refine Worker.recorded_nil ?_
    show (Worker.sleep t.interval w).2.calls = w.calls
    rw [hafter]

theorem Probe.recorded_close (service : String) (o : Outcome) (w : Worker) :
    w.Recorded (close service o w) [] := by
  cases o <;> exact Worker.recorded_nil rfl

/-- Along a probe with a timer that records nothing, the calls of its attempts add up. -/
theorem Probe.Course.recorded {service : String} {watch : Watch} {strategy : Strategy}
    {w last : Worker} {made : List Attempt} {result : Except Fault Outcome}
    (hsilent : watch.Silent)
    (hkeeps : ∀ u : Worker, ∃ sent, u.Recorded (strategy service u).2 sent)
    (h : Course service watch strategy w made result last) :
    w.Recorded last (made.flatMap Attempt.calls) := by
  -- Of what a round does, only the attempt records calls.
  have hattempt : ∀ {u v answer}, strategy service u = (answer, v) →
      u.Recorded v (Attempt.mk u answer v).calls := by
    intro u v answer hv
    obtain ⟨sent, hsent⟩ := hkeeps u
    rw [hv] at hsent
    rwa [Attempt.calls_eq hsent]
  have hlook : ∀ {u v answer}, watch.isRunning u = (answer, v) → u.Recorded v [] :=
    Step.relates_of_eq (R := (Worker.Recorded · · [])) (hsilent.isRunning _)
  have hsleeps : ∀ {u v answer}, watch.sleep u = (answer, v) → u.Recorded v [] :=
    Step.relates_of_eq (R := (Worker.Recorded · · [])) (hsilent.sleep _)
  induction h with
  | unwatched hwatch => exact hlook hwatch
  | timedOut hwatch | cancelled hwatch => exact (hlook hwatch).trans (recorded_close _ _ _)
  | raised hwatch _ hraised =>
    exact (hlook hwatch).trans ((hattempt hraised).trans (Worker.recorded_nil rfl))
  | settled hwatch _ hsettled =>
    exact (hlook hwatch).trans ((hattempt hsettled).trans (recorded_close _ _ _))
  | sleepless hwatch _ hmade _ hsleep =>
    exact (hlook hwatch).trans ((hattempt hmade).trans (hsleeps hsleep))
  | again hwatch _ hmade _ hsleep _ ih =>
    exact (hlook hwatch).trans ((hattempt hmade).trans ((hsleeps hsleep).trans ih))

end StartupGate
