import StartupGate.Check.Strategy
import StartupGate.Proofs.Probe.Time
/-!
# What strategies do to a worker

An attempt of a strategy logs messages and lets requests or questions go out, and it does nothing
else to the worker. So whatever relation holds along messages and requests holds along an attempt
(`Strategy.ping_relates`, `Strategy.registry_relates`), and along the questions of a client that
asks over a network (`Consul.isAlive_relates`, `Consul.isAvailable_relates`). In particular, an
attempt lets no other time pass than that of its requests (`Strategy.select_takesTime`).
-/

namespace StartupGate

/-! ## Relations along an attempt -/

section Relates

variable {R : Worker → Worker → Prop}

theorem Http.ping_relates {net : Http.Network}
    (hget : ∀ url timeout headers w, R w (Http.get net url timeout headers w).2) (base : String)
    (timeout : Option Float) (w : Worker) : R w (Http.ping net base timeout w).2 := by
  rw [Http.ping]
  split
  all_goals
    rename_i hsent
    exact Step.relates_of_eq (hget _ _ _ w) hsent

/-- What holds along messages and requests holds along an attempt that pings a service. -/
theorem Strategy.ping_relates (htrans : ∀ {u v x}, R u v → R v x → R u x)
    (hlog : ∀ severity text u, R u (u.log severity text)) {net : Http.Network}
    (hget : ∀ url timeout headers w, R w (Http.get net url timeout headers w).2) (config : Config)
    (service : String) (w : Worker) : R w (Strategy.ping net config service w).2 := by
  have hfirst := hlog .info ("Check " ++ service ++ " service's status by ping...") w
  simp only [Strategy.ping]
  split
  · -- There is no endpoint.
    exact htrans hfirst (hlog _ _ _)
  split
  · -- There is no address, or the time limit cannot be told in seconds.
    exact hfirst
  split
  · rename_i hping
    have hsent := htrans hfirst (Step.relates_of_eq (Http.ping_relates hget _ _ _) hping)
    split
    · exact htrans hsent (hlog _ _ _)
    · exact hsent
  · rename_i hping
    have hsent := htrans hfirst (Step.relates_of_eq (Http.ping_relates hget _ _ _) hping)
    split
    · exact hsent
    · exact htrans hsent (hlog _ _ _)

/-- What holds along messages and questions holds along an attempt that asks a registry. -/
theorem Strategy.registry_relates (htrans : ∀ {u v x}, R u v → R v x → R u x)
    (hlog : ∀ severity text u, R u (u.log severity text)) {client : RegistryClient}
    {service : String} (halive : ∀ w, R w (client.isAlive service w).2)
    (havailable : ∀ w, R w (client.isAvailable service w).2) (w : Worker) :
    R w (Strategy.registry client service w).2 := by
  have hfirst := hlog .info ("Check " ++ service ++ " service's status via Registry...") w
  simp only [Strategy.registry]
  split
  case h_1 hquestion | h_2 hquestion =>
    -- The registry is not alive, or nothing is known about it.
    exact htrans (htrans hfirst (Step.relates_of_eq (halive _) hquestion)) (hlog _ _ _)
  case h_3 hquestion =>
    have hasked := htrans hfirst (Step.relates_of_eq (halive _) hquestion)
    split
    case h_1 hquestion | h_2 hquestion =>
      exact htrans (htrans hasked (Step.relates_of_eq (havailable _) hquestion)) (hlog _ _ _)
    case h_3 hquestion =>
      -- An available service needs no message.
      exact htrans hasked (Step.relates_of_eq (havailable _) hquestion)

theorem Consul.isAlive_relates (htrans : ∀ {u v x}, R u v → R v x → R u x)
    (hlog : ∀ text u, R u (u.log .debug text)) {net : Http.Network}
    (hget : ∀ url timeout headers w, R w (Http.get net url timeout headers w).2) (c : Consul)
    (w : Worker) : R w (c.isAlive net w).2 := by
  rw [Consul.isAlive]
  split
  · rename_i hsent
    exact Step.relates_of_eq (hget _ _ _ w) hsent
  · rename_i hsent
    have hsent := Step.relates_of_eq (hget _ _ _ w) hsent
    split
    · -- A registry that cannot be reached is reported.
      exact htrans hsent (hlog _ _)
    · exact hsent

theorem Consul.isAvailable_relates (htrans : ∀ {u v x}, R u v → R v x → R u x)
    {net : Http.Network}
    (hget : ∀ url timeout headers w, R w (Http.get net url timeout headers w).2) (c : Consul)
    (service : String) (w : Worker) : R w (c.isAvailable net service w).2 := by
  rw [Consul.isAvailable]
  split
  · rename_i hcatalog
    exact Step.relates_of_eq (hget _ _ _ w) hcatalog
  · rename_i hcatalog
    have hcatalog := Step.relates_of_eq (hget _ _ _ w) hcatalog
    split
    · exact hcatalog
    -- The service is in the catalog, and its health checks are asked for.
    split
    all_goals
      rename_i hhealth
      exact htrans hcatalog (Step.relates_of_eq (hget _ _ _ _) hhealth)

end Relates

/-! ## The record of calls -/

theorem Worker.calls_undergo {α : Type} (elapsed : Seconds) (cancels : Bool)
    (answer : Except Fault α) (w : Worker) :
    (Worker.undergo elapsed cancels answer w).2.calls = w.calls := by
  obtain ⟨clock, flagged, -, hafter⟩ := exists_undergo_eq elapsed cancels answer w
  rw [hafter]

/-- A request is recorded, whatever becomes of it, and nothing else is. -/
theorem Http.calls_get (net : Http.Network) (url : String) (timeout : Option Float)
    (headers : Option (List (String × String))) (w : Worker) :
    (Http.get net url timeout headers w).2.calls = w.calls ++ [.get url timeout headers] := by
  rw [get, Worker.calls_undergo]
  rfl

/-! ## The time that attempts take -/

/-- Every request takes a whole number of seconds, none of it negative. -/
def Http.Network.TakesTime (net : Http.Network) : Prop :=
  ∀ url n, ∃ e : Nat, (net url n).elapsed = .whole e

/-- Every question takes a whole number of seconds, none of it negative. -/
structure RegistryClient.TakesTime (client : RegistryClient) : Prop where
  isAlive : ∀ service, (client.isAlive service).TakesTime
  isAvailable : ∀ service, (client.isAvailable service).TakesTime

theorem Worker.later_log (severity : Log.Severity) (text : String) (w : Worker) :
    w.Later (w.log severity text) :=
  later_of_clock_eq rfl

theorem Http.get_takesTime {net : Http.Network} (hnet : net.TakesTime) (url : String)
    (timeout : Option Float) (headers : Option (List (String × String))) :
    (Http.get net url timeout headers).TakesTime := by
  intro w
  have hsent : w.Later { w.record (.get url timeout headers) with
      requests := w.requests.bump url } :=
    Worker.later_of_clock_eq rfl
  exact hsent.trans (Worker.undergo_takesTime (hnet url _) _ _ _)

/-- A client that asks over a network takes the time that its requests take. -/
theorem Consul.client_takesTime {net : Http.Network} (hnet : net.TakesTime) (c : Consul) :
    (c.client net).TakesTime where
  isAlive _ :=
    isAlive_relates (R := Worker.Later) Worker.Later.trans (Worker.later_log .debug)
      (Http.get_takesTime hnet) c
  isAvailable :=
    isAvailable_relates (R := Worker.Later) Worker.Later.trans (Http.get_takesTime hnet) c

theorem Strategy.select_takesTime {net : Http.Network} (hnet : net.TakesTime) (config : Config)
    {registry : Option RegistryClient} (hregistry : ∀ client ∈ registry, client.TakesTime)
    (service : String) : (Strategy.select net config registry service).TakesTime := by
  intro w
  cases registry with
  | none =>
    exact ping_relates (R := Worker.Later) Worker.Later.trans Worker.later_log
      (Http.get_takesTime hnet) config service w
  | some client =>
    obtain ⟨halive, havailable⟩ := hregistry client rfl
    exact registry_relates (R := Worker.Later) Worker.Later.trans Worker.later_log
      (halive service) (havailable service) w

/-! ## Scripts -/

/-- An exchange of a scripted network is an item of a script, or there is no route. -/
theorem Http.Network.ofScripts_induction {P : Http.Exchange → Prop}
    {scripts : List (String × List Http.Exchange)} (hitem : ∀ p ∈ scripts, ∀ e ∈ p.2, P e)
    (hnoRoute : ∀ url, P { answer := .error (Http.noRoute url) }) (url : String) (n : Nat) :
    P (ofScripts scripts url n) := by
  rw [ofScripts]
  split
  · rename_i e he
    obtain ⟨script, hscript, hplayed⟩ := Option.bind_eq_some_iff.mp he
    exact hitem _ (Named.mem_of_lookup_eq_some hscript) e (Script.mem_of_item?_eq_some hplayed)
  · exact hnoRoute url

/-- A scripted network takes the time that its scripts say. -/
theorem Http.Network.ofScripts_takesTime {scripts : List (String × List Http.Exchange)}
    (h : ∀ p ∈ scripts, ∀ e ∈ p.2, ∃ n : Nat, e.elapsed = .whole n) :
    (ofScripts scripts).TakesTime :=
  ofScripts_induction h fun _ => ⟨0, rfl⟩

/-- A scripted strategy takes the time that its scripts say, and clears no cancel flag. -/
theorem Strategy.scripted_onward {scripts : List (String × List Attempt)}
    (h : ∀ p ∈ scripts, ∀ a ∈ p.2, ∃ n : Nat, a.elapsed = .whole n) (service : String)
    (w : Worker) : w.Onward (Strategy.scripted scripts service w).2 := by
  have hcounted : w.Onward { w with checks := w.checks + 1 } :=
    ⟨Worker.later_of_clock_eq rfl, rfl, id⟩
  simp only [Strategy.scripted]
  split
  · exact hcounted
  · rename_i script hscript
    have hplayed : w.Onward (({ w with checks := w.checks + 1 }).play ("attempt " ++ service)).2 :=
      ⟨Worker.later_of_clock_eq rfl, rfl, id⟩
    split
    · exact hplayed
    · rename_i a ha
      have hattempt := h _ (Named.mem_of_lookup_eq_some hscript) a (Script.mem_of_item?_eq_some ha)
      exact hplayed.trans (Worker.undergo_onward hattempt _ _ _)

end StartupGate
