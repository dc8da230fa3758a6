import StartupGate.Proofs.Registry.Confirmation
/-!
# The leader of a registry

A registry is alive when it names a leader. Its reply names none when the body is nothing but
quotes, with blanks around them (`Consul.Leaderless`). The body is judged by dropping first the
blanks around it and then the quotes around the rest, and nothing is left exactly of such bodies
(`Consul.namesLeader_eq_false_iff`). The main statement is `Consul.isAlive_answers`.
-/

namespace StartupGate.Consul

/-! ## Bodies that name no leader -/

/-- A body of nothing but quotes, with blanks around them. There may be none of either. -/
def Leaderless (body : String) : Prop :=
  ∃ before quotes after : List Char, body.toList = before ++ quotes ++ after ∧
    (∀ c ∈ before, Text.isBlank c = true) ∧ (∀ c ∈ quotes, c = '"') ∧
    ∀ c ∈ after, Text.isBlank c = true

variable {body : String}

/-- No leader is named exactly where nothing but quotes is left of a body without the blanks around
it. -/
theorem namesLeader_eq_false_iff_of_trim :
    namesLeader body = false ↔ ∀ c ∈ Text.trim Text.isBlank body.toList, c = '"' := by
  rw [namesLeader, Bool.not_eq_false', List.isEmpty_iff, Text.trim_eq_nil_iff]
  simp only [beq_iff_eq]

theorem leaderless_of_namesLeader (h : namesLeader body = false) : Leaderless body := by
  obtain ⟨before, after, hbefore, hafter, hbody⟩ :=
    Text.exists_trim_append Text.isBlank body.toList
  exact ⟨before, _, after, hbody, hbefore, namesLeader_eq_false_iff_of_trim.mp h, hafter⟩

theorem namesLeader_of_leaderless (h : Leaderless body) : namesLeader body = false := by
  obtain ⟨before, quotes, after, hbody, hbefore, hquotes, hafter⟩ := h
  rw [namesLeader_eq_false_iff_of_trim, hbody, Text.trim_append_of_all quotes hbefore hafter]
  -- What is left is a part of the quotes.
  intro c hc
  exact hquotes c (Text.mem_of_mem_trim hc)

theorem namesLeader_eq_false_iff : namesLeader body = false ↔ Leaderless body :=
  ⟨leaderless_of_namesLeader, namesLeader_of_leaderless⟩

/-! ## The question for the leader -/

section Question

variable {c : Consul} {net : Http.Network} {w u : Worker}

theorem isAlive_of_reply {reply : Http.Reply} (h : c.request net leaderPath w = (.ok reply, u)) :
    c.isAlive net w = (.ok (reply.status == 200 && namesLeader reply.body), u) := by
  simp only [isAlive, h]

theorem isAlive_of_fault {f : Fault} (h : c.request net leaderPath w = (.error f, u)) :
    c.isAlive net w = if f.isRequest then
        (.ok false, u.log .debug ("Consul not reachable at " ++ c.base ++ ": " ++ f.text))
      else (.error f, u) := by
  simp only [isAlive, h]

end Question

/-- **A registry is alive exactly when it names a leader.** Whatever becomes of the request for the
leader: without a reply, a fault that belongs to the exchange tells that the registry is not alive,
and any other fault is passed on. With a reply there is an answer, and the registry is alive exactly
when the status is 200 and the body is not one of nothing but quotes with blanks around them. -/
theorem isAlive_answers (c : Consul) (net : Http.Network) (w : Worker) :
    (∀ f u, c.request net leaderPath w = (.error f, u) → f.isRequest = true →
      ∃ v, c.isAlive net w = (.ok false, v)) ∧
    (∀ f u, c.request net leaderPath w = (.error f, u) → f.isRequest = false →
      c.isAlive net w = (.error f, u)) ∧
    ∀ reply u, c.request net leaderPath w = (.ok reply, u) →
      ∃ alive, c.isAlive net w = (.ok alive, u) ∧
        (alive = true ↔ reply.status = 200 ∧ ¬ Leaderless reply.body) := by
  refine ⟨?unreachable, ?passed, ?replied⟩
  case unreachable =>
    intro f u hsent hrequest
    exact ⟨_, (isAlive_of_fault hsent).trans (if_pos hrequest)⟩
  case passed =>
    intro f u hsent hother
    exact (isAlive_of_fault hsent).trans (if_neg (by simp [hother]))
  case replied =>
    intro reply u hsent
    refine ⟨_, isAlive_of_reply hsent, ?_⟩
    rw [Bool.and_eq_true, beq_iff_eq, ← namesLeader_eq_false_iff, Bool.not_eq_false]

/-- Every request is answered in the same way, at once. -/
def answering (answer : Except Fault Http.Reply) : Http.Network := fun _ _ => { answer }

/-- The network on which every request is answered with a body. -/
def replying (body : String) : Http.Network := answering (.ok { status := 200, body })

theorem isAlive_answers_trailingFeed :
    (∃ u, agent.isAlive (replying " \"\"\n") {} = (.ok false, u)) ∧
    (∃ u, agent.isAlive (replying "\"10.0.0.1:8300\"\n") {} = (.ok true, u)) ∧
    (∃ u, agent.isAlive (answering (.error (.request "ReadTimeout" none))) {} = (.ok false, u)) ∧
    ∃ u, agent.isAlive (answering (.error (.foreign "OSError" none))) {}
      = (.error (.foreign "OSError" none), u) := by
  refine ⟨?leaderless, ?led, ?unreachable, ?passed⟩
  case leaderless =>
    obtain ⟨-, -, replied⟩ := isAlive_answers agent (replying " \"\"\n") {}
    obtain ⟨alive, hanswer, halive⟩ := replied _ _ rfl
    have hleaderless : Leaderless " \"\"\n" :=
      ⟨[' '], ['"', '"'], ['\n'], by decide, List.forall_mem_singleton.mpr (by decide), by simp,
        List.forall_mem_singleton.mpr (by decide)⟩
    obtain rfl : alive = false := Bool.eq_false_iff.mpr fun h => (halive.mp h).2 hleaderless
    exact ⟨_, hanswer⟩
  case led =>
    obtain ⟨-, -, replied⟩ := isAlive_answers agent (replying "\"10.0.0.1:8300\"\n") {}
    obtain ⟨alive, hanswer, halive⟩ := replied _ _ rfl
    have hled : ¬ Leaderless "\"10.0.0.1:8300\"\n" := by
      rw [← namesLeader_eq_false_iff]
      decide
    obtain rfl : alive = true := halive.mpr ⟨rfl, hled⟩
    exact ⟨_, hanswer⟩
  case unreachable =>
    obtain ⟨unreachable, -, -⟩ :=
      isAlive_answers agent (answering (.error (.request "ReadTimeout" none))) {}
    exact unreachable _ _ rfl rfl
  case passed =>
    obtain ⟨-, passed, -⟩ :=
      isAlive_answers agent (answering (.error (.foreign "OSError" none))) {}
    exact ⟨_, passed _ _ rfl rfl⟩

end StartupGate.Consul
