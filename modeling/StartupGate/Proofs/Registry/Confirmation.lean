import StartupGate.Proofs.Check.Strategy
import StartupGate.Proofs.Registry.Health
/-!
# What a Consul registry confirms

A service is available when the catalog of the registry holds it and none of its health checks
fails. `Consul.isAvailable_answers` says so for replies of the shape that a registry gives: in every
other case the question is refused, and the health checks are asked for exactly when the catalog
holds the service. `Consul.bodies_of_available` goes the other way, from a confirmed service to the
bodies that confirmed it, whatever their shape. A check counts as passing unless its status is one
of those that fail, even where the status is unknown or absent
(`Consul.exists_available_not_allPass`).
-/

namespace StartupGate.Consul

/-! ## The bodies of replies -/

/-- Whether a body is a catalog: a record, or nothing. -/
def isCatalog (body : String) : Bool :=
  match Json.parse body with
  | .ok .null | .ok (.record _) => true
  | _ => false

/-- Whether a body is a catalog with a service for one of its keys. -/
def lists (body service : String) : Bool :=
  match Json.parse body with
  | .ok (.record entries) => entries.any (·.1.sameKey (.text service))
  | _ => false

/-- Whether a body has health checks: a list of them, or nothing. -/
def isCheckList (body : String) : Bool :=
  match Json.parse body with
  | .ok .null => true
  | .ok (.list checks) => checks.all Health.isCheck
  | _ => false

/-- Whether there is no check that fails among the health checks of a body. -/
def noneFails (body : String) : Bool :=
  match Json.parse body with
  | .ok (.list checks) => !checks.any Health.fails
  | _ => true

theorem decode_of_parse {body : String} {d : Data} (h : Json.parse body = .ok d) :
    decode body = .ok d := by
  rw [decode, h]

theorem parse_of_decode {body : String} {d : Data} (h : decode body = .ok d) :
    Json.parse body = .ok d := by
  rw [decode] at h
  split at h
  · rename_i hbody
    rw [hbody, Except.ok.inj h]
  · cases h

theorem parse_of_isCatalog {body : String} (h : isCatalog body = true) :
    Json.parse body = .ok .null ∨ ∃ entries, Json.parse body = .ok (.record entries) := by
  rw [isCatalog] at h
  split at h
  · rename_i hnull
    exact .inl hnull
  · rename_i entries hrecord
    exact .inr ⟨entries, hrecord⟩
  · cases h

theorem parse_of_isCheckList {body : String} (h : isCheckList body = true) :
    Json.parse body = .ok .null ∨
      ∃ checks, Json.parse body = .ok (.list checks) ∧ ∀ d ∈ checks, Health.isCheck d = true := by
  rw [isCheckList] at h
  split at h
  · rename_i hnull
    exact .inl hnull
  · rename_i checks hlist
    exact .inr ⟨checks, hlist, List.all_eq_true.mp h⟩
  · cases h

theorem noneFails_iff_of_parse {body : String} {checks : List Data}
    (h : Json.parse body = .ok (.list checks)) :
    noneFails body = true ↔ ∀ d ∈ checks, Health.fails d = false := by
  simp [noneFails, h]

/-! ## What data holds, and the health it stands for -/

theorem holds_null (service : String) : holds .null service = .ok false := rfl

theorem holds_record (entries : Entries) (service : String) :
    holds (.record entries) service = .ok (entries.any (·.1.sameKey (.text service))) := by
  rw [Entries.any_sameKey]
  cases entries <;> rfl

/-- A list of characters contains exactly its infixes as runs. -/
theorem containsRun_eq_true_iff {part l : List Char} : containsRun part l = true ↔ part <:+: l := by
  induction l with
  | nil => rw [containsRun, List.isEmpty_iff, List.infix_nil]
  | cons c r ih =>
    rw [containsRun, Bool.or_eq_true, List.isPrefixOf_iff_prefix, ih, List.infix_cons_iff]

/-- Data is the same key as a text only if it is this text. -/
theorem eq_text_of_sameKey {d : Data} {s : String} (h : d.sameKey (.text s) = true) :
    d = .text s := by
  cases d with
  | text t => rw [beq_iff_eq.mp h]
  | _ => simp [Data.sameKey, Data.asNumber?] at h

/-- Data that holds a service is a record with the service for a key, a list with the service for an
element or a text with the service in it. -/
theorem of_holds_eq_true {d : Data} {service : String} (h : holds d service = .ok true) :
    (∃ entries, d = .record entries ∧ entries.any (·.1.sameKey (.text service)) = true) ∨
      (∃ items, d = .list items ∧ .text service ∈ items) ∨
      ∃ s, d = .text s ∧ service.toList <:+: s.toList := by
  by_cases htruthy : d.isTruthy = true
  case neg =>
    -- Data that counts as false holds nothing.
    rw [holds, Data.orEmptyRecord, if_neg htruthy] at h
    cases h
  cases d with
  | record entries =>
    rw [holds_record] at h
    exact .inl ⟨entries, rfl, Except.ok.inj h⟩
  | list items =>
    -- No number and no truth value is the same key as a text.
    rw [holds, Data.orEmptyRecord, if_pos htruthy] at h
    obtain ⟨item, hitem, hsame⟩ := List.any_eq_true.mp (Except.ok.inj h)
    rw [eq_text_of_sameKey hsame] at hitem
    exact .inr (.inl ⟨items, rfl, hitem⟩)
  | text s =>
    rw [holds, Data.orEmptyRecord, if_pos htruthy] at h
    exact .inr (.inr ⟨s, rfl, containsRun_eq_true_iff.mp (Except.ok.inj h)⟩)
  | _ =>
    -- All other data has no members to look through.
    rw [holds, Data.orEmptyRecord, if_pos htruthy] at h
    cases h

/-- The health that the data of a body stands for: data that counts as false has no checks. -/
def healthOf (d : Data) : Except Fault Health :=
  if d.isTruthy then Health.aggregate d else .ok .passing

theorem healthOf_list (checks : List Data) : healthOf (.list checks) = Health.ofItems checks := by
  cases checks <;> rfl

/-- Where none of the data is a health check, its health is passing only if there is no data. -/
theorem eq_nil_of_ofItems_eq_passing {items : List Data}
    (h : Health.ofItems items = .ok .passing) (hitems : ∀ d ∈ items, Health.isCheck d = false) :
    items = [] := by
  rw [Health.ofItems_eq_passing_iff] at h
  refine List.eq_nil_iff_forall_not_mem.mpr fun d hd => ?_
  have hcheck := (h d hd).1
  rw [hitems d hd] at hcheck
  cases hcheck

/-- JSON data whose health is passing is a list of checks none of which fails, or it counts as
false. -/
theorem of_healthOf_eq_passing {d : Data} (hjson : d.IsJson) (h : healthOf d = .ok .passing) :
    (∃ checks, d = .list checks ∧
      ∀ e ∈ checks, Health.isCheck e = true ∧ Health.fails e = false) ∨ d.isTruthy = false := by
  by_cases htruthy : d.isTruthy = true
  case neg => exact .inr (Bool.eq_false_iff.mpr htruthy)
  rw [healthOf, if_pos htruthy, Health.aggregate] at h
  obtain ⟨items, hitems, h⟩ := exists_of_bind_eq_ok h
  cases d with
  | list checks =>
    cases hitems
    exact .inl ⟨_, rfl, Health.ofItems_eq_passing_iff.mp h⟩
  | text s =>
    -- A text is gone through by its characters, which are no checks.
    cases hitems
    have hnil := eq_nil_of_ofItems_eq_passing h (by simp [Health.isCheck])
    simp [Data.isTruthy] at htruthy hnil
    exact absurd hnil htruthy
  | record entries =>
    -- A record is gone through by its keys, which are texts.
    cases hitems
    have hkeys : ∀ k ∈ entries.map (·.1), Health.isCheck k = false := by
      intro k hk
      obtain ⟨e, he, rfl⟩ := List.mem_map.mp hk
      obtain ⟨name, hname⟩ := hjson e he
      rw [hname, Health.isCheck]
      simp
    have hnil := eq_nil_of_ofItems_eq_passing h hkeys
    rw [List.map_eq_nil_iff] at hnil
    simp [Data.isTruthy, hnil] at htruthy
  | null | bool | int | float => cases hitems
  | bytes | moment | clock | set => exact hjson.elim

/-! ## Judging the replies -/

section Judging

variable {reply : Http.Reply}

theorem judgeCatalog_of_status_ne (service : String) (h : reply.status ≠ 200) :
    judgeCatalog service reply = .error (.refused (.catalogStatus reply.status)) := by
  simp only [judgeCatalog, bne_iff_ne, ne_eq, h, not_false_eq_true, if_true]
  rfl

theorem judgeCatalog_of_holds {service : String} {d : Data} {held : Bool}
    (hstatus : reply.status = 200) (hbody : Json.parse reply.body = .ok d)
    (hheld : holds d service = .ok held) :
    judgeCatalog service reply
      = if held then .ok () else .error (.refused (.notRegistered service)) := by
  simp only [judgeCatalog, hstatus, bne_self_eq_false, Bool.false_eq_true, if_false,
    decode_of_parse hbody]
  show (holds d service >>= _) = _
  rw [hheld]
  cases held <;> rfl

/-- A catalog is accepted only when it is listed and holds the service. -/
theorem exists_of_judgeCatalog_eq_ok {service : String} (h : judgeCatalog service reply = .ok ()) :
    reply.status = 200 ∧ ∃ d, Json.parse reply.body = .ok d ∧ holds d service = .ok true := by
  by_cases hstatus : reply.status = 200
  · simp only [judgeCatalog, hstatus, bne_self_eq_false, Bool.false_eq_true, if_false] at h
    obtain ⟨d, hd, h⟩ := exists_of_bind_eq_ok h
    obtain ⟨held, hheld, h⟩ := exists_of_bind_eq_ok h
    refine ⟨hstatus, d, parse_of_decode hd, ?_⟩
    cases held with
    | true => exact hheld
    | false => cases h
  · rw [judgeCatalog_of_status_ne service hstatus] at h
    cases h

/-- A reply to the question for the catalog is accepted or refused. -/
theorem judgeCatalog_of_isCatalog (service : String)
    (h : reply.status = 200 → isCatalog reply.body = true) :
    (judgeCatalog service reply = .ok () ∧ reply.status = 200 ∧ lists reply.body service = true) ∨
      (∃ reason, judgeCatalog service reply = .error (.refused reason)) ∧
        ¬ (reply.status = 200 ∧ lists reply.body service = true) := by
  by_cases hstatus : reply.status = 200
  case neg =>
    exact .inr ⟨⟨_, judgeCatalog_of_status_ne service hstatus⟩, fun hlisted => hstatus hlisted.1⟩
  rcases parse_of_isCatalog (h hstatus) with hnull | ⟨entries, hrecord⟩
  · -- Nothing stands for a catalog without services.
    refine .inr ⟨⟨_, judgeCatalog_of_holds hstatus hnull (holds_null service)⟩, ?_⟩
    simp [lists, hnull]
  · have hjudged := judgeCatalog_of_holds hstatus hrecord (holds_record entries service)
    have hlists : lists reply.body service = entries.any (·.1.sameKey (.text service)) := by
      rw [lists, hrecord]
    rw [← hlists] at hjudged
    cases hlisted : lists reply.body service with
    | true =>
      rw [hlisted, if_pos rfl] at hjudged
      exact .inl ⟨hjudged, hstatus, rfl⟩
    | false =>
      rw [hlisted, if_neg (by simp)] at hjudged
      exact .inr ⟨⟨_, hjudged⟩, by simp⟩

theorem judgeHealth_of_status_ne (service : String) (h : reply.status ≠ 200) :
    judgeHealth service reply = .error (.refused (.healthStatus service reply.status)) := by
  simp only [judgeHealth, bne_iff_ne, ne_eq, h, not_false_eq_true, if_true]
  rfl

theorem judgeHealth_of_status_eq (service : String) (h : reply.status = 200) :
    judgeHealth service reply = (decode reply.body >>= healthOf) >>= fun health =>
      if health = .passing then .ok true
      else .error (.refused (.unhealthy service health.name)) := by
  simp only [judgeHealth, h, bne_self_eq_false, Bool.false_eq_true, if_false]
  cases decode reply.body with
  | error f => rfl
  | ok d =>
    show (if d.isTruthy = true then _ else _) = healthOf d >>= _
    rw [healthOf]
    cases d.isTruthy <;> rfl

/-- Health checks are accepted only when they are listed and their health is passing. -/
theorem exists_of_judgeHealth_eq_ok {service : String} (h : judgeHealth service reply = .ok true) :
    reply.status = 200 ∧ ∃ d, Json.parse reply.body = .ok d ∧ healthOf d = .ok .passing := by
  by_cases hstatus : reply.status = 200
  · rw [judgeHealth_of_status_eq service hstatus] at h
    obtain ⟨health, hhealth, h⟩ := exists_of_bind_eq_ok h
    obtain ⟨d, hd, hhealth⟩ := exists_of_bind_eq_ok hhealth
    refine ⟨hstatus, d, parse_of_decode hd, ?_⟩
    by_cases hpassing : health = .passing
    · rw [hhealth, hpassing]
    · rw [if_neg hpassing] at h
      cases h
  · rw [judgeHealth_of_status_ne service hstatus] at h
    cases h

/-- A reply to the question for health checks is accepted or refused. -/
theorem judgeHealth_of_isCheckList (service : String)
    (h : reply.status = 200 → isCheckList reply.body = true) :
    (judgeHealth service reply = .ok true ∧ reply.status = 200 ∧ noneFails reply.body = true) ∨
      (∃ reason, judgeHealth service reply = .error (.refused reason)) ∧
        ¬ (reply.status = 200 ∧ noneFails reply.body = true) := by
  by_cases hstatus : reply.status = 200
  case neg =>
    exact .inr ⟨⟨_, judgeHealth_of_status_ne service hstatus⟩, fun hpassed => hstatus hpassed.1⟩
  have hjudged := judgeHealth_of_status_eq service hstatus
  rcases parse_of_isCheckList (h hstatus) with hnull | ⟨checks, hlist, hchecks⟩
  · -- Nothing stands for no checks, and none of those fails.
    rw [decode_of_parse hnull] at hjudged
    exact .inl ⟨hjudged, hstatus, by rw [noneFails, hnull]⟩
  · obtain ⟨health, hhealth⟩ := Health.exists_ofItems hchecks
    have hnone : noneFails reply.body = true ↔ health = .passing := by
      rw [noneFails_iff_of_parse hlist]
      constructor
      · intro hnone
        have hpassing := Health.ofItems_eq_passing_iff.mpr fun d hd => ⟨hchecks d hd, hnone d hd⟩
        rw [hhealth] at hpassing
        exact Except.ok.inj hpassing
      · rintro rfl d hd
        exact (Health.ofItems_eq_passing_iff.mp hhealth d hd).2
    rw [decode_of_parse hlist] at hjudged
    change _ = healthOf (.list checks) >>= _ at hjudged
    rw [healthOf_list, hhealth] at hjudged
    by_cases hpassing : health = .passing
    · rw [hpassing] at hjudged
      exact .inl ⟨hjudged, hstatus, hnone.mpr hpassing⟩
    · refine .inr ⟨⟨_, hjudged.trans (if_neg hpassing)⟩, fun hpassed => ?_⟩
      exact hpassing (hnone.mp hpassed.2)

end Judging

/-! ## The two questions -/

/-- The record of a request. -/
def call (c : Consul) (path : String) : Call :=
  .get (c.base ++ path) (some c.timeout) (some c.headers)

theorem calls_request {c : Consul} {net : Http.Network} {path : String} {w u : Worker}
    {x : Except Fault Http.Reply} (h : c.request net path w = (x, u)) :
    u.calls = w.calls ++ [c.call path] := by
  have hsent := Http.calls_get net (c.base ++ path) (some c.timeout) (some c.headers) w
  rw [request] at h
  rwa [h] at hsent

section Questions

variable {c : Consul} {net : Http.Network} {service : String} {w u v last : Worker}
  {catalog health : Http.Reply}

theorem isAvailable_of_judgeCatalog_eq_error {f : Fault}
    (hcatalog : c.request net catalogPath w = (.ok catalog, u))
    (h : judgeCatalog service catalog = .error f) :
    c.isAvailable net service w = (.error f, u) := by
  simp only [isAvailable, hcatalog, h]

theorem isAvailable_of_judgeCatalog_eq_ok
    (hcatalog : c.request net catalogPath w = (.ok catalog, u))
    (hhealth : c.request net (healthPath service) u = (.ok health, v))
    (h : judgeCatalog service catalog = .ok ()) :
    c.isAvailable net service w = (judgeHealth service health, v) := by
  simp only [isAvailable, hcatalog, h, hhealth]

/-- A service that is confirmed was confirmed by two replies. -/
theorem exists_replies_of_available (h : c.isAvailable net service w = (.ok true, last)) :
    ∃ catalog u health, c.request net catalogPath w = (.ok catalog, u) ∧
      c.request net (healthPath service) u = (.ok health, last) ∧
      judgeCatalog service catalog = .ok () ∧ judgeHealth service health = .ok true := by
  rw [isAvailable] at h
  split at h
  · cases h
  · rename_i catalog u hcatalog
    split at h
    · cases h
    · rename_i hjudged
      split at h
      · cases h
      · rename_i health v hhealth
        obtain ⟨hpassed, rfl⟩ := Prod.mk.inj h
        exact ⟨catalog, u, health, hcatalog, hhealth, hjudged, hpassed⟩

/-- **A service is confirmed exactly when it is registered and none of its checks fails.** For two
replies of any status, whose bodies are of the shape that a registry gives where the status is 200:
the service is confirmed exactly when both replies have this status, the catalog holds the service
and no health check of it fails, and the question is refused in every other case. The catalog is
requested first, and the health checks are requested exactly when it holds the service. -/
theorem isAvailable_answers (hcatalog : c.request net catalogPath w = (.ok catalog, u))
    (hhealth : c.request net (healthPath service) u = (.ok health, v))
    (hlist : catalog.status = 200 → isCatalog catalog.body = true)
    (hchecks : health.status = 200 → isCheckList health.body = true) :
    ∃ answer last, c.isAvailable net service w = (answer, last) ∧
      (answer = .ok true ↔ (catalog.status = 200 ∧ lists catalog.body service = true) ∧
        health.status = 200 ∧ noneFails health.body = true) ∧
      (answer ≠ .ok true → ∃ reason, answer = .error (.refused reason)) ∧
      (catalog.status = 200 ∧ lists catalog.body service = true →
        last.calls = w.calls ++ [c.call catalogPath, c.call (healthPath service)]) ∧
      (¬ (catalog.status = 200 ∧ lists catalog.body service = true) →
        last.calls = w.calls ++ [c.call catalogPath]) := by
  have hfirst := calls_request hcatalog
  have hsecond := calls_request hhealth
  rcases judgeCatalog_of_isCatalog service hlist with
    ⟨hjudged, hlisted⟩ | ⟨⟨reason, hjudged⟩, hlisted⟩
  · have hanswer := isAvailable_of_judgeCatalog_eq_ok hcatalog hhealth hjudged
    refine ⟨_, v, hanswer, ?_, ?_, ?_, ?_⟩
    · rcases judgeHealth_of_isCheckList service hchecks with
        ⟨hpassed, hnone⟩ | ⟨⟨reason, hrefused⟩, hnone⟩
      · simp [hpassed, hlisted, hnone]
      · simp only [hrefused, hnone, and_false, reduceCtorEq]
    · intro hno
      rcases judgeHealth_of_isCheckList service hchecks with ⟨hpassed, -⟩ | ⟨hrefused, -⟩
      · exact absurd hpassed hno
      · exact hrefused
    · intro _
      rw [hsecond, hfirst, List.append_assoc]
      rfl
    · exact fun h => absurd hlisted h
  · -- The health checks are not asked for.
    refine ⟨_, u, isAvailable_of_judgeCatalog_eq_error hcatalog hjudged, ?_, ?_, ?_, ?_⟩
    · simp only [hlisted, false_and, reduceCtorEq]
    · exact fun _ => ⟨reason, rfl⟩
    · exact fun h => absurd h hlisted
    · exact fun _ => hfirst

/-- A client of a registry. -/
def agent : Consul := .of "http://c:8500" none 5

/-- A registry that gives its catalog and the health checks of one service. -/
def listing (catalog health : String) : Http.Network := .ofScripts
  [("http://c:8500/v1/catalog/services", [{ answer := .ok { status := 200, body := catalog } }]),
   ("http://c:8500/v1/health/checks/core-data",
     [{ answer := .ok { status := 200, body := health } }])]

theorem exists_request_listing (catalog health : String) :
    ∃ u v, agent.request (listing catalog health) catalogPath {}
        = (.ok { status := 200, body := catalog }, u) ∧
      agent.request (listing catalog health) (healthPath "core-data") u
        = (.ok { status := 200, body := health }, v) :=
  ⟨_, _, rfl, rfl⟩

/-- One service is registered. -/
def oneService : String := "\x7b\"core-data\": []\x7d"

/-- One of two checks fails. -/
def oneFailing : String :=
  "[\x7b\"Status\": \"passing\"\x7d, \x7b\"Status\": \"warning\"\x7d]"

theorem isAvailable_answers_oneFailing :
    isCatalog oneService = true ∧ isCheckList oneFailing = true ∧
      ∃ reason last,
        agent.isAvailable (listing oneService oneFailing) "core-data" {}
          = (.error (.refused reason), last) ∧
        last.calls = [agent.call catalogPath, agent.call (healthPath "core-data")] := by
  obtain ⟨u, v, hcatalog, hhealth⟩ := exists_request_listing oneService oneFailing
  have hlist : isCatalog oneService = true := by decide +kernel
  have hlisted : lists oneService "core-data" = true := by decide +kernel
  have hchecks : isCheckList oneFailing = true := by decide +kernel
  have hfails : noneFails oneFailing = false := by decide +kernel
  obtain ⟨answer, last, hanswer, hconfirmed, hrefused, hcalls, -⟩ :=
    isAvailable_answers hcatalog hhealth (fun _ => hlist) (fun _ => hchecks)
  obtain ⟨reason, rfl⟩ := hrefused fun hyes => by simp [hconfirmed, hfails] at hyes
  exact ⟨hlist, hchecks, reason, last, hanswer, hcalls ⟨rfl, hlisted⟩⟩

/-! ## Bodies of any shape -/

/-- **What a confirmed service was confirmed by.** Whatever the replies are, both have the status
200; a service that is confirmed is a key of the catalog, an element of a list in its place or part
of a text in its place, and it has health checks none of which fails, unless their body counts as
false. -/
theorem bodies_of_available (h : c.isAvailable net service w = (.ok true, last)) :
    ∃ catalog u health, c.request net catalogPath w = (.ok catalog, u) ∧
      c.request net (healthPath service) u = (.ok health, last) ∧
      catalog.status = 200 ∧ health.status = 200 ∧
      (lists catalog.body service = true ∨
        (∃ items, Json.parse catalog.body = .ok (.list items) ∧ .text service ∈ items) ∨
          ∃ s, Json.parse catalog.body = .ok (.text s) ∧ service.toList <:+: s.toList) ∧
      ((isCheckList health.body = true ∧ noneFails health.body = true) ∨
        ∃ d, Json.parse health.body = .ok d ∧ d.isTruthy = false) := by
  obtain ⟨catalog, u, health, hcatalog, hhealth, hlisted, hpassed⟩ := exists_replies_of_available h
  obtain ⟨hstatus, d, hd, hheld⟩ := exists_of_judgeCatalog_eq_ok hlisted
  obtain ⟨hstatus', d', hd', hpassing⟩ := exists_of_judgeHealth_eq_ok hpassed
  refine ⟨catalog, u, health, hcatalog, hhealth, hstatus, hstatus', ?_, ?_⟩
  · rcases of_holds_eq_true hheld with ⟨entries, rfl, hmem⟩ | ⟨items, rfl, hmem⟩ | ⟨s, rfl, hpart⟩
    · refine .inl ?_
      rw [lists, hd]
      exact hmem
    · exact .inr (.inl ⟨items, hd, hmem⟩)
    · exact .inr (.inr ⟨s, hd, hpart⟩)
  · rcases of_healthOf_eq_passing (Json.isJson_of_parse hd') hpassing with
      ⟨checks, rfl, hchecks⟩ | hfalse
    · have hall : isCheckList health.body = true := by
        rw [isCheckList, hd']
        exact List.all_eq_true.mpr fun e he => (hchecks e he).1
      exact .inl ⟨hall, (noneFails_iff_of_parse hd').mpr fun e he => (hchecks e he).2⟩
    · exact .inr ⟨d', hd', hfalse⟩

end Questions

/-- The registry confirms its service where both replies are accepted. -/
theorem exists_available_listing {catalog health : String}
    (hlisted : (judgeCatalog "core-data" { status := 200, body := catalog }).toOption = some ())
    (hpassed : (judgeHealth "core-data" { status := 200, body := health }).toOption = some true) :
    ∃ last, agent.isAvailable (listing catalog health) "core-data" {} = (.ok true, last) := by
  obtain ⟨u, v, hcatalog, hhealth⟩ := exists_request_listing catalog health
  cases hfirst : judgeCatalog "core-data" { status := 200, body := catalog } with
  | error f => simp [hfirst, Except.toOption] at hlisted
  | ok _ =>
    rw [isAvailable_of_judgeCatalog_eq_ok hcatalog hhealth hfirst]
    cases hsecond : judgeHealth "core-data" { status := 200, body := health } with
    | error f => simp [hsecond, Except.toOption] at hpassed
    | ok answer =>
      obtain rfl : answer = true := by simpa [hsecond, Except.toOption] using hpassed
      exact ⟨v, rfl⟩

/-- One check has a status that is not known, the other has none. -/
def unknownStatus : String := "[\x7b\"Status\": \"unknown\"\x7d, \x7b\x7d]"

theorem exists_available_unknownStatus :
    ∃ last, agent.isAvailable (listing oneService unknownStatus) "core-data" {}
      = (.ok true, last) := by
  apply exists_available_listing
  · decide +kernel
  · decide +kernel

theorem bodies_of_available_unknownStatus :
    ∃ last, agent.isAvailable (listing oneService unknownStatus) "core-data" {} = (.ok true, last) ∧
      (lists oneService "core-data" = true ∨
        (∃ items, Json.parse oneService = .ok (.list items) ∧ .text "core-data" ∈ items) ∨
          ∃ s, Json.parse oneService = .ok (.text s) ∧ "core-data".toList <:+: s.toList) ∧
      ((isCheckList unknownStatus = true ∧ noneFails unknownStatus = true) ∨
        ∃ d, Json.parse unknownStatus = .ok d ∧ d.isTruthy = false) := by
  obtain ⟨last, hyes⟩ := exists_available_unknownStatus
  obtain ⟨catalog, u, health, hcatalog, hhealth, -, -, hlisted, hpassed⟩ := bodies_of_available hyes
  obtain ⟨u', v, hcatalog', hhealth'⟩ := exists_request_listing oneService unknownStatus
  -- The two replies are those that the registry gives.
  rw [hcatalog', Prod.mk.injEq] at hcatalog
  obtain ⟨hreply, rfl⟩ := hcatalog
  rw [hhealth', Prod.mk.injEq] at hhealth
  rw [← Except.ok.inj hreply] at hlisted
  rw [← Except.ok.inj hhealth.1] at hpassed
  exact ⟨last, hyes, hlisted, hpassed⟩

/-- Whether a body has health checks all of which say that they are passing. -/
def allPass (body : String) : Bool :=
  match Json.parse body with
  | .ok .null => true
  | .ok (.list checks) => checks.all (Health.hasStatus ["passing"])
  | _ => false

/-- A service is confirmed by health checks that do not say that they are passing. It is also
confirmed by a list or a text in place of a catalog, with a body that has no health checks at all. -/
theorem exists_available_not_allPass :
    (∃ last, agent.isAvailable (listing oneService unknownStatus) "core-data" {}
        = (.ok true, last)) ∧
      allPass unknownStatus = false ∧
    (∃ last, agent.isAvailable (listing "[\"core-data\"]" "false") "core-data" {}
        = (.ok true, last)) ∧
      isCatalog "[\"core-data\"]" = false ∧ allPass "false" = false ∧
    (∃ last, agent.isAvailable (listing "\"no core-data\"" "\x7b\x7d") "core-data" {}
        = (.ok true, last)) ∧
      isCatalog "\"no core-data\"" = false ∧ allPass "\x7b\x7d" = false := by
  refine ⟨exists_available_unknownStatus, by decide +kernel, ?_, by decide +kernel,
    by decide +kernel, ?_, by decide +kernel, by decide +kernel⟩
  · apply exists_available_listing
    · decide +kernel
    · decide +kernel
  · apply exists_available_listing
    · decide +kernel
    · decide +kernel

end StartupGate.Consul
