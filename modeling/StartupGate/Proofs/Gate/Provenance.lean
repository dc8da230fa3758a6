import StartupGate.Proofs.Check.Ping
import StartupGate.Proofs.Check.Requests
import StartupGate.Proofs.Gate.Attempts
import StartupGate.Proofs.Gate.Timeliness
/-!
# What is published is what was probed

The gate looks an endpoint up in every attempt that pings its service, and once more when it
publishes the handles, and both times trailing slashes are dropped from the address. The two come to
the same address: when the gate opens, the last request of the worker of a service was a ping below
the very address to which the published handles of this service will send their requests, and it was
answered with success (`Gate.published_were_probed`).
-/

namespace StartupGate

/-! ## The published handles -/

/-- The names that are published, each with the kind of its handle and the service that the handle
is for. -/
def publishedHandles : List (String × HandleKind × String) :=
  [("MetadataDeviceClient", .device, metadataService),
   ("MetadataDeviceServiceClient", .deviceService, metadataService),
   ("MetadataDeviceProfileClient", .deviceProfile, metadataService),
   ("MetadataProvisionWatcherClient", .provisionWatcher, metadataService),
   ("CoredataEventClient", .event, dataService)]

theorem Directory.Publishes.get?_eq {config : Config} {old new : Directory}
    (h : old.Publishes config new) :
    ∀ p ∈ publishedHandles, new.get? p.1 = some ⟨p.2.1, (config.endpoint p.2.2).address⟩ := by
  simp only [publishedHandles, List.forall_mem_cons]
  exact ⟨h.device, h.deviceService, h.deviceProfile, h.provisionWatcher, h.event, by simp⟩

theorem service_mem_requiredServices : ∀ p ∈ publishedHandles, p.2.2 ∈ requiredServices := by
  decide

/-! ## The ping that settled a worker -/

/-- `base` is an address without its trailing slashes. -/
structure Text.DropsSlashes (url base : String) : Prop where
  dropped : ∃ slashes : List Char, (∀ c ∈ slashes, c = '/') ∧ url.toList = base.toList ++ slashes
  kept : base.toList.getLast? ≠ some '/'

theorem Text.dropsSlashes (url : String) : DropsSlashes url (dropSlashes url) :=
  ⟨exists_dropSlashes_append url, getLast?_dropSlashes url⟩

/-- The last call of a worker was a request to an address, which was answered with a status from 200
to 299. -/
def Worker.LastAnswered (net : Http.Network) (url : String) (w : Worker) : Prop :=
  ∃ (earlier : Worker) (timeout : Option Float) (reply : Http.Reply),
    Http.get net url timeout none earlier = (.ok reply, w) ∧
    w.calls = earlier.calls ++ [.get url timeout none] ∧ 200 ≤ reply.status ∧ reply.status ≤ 299

theorem Http.isSuccess_iff {status : Int} :
    isSuccess status = true ↔ 200 ≤ status ∧ status ≤ 299 := by
  rw [isSuccess, Bool.and_eq_true, decide_eq_true_eq, decide_eq_true_eq]
  omega

theorem Http.exists_get_of_ping {net : Network} {base : String} {timeout : Option Float}
    {w u : Worker} {status : Int} (h : ping net base timeout w = (.ok status, u)) :
    ∃ reply, get net (pingUrl base) timeout none w = (.ok reply, u) ∧ reply.status = status := by
  rw [ping] at h
  split at h
  · rename_i reply v hget
    obtain ⟨hstatus, rfl⟩ := Prod.mk.inj h
    exact ⟨reply, hget, Except.ok.inj hstatus⟩
  · cases h

/-- An attempt that finds its service available ends with an answer of the configured endpoint. -/
theorem Strategy.lastAnswered_of_ping {net : Http.Network} {config : Config} {service : String}
    {w u : Worker} (h : ping net config service w = (.ok .available, u)) :
    u.LastAnswered net (config.pingUrl service) := by
  simp only [ping] at h
  split at h
  · cases h
  rename_i endpoint hendpoint
  split at h
  · cases h
  rename_i url timeout htarget
  -- The address that was looked up is the one that is published.
  have hurl : config.pingUrl service = Http.pingUrl url := by
    rw [Config.pingUrl, Config.endpoint, hendpoint, Option.getD_some,
      (target_eq_ok_iff.mp htarget).1.2]
  split at h
  · -- A request without answer never tells of an available service.
    split at h <;> cases h
  rename_i status v hping
  split at h
  · rename_i hsuccess
    obtain rfl : v = u := (Prod.mk.inj h).2
    obtain ⟨reply, hget, rfl⟩ := Http.exists_get_of_ping hping
    have hcalls := Http.recorded_of_ping hping
    obtain ⟨hleast, hgreatest⟩ := Http.isSuccess_iff.mp hsuccess
    rw [hurl]
    exact ⟨_, _, reply, hget, hcalls, hleast, hgreatest⟩
  · cases h

/-! ## The gate -/

namespace Gate

/-- **What is published is what was probed.** When the gate opens without a registry, whatever the
configuration, the timers and the network: for every published handle, the last request of the
worker of its service went to the ping route below the base address of the handle, and was answered
with a status from 200 to 299. The endpoint of the handle is below the same address, which is the
base address without its trailing slashes. -/
theorem published_were_probed {completion : List String → List String} {timers : TimerFactory}
    {net : Http.Network} {config : Config} {initial : String → Worker} {clients : Directory}
    {a : Answer} (hcompletion : ∀ l, (completion l).Perm l)
    (h : check completion timers net config none initial clients = some a)
    (hready : a.ready = .ok true) :
    ∀ p ∈ publishedHandles, ∃ handle base, a.clients.get? p.1 = some handle ∧ handle.kind = p.2.1 ∧
      (config.endpoint p.2.2).url = .ok handle.baseUrl ∧ Text.DropsSlashes handle.baseUrl base ∧
      handle.endpoint = base ++ "/api/v2" ++ handle.kind.route ∧
      ∃ r ∈ a.reports, r.service = p.2.2 ∧
        r.worker.LastAnswered net (base ++ "/api/v2/ping") := by
  rintro ⟨name, kind, service⟩ hp
  have hrequired := service_mem_requiredServices _ hp
  have hpublish := publish_of_ready hcompletion h hready
  have hhandle := (Directory.publishes_of_publish hpublish).get?_eq _ hp
  -- An address that was published could be written.
  have hfits := (Directory.publish_eq_ok_iff.mp hpublish).1 _ hrequired
  refine ⟨_, _, hhandle, rfl, Endpoint.url_eq_ok_iff.mpr ⟨hfits, rfl⟩, Text.dropsSlashes _, rfl, ?_⟩
  -- It remains to find the worker of the service, which was settled by its last attempt, and to
  -- tell that this was a ping of the same endpoint.
  obtain ⟨r, hr, hservice, hresult, hrun⟩ :=
    exists_report_of_ready hcompletion h hready hrequired
  obtain ⟨-, made, hran⟩ := CheckAll.exists_ran_of_runWorker hrun
  obtain ⟨x, hx, hanswer, hafter⟩ := hran.exists_settling hresult
  have hattempt := hran.attempt_of_mem hx
  rw [hservice, hanswer, hafter] at hattempt
  exact ⟨r, hr, hservice, Strategy.lastAnswered_of_ping hattempt⟩

theorem published_were_probed_slowAnswers :
    ∃ a, check id (Pace.mk (.whole 5) (.whole 1)).factory slowAnswers bothConfigured none
        (fun _ => {}) {} = some a ∧ a.ready = .ok true ∧
      ∃ handle base, a.clients.get? "CoredataEventClient" = some handle ∧
        handle.baseUrl = "http://d:2" ∧ Text.DropsSlashes "http://d:2" base ∧
        handle.endpoint = base ++ "/api/v2" ++ "/event" ∧
        ∃ r ∈ a.reports, r.service = dataService ∧
          r.worker.LastAnswered slowAnswers (base ++ "/api/v2/ping") := by
  obtain ⟨a, hcheck, hready⟩ := exists_ready_slowAnswers
  obtain ⟨handle, base, hhandle, hkind, hurl, hbase, hendpoint, hworker⟩ :=
    published_were_probed (fun _ => .refl _) hcheck hready
      ("CoredataEventClient", .event, dataService) (by decide)
  have hurl : handle.baseUrl = "http://d:2" :=
    (Endpoint.url_eq_ok_iff.mp hurl).2.trans (by decide)
  rw [hurl] at hbase
  rw [hkind] at hendpoint
  exact ⟨a, hcheck, hready, handle, base, hhandle, hurl, hbase, hendpoint, hworker⟩

end Gate

end StartupGate
