import StartupGate.Gate
/-!
# The first gap

Services are judged in the order in which they are listed, and of each the host before the port. So
the gap that is found belongs to the first service that lacks a setting
(`Config.firstGap?_eq_some_iff`), and there is none exactly when every service has an endpoint with
both (`Config.firstGap?_eq_none_iff`). Services that come later do not matter, nor does it matter
whether one is listed again.
-/

namespace StartupGate

/-! ## One endpoint -/

theorem Endpoint.missing?_eq_none_iff {e : Endpoint} :
    e.missing? = none ↔ e.host ≠ "" ∧ e.port ≠ 0 := by
  rw [Endpoint.missing?]
  by_cases hhost : e.host = ""
  · simp [hhost]
  · by_cases hport : e.port = 0 <;> simp [hhost, hport]

theorem Endpoint.missing?_eq_some_iff {e : Endpoint} {setting : Setting} :
    e.missing? = some setting ↔
      setting = .host ∧ e.host = "" ∨ setting = .port ∧ e.host ≠ "" ∧ e.port = 0 := by
  rw [Endpoint.missing?]
  by_cases hhost : e.host = ""
  · cases setting <;> simp [hhost]
  · by_cases hport : e.port = 0 <;> cases setting <;> simp [hhost, hport]

/-! ## The services of a list -/

namespace Config

variable {c : Config} {required : List String}

theorem firstGap?_eq_none_iff :
    c.firstGap? required = none ↔
      ∀ k ∈ required, (c.endpoint k).host ≠ "" ∧ (c.endpoint k).port ≠ 0 := by
  rw [Config.firstGap?, List.findSome?_eq_none_iff]
  refine forall₂_congr fun k _ => ?_
  rw [Option.map_eq_none_iff, Endpoint.missing?_eq_none_iff]

/-- A gap is found where a service lacks a setting and no service before it does. -/
theorem firstGap?_eq_some_iff {gap : Gap} :
    c.firstGap? required = some gap ↔
      ∃ before after setting, required = before ++ gap.service :: after ∧
        (∀ k ∈ before, (c.endpoint k).host ≠ "" ∧ (c.endpoint k).port ≠ 0) ∧
        (c.endpoint gap.service).missing? = some setting ∧ gap.setting = setting.name := by
  rw [firstGap?, List.findSome?_eq_some_iff]
  constructor
  · rintro ⟨before, service, after, hsplit, hgap, hbefore⟩
    obtain ⟨setting, hsetting, rfl⟩ := Option.map_eq_some_iff.mp hgap
    refine ⟨before, after, setting, hsplit, ?_, hsetting, rfl⟩
    intro k hk
    apply Endpoint.missing?_eq_none_iff.mp
    exact Option.map_eq_none_iff.mp (hbefore k hk)
  · obtain ⟨service, name⟩ := gap
    rintro ⟨before, after, setting, hsplit, hbefore, hsetting, rfl⟩
    refine ⟨before, service, after, hsplit, ?_, ?_⟩
    · rw [hsetting, Option.map_some]
    · intro k hk
      rw [Endpoint.missing?_eq_none_iff.mpr (hbefore k hk), Option.map_none]

/-- A service lacks a setting. One that is not configured has an empty endpoint and lacks both. -/
def Lacks (c : Config) (service : String) : Prop :=
  (c.endpoint service).host = "" ∨ (c.endpoint service).port = 0

theorem not_lacks_iff {service : String} :
    ¬ c.Lacks service ↔ (c.endpoint service).host ≠ "" ∧ (c.endpoint service).port ≠ 0 := not_or

theorem exists_missing_iff {service name : String} :
    (∃ setting, (c.endpoint service).missing? = some setting ∧ name = setting.name) ↔
      c.Lacks service ∧ name = if (c.endpoint service).host = "" then "Host" else "Port" := by
  by_cases hhost : (c.endpoint service).host = ""
  · simp [Lacks, Endpoint.missing?, hhost, Setting.name]
  · by_cases hport : (c.endpoint service).port = 0
    · simp [Lacks, Endpoint.missing?, hhost, hport, Setting.name]
    · simp [Lacks, Endpoint.missing?, hhost, hport]

/-- **The gap that is found is the first.** It names a service of the list exactly when this service
lacks a setting and none before it does, and it names the host where that is missing, whatever the
port is. No gap is found exactly when all services of the list are configured, each with a host and
with a port other than zero. -/
theorem gap_is_first (c : Config) (required : List String) :
    (∀ service setting, c.firstGap? required = some { service, setting } ↔
      (∃ before after, required = before ++ service :: after ∧ c.Lacks service ∧
        ∀ k ∈ before, ¬ c.Lacks k) ∧
      setting = if (c.endpoint service).host = "" then "Host" else "Port") ∧
    (c.firstGap? required = none ↔
      ∀ k ∈ required, ∃ e, c.endpoint? k = some e ∧ e.host ≠ "" ∧ e.port ≠ 0) := by
  refine ⟨fun service name => ?gap, ?none⟩
  case gap =>
    rw [firstGap?_eq_some_iff]
    simp only [not_lacks_iff]
    constructor
    · rintro ⟨before, after, setting, hsplit, hbefore, hmissing, hname⟩
      obtain ⟨hlacks, hname⟩ := exists_missing_iff.mp ⟨setting, hmissing, hname⟩
      exact ⟨⟨before, after, hsplit, hlacks, hbefore⟩, hname⟩
    · rintro ⟨⟨before, after, hsplit, hlacks, hbefore⟩, hname⟩
      obtain ⟨setting, hmissing, hname⟩ := exists_missing_iff.mpr ⟨hlacks, hname⟩
      exact ⟨before, after, setting, hsplit, hbefore, hmissing, hname⟩
  case none =>
    rw [firstGap?_eq_none_iff]
    refine forall₂_congr fun k _ => ?_
    constructor
    · rintro ⟨hhost, hport⟩
      exact ⟨_, endpoint?_of_host hhost, hhost, hport⟩
    · rintro ⟨e, hendpoint, hcomplete⟩
      rwa [endpoint, hendpoint, Option.getD_some]

/-- The service that is not configured comes before the one that has no port. -/
example :
    ({ clients := [("a", { host := "h" }), ("b", { host := "h", port := 1 })] } : Config).firstGap?
      ["b", "c", "a", "c"] = some { service := "c", setting := "Host" } := by
  decide

end Config

end StartupGate
