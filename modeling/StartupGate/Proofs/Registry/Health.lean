import Mathlib.Data.Nat.Basic
import Mathlib.Order.MinMax
import StartupGate.Proofs.Json.Shape
import StartupGate.Registry.Health
/-!
# Health checks

The health of a service is that of the worst of its checks, in whatever order and however often they
are listed. `Health` is ordered by how bad it is. The statuses of the checks are searched for the
worst failure first, so that the health they stand for is bounded exactly by the failures among them
(`Health.ofStatuses_le_iff`); what becomes of joined, longer and reordered lists is read off this
bound.

`Health.isCheck` tells which data is a health check at all, and `Health.fails` which checks fail. A
list of checks has a health, which is passing exactly when none of them fails. Of other data in the
list the first is reported, with what makes it unfit (`Health.Unfit`). The main statement is
`Health.aggregate_is_worst`.
-/

namespace StartupGate

/-- A key of a record is the same as a name exactly when the record has a field of that name. -/
theorem Entries.any_sameKey {entries : Entries} {name : String} :
    entries.any (·.1.sameKey (.text name)) = (field? entries name).isSome := by
  induction entries with
  | nil => rfl
  | cons first rest ih =>
    obtain ⟨k, v⟩ := first
    rw [List.any_cons, ih]
    cases k with
    | text s => by_cases hs : s = name <;> simp [Data.sameKey, field?, hs]
    | _ => simp [Data.sameKey, Data.asNumber?, field?]

namespace Health

/-- Whether data is a health check: a record whose status, if it has one, is no collection. -/
def isCheck : Data → Bool
  | .record entries => (Entries.field? entries "Status").all Data.isKey
  | _ => false

/-- The statuses of the checks that fail, the worst first. -/
def failing : List String := ["critical", "warning", "maintenance"]

/-- Whether the status of a health check is one of a list. -/
def hasStatus (statuses : List String) : Data → Bool
  | .record entries =>
    match Entries.field? entries "Status" with
    | some (.text s) => statuses.contains s
    | _ => false
  | _ => false

/-- Whether a health check fails. -/
def fails (d : Data) : Bool := hasStatus failing d

/-! ## The scale -/

/-- The place of a health on the scale, the worst highest. -/
def severity : Health → Nat
  | .passing => 0
  | .maintenance => 1
  | .warning => 2
  | .critical => 3

theorem severity_injective : Function.Injective severity := by
  intro a b h
  cases a <;> cases b <;> simp [severity] at h ⊢

/-- Of two healths the worse is the greater. -/
instance : LinearOrder Health := LinearOrder.lift' severity severity_injective

theorem passing_le (h : Health) : passing ≤ h := Nat.zero_le h.severity

theorem le_passing_iff {h : Health} : h ≤ passing ↔ h = passing :=
  ⟨fun hle => le_antisymm hle (passing_le h), fun heq => heq ▸ le_rfl⟩

theorem ne_passing_of_mem_failures {f : Health} (hf : f ∈ failures) : f ≠ passing := by
  rintro rfl
  exact absurd hf (by decide)

/-- A search that goes from the worst health down comes to the worst that there is. -/
theorem getD_find?_le_iff {scale : List Health} (hscale : scale.Pairwise (· ≥ ·))
    (p : Health → Bool) (h : Health) :
    (scale.find? p).getD .passing ≤ h ↔ ∀ f ∈ scale, p f = true → f ≤ h := by
  induction scale with
  | nil => simp [passing_le]
  | cons worst rest ih =>
    obtain ⟨hworst, hrest⟩ := List.pairwise_cons.mp hscale
    rw [List.forall_mem_cons]
    by_cases hp : p worst = true
    · -- The search ends here, and nothing further down is worse.
      rw [List.find?_cons_of_pos hp, Option.getD_some]
      constructor
      · intro hle
        exact ⟨fun _ => hle, fun f hf _ => (hworst f hf).trans hle⟩
      · intro hall
        exact hall.1 hp
    · rw [List.find?_cons_of_neg hp, ih hrest]
      constructor
      · intro hall
        exact ⟨fun h => absurd h hp, hall⟩
      · intro hall
        exact hall.2

/-- The health that statuses stand for is bounded by the failures whose names are among them. -/
theorem ofStatuses_le_iff {statuses : List Data} {h : Health} :
    ofStatuses statuses ≤ h ↔ ∀ f ∈ failures, f.isAmong statuses = true → f ≤ h := by
  apply getD_find?_le_iff
  decide

/-! ## Joined, longer and reordered lists of statuses -/

theorem isAmong_append (h : Health) (first second : List Data) :
    h.isAmong (first ++ second) = (h.isAmong first || h.isAmong second) := List.any_append

theorem isAmong_of_subset {h : Health} {few many : List Data} (hsubset : few ⊆ many)
    (hfew : h.isAmong few = true) : h.isAmong many = true := by
  obtain ⟨d, hd, hsame⟩ := List.any_eq_true.mp hfew
  exact List.any_eq_true.mpr ⟨d, hsubset hd, hsame⟩

/-- Joined statuses stand for the worse health of the two parts. -/
theorem ofStatuses_append (first second : List Data) :
    ofStatuses (first ++ second) = max (ofStatuses first) (ofStatuses second) := by
  -- Both sides have the same bounds.
  apply eq_of_forall_ge_iff
  intro h
  rw [max_le_iff, ofStatuses_le_iff, ofStatuses_le_iff, ofStatuses_le_iff]
  constructor
  · intro hall
    constructor
    · intro f hf hfirst
      exact hall f hf (by rw [isAmong_append, hfirst, Bool.true_or])
    · intro f hf hsecond
      exact hall f hf (by rw [isAmong_append, hsecond, Bool.or_true])
  · rintro ⟨hfirst, hsecond⟩ f hf hamong
    rw [isAmong_append, Bool.or_eq_true] at hamong
    rcases hamong with hamong | hamong
    · exact hfirst f hf hamong
    · exact hsecond f hf hamong

/-- More statuses never stand for a better health. -/
theorem ofStatuses_mono {few many : List Data} (h : few ⊆ many) :
    ofStatuses few ≤ ofStatuses many := by
  rw [ofStatuses_le_iff]
  intro f hf hfew
  exact ofStatuses_le_iff.mp le_rfl f hf (isAmong_of_subset h hfew)

/-! ## The status of a check -/

/-- The status in a health check, and nothing where it has none. -/
def statusIn : Data → Data
  | .record entries => (Entries.field? entries "Status").getD .null
  | _ => .null

theorem statusOf_of_isCheck {d : Data} (h : isCheck d = true) : statusOf d = .ok (statusIn d) := by
  cases d with
  | record entries =>
    cases hfield : Entries.field? entries "Status" with
    | none => simp [statusOf, statusIn, hfield, Data.isKey]
    | some status =>
      have hkey : status.isKey = true := by simpa [isCheck, hfield] using h
      simp [statusOf, statusIn, hfield, hkey]
  | _ => cases h

/-- What makes data unfit for a health check, as it is reported. -/
inductive Unfit : Data → Fault → Prop where
  /-- The data has no fields, so that it has no status either. -/
  | fieldless {d : Data} (hrecord : ∀ entries, d ≠ .record entries) :
      Unfit d (.noFields d.typeName)
  /-- The status is a collection. -/
  | collection {entries : Entries} {status : Data}
      (hfield : Entries.field? entries "Status" = some status) (hkey : status.isKey = false) :
      Unfit (.record entries) (.noElement status.typeName)

/-- Data is unfit for a health check unless it is one, and then its status is not to be had. -/
theorem exists_unfit {d : Data} (h : isCheck d = false) :
    ∃ f, Unfit d f ∧ statusOf d = .error f := by
  cases d with
  | record entries =>
    cases hfield : Entries.field? entries "Status" with
    | none => simp [isCheck, hfield] at h
    | some status =>
      have hkey : status.isKey = false := by simpa [isCheck, hfield] using h
      exact ⟨_, .collection hfield hkey, by simp [statusOf, hfield, hkey]⟩
  | _ => exact ⟨_, .fieldless (by simp), rfl⟩

/-- A check fails exactly when its status is the name of a failure. -/
theorem fails_iff {d : Data} : fails d = true ↔ ∃ f ∈ failures, f.isAmong [statusIn d] = true := by
  cases d with
  | record entries =>
    cases hfield : Entries.field? entries "Status" with
    | none =>
      simp [fails, hasStatus, hfield, failures, isAmong, statusIn, Data.sameKey, Data.asNumber?]
    | some status =>
      cases status with
      | text s =>
        simp [fails, hasStatus, hfield, failing, failures, isAmong, statusIn, Data.sameKey, name]
      | _ =>
        simp [fails, hasStatus, hfield, failures, isAmong, statusIn, Data.sameKey, Data.asNumber?]
  | _ => simp [fails, hasStatus, failures, isAmong, statusIn, Data.sameKey, Data.asNumber?]

/-! ## The checks of a list -/

theorem mapM_statusOf {checks : List Data} (h : ∀ d ∈ checks, isCheck d = true) :
    checks.mapM statusOf = .ok (checks.map statusIn) := by
  induction checks with
  | nil => rfl
  | cons d rest ih =>
    obtain ⟨hd, hrest⟩ := List.forall_mem_cons.mp h
    rw [List.mapM_cons, statusOf_of_isCheck hd, ih hrest]
    rfl

/-- A list of checks has a health, the one that their statuses stand for. -/
theorem ofItems_of_isCheck {checks : List Data} (h : ∀ d ∈ checks, isCheck d = true) :
    ofItems checks = .ok (ofStatuses (checks.map statusIn)) := by
  rw [ofItems, mapM_statusOf h]
  rfl

theorem exists_ofItems {items : List Data} (h : ∀ d ∈ items, isCheck d = true) :
    ∃ health, ofItems items = .ok health :=
  ⟨_, ofItems_of_isCheck h⟩

/-- Of the data in a list that is no health check the first is reported. -/
theorem exists_unfit_first {items : List Data} (h : ∃ d ∈ items, isCheck d = false) :
    ∃ before d after f, items = before ++ d :: after ∧ (∀ e ∈ before, isCheck e = true) ∧
      Unfit d f ∧ ofItems items = .error f := by
  obtain ⟨e, he, hunfit⟩ := h
  have hsome : (items.find? fun d => !isCheck d).isSome = true :=
    List.find?_isSome.mpr ⟨e, he, by simp [hunfit]⟩
  obtain ⟨d, hfound⟩ := Option.isSome_iff_exists.mp hsome
  obtain ⟨hd, before, after, rfl, hbefore⟩ := List.find?_eq_some_iff_append.mp hfound
  obtain ⟨f, hf, hstatus⟩ := exists_unfit (d := d) (by simpa using hd)
  have hchecks : ∀ e ∈ before, isCheck e = true := by simpa using hbefore
  refine ⟨before, d, after, f, rfl, hchecks, hf, ?_⟩
  -- The statuses before it are had, and its own is not.
  rw [ofItems, List.mapM_append, mapM_statusOf hchecks, List.mapM_cons, hstatus]
  rfl

/-- The health of checks is passing exactly when none of them fails. -/
theorem ofStatuses_eq_passing_iff {checks : List Data} :
    ofStatuses (checks.map statusIn) = .passing ↔ ∀ d ∈ checks, fails d = false := by
  rw [← le_passing_iff, ofStatuses_le_iff]
  constructor
  · intro hall d hd
    apply Bool.eq_false_iff.mpr
    intro hfails
    obtain ⟨f, hf, hamong⟩ := fails_iff.mp hfails
    have hstatus : [statusIn d] ⊆ checks.map statusIn := by
      simpa using ⟨d, hd, rfl⟩
    have hle := hall f hf (isAmong_of_subset hstatus hamong)
    exact absurd (le_passing_iff.mp hle) (ne_passing_of_mem_failures hf)
  · intro hnone f hf hamong
    -- The failure is named by the status of one of the checks, which then fails.
    obtain ⟨status, hstatus, hsame⟩ := List.any_eq_true.mp hamong
    obtain ⟨d, hd, rfl⟩ := List.mem_map.mp hstatus
    have hfails : fails d = true := fails_iff.mpr ⟨f, hf, by simpa [isAmong] using hsame⟩
    rw [hnone d hd] at hfails
    cases hfails

/-- The health of a list is passing exactly when all of it are checks and none of them fails. -/
theorem ofItems_eq_passing_iff {items : List Data} :
    ofItems items = .ok .passing ↔ ∀ d ∈ items, isCheck d = true ∧ fails d = false := by
  by_cases hchecks : ∀ d ∈ items, isCheck d = true
  · rw [ofItems_of_isCheck hchecks, Except.ok.injEq, ofStatuses_eq_passing_iff]
    exact forall₂_congr fun d hd => (and_iff_right (hchecks d hd)).symm
  · -- Without a health there is none that is passing.
    obtain ⟨-, -, -, f, -, -, -, herror⟩ := exists_unfit_first (by simpa using hchecks)
    rw [herror]
    refine iff_of_false (by simp) fun hall => ?_
    exact hchecks fun d hd => (hall d hd).1

/-! ## The main statement -/

/-- **The health of a service is that of the worst of its checks.** Joined lists of checks have the
worse of their healths. It matters neither in which order checks are listed nor how often, more
checks never make the health better, and it is passing exactly when no check fails. A list with
data in it that is no health check has no health: of such data the first is reported, for what makes
it unfit. -/
theorem aggregate_is_worst :
    (∀ first second : List Data, (∀ d ∈ first ++ second, isCheck d = true) →
      ∃ a b, aggregate (.list first) = .ok a ∧ aggregate (.list second) = .ok b ∧
        aggregate (.list (first ++ second)) = .ok (max a b)) ∧
    (∀ checks again : List Data, (∀ d ∈ checks, isCheck d = true) →
      (∀ d, d ∈ again ↔ d ∈ checks) → aggregate (.list again) = aggregate (.list checks)) ∧
    (∀ few many : List Data, (∀ d ∈ many, isCheck d = true) → few ⊆ many →
      ∃ a b, aggregate (.list few) = .ok a ∧ aggregate (.list many) = .ok b ∧ a ≤ b) ∧
    (∀ checks : List Data, (∀ d ∈ checks, isCheck d = true) →
      (aggregate (.list checks) = .ok .passing ↔ ∀ d ∈ checks, fails d = false)) ∧
    ∀ items : List Data, (∃ d ∈ items, isCheck d = false) →
      ∃ before d after f, items = before ++ d :: after ∧ (∀ e ∈ before, isCheck e = true) ∧
        Unfit d f ∧ aggregate (.list items) = .error f := by
  -- A list is gone through as it stands.
  have haggregate : ∀ items : List Data, aggregate (.list items) = ofItems items := fun _ => rfl
  simp only [haggregate]
  refine ⟨?joined, ?again, ?more, ?passing, fun items hunfit => exists_unfit_first hunfit⟩
  case joined =>
    intro first second hchecks
    obtain ⟨hfirst, hsecond⟩ := List.forall_mem_append.mp hchecks
    refine ⟨_, _, ofItems_of_isCheck hfirst, ofItems_of_isCheck hsecond, ?_⟩
    rw [ofItems_of_isCheck hchecks, List.map_append, ofStatuses_append]
  case again =>
    intro checks again hchecks hsame
    have hagain : ∀ d ∈ again, isCheck d = true := fun d hd => hchecks d ((hsame d).mp hd)
    rw [ofItems_of_isCheck hagain, ofItems_of_isCheck hchecks]
    -- Each list has all statuses of the other.
    apply congrArg Except.ok
    apply le_antisymm
    · exact ofStatuses_mono (List.map_subset statusIn fun d => (hsame d).mp)
    · exact ofStatuses_mono (List.map_subset statusIn fun d => (hsame d).mpr)
  case more =>
    intro few many hchecks hsubset
    have hfew : ∀ d ∈ few, isCheck d = true := fun d hd => hchecks d (hsubset hd)
    refine ⟨_, _, ofItems_of_isCheck hfew, ofItems_of_isCheck hchecks, ?_⟩
    exact ofStatuses_mono (List.map_subset statusIn hsubset)
  case passing =>
    intro checks hchecks
    rw [ofItems_eq_passing_iff]
    exact forall₂_congr fun d hd => and_iff_right (hchecks d hd)

/-- A health check with a status. -/
def checkOf (status : Data) : Data := .record [(.text "Status", status)]

theorem aggregate_is_worst_mixed :
    (∀ d ∈ [checkOf (.text "warning")] ++ [.record [], checkOf (.text "critical")],
      isCheck d = true) ∧
      aggregate (.list ([checkOf (.text "warning")] ++ [.record [], checkOf (.text "critical")]))
        = .ok .critical ∧
      isCheck (checkOf (.list [])) = false ∧
      ∃ d f, Unfit d f ∧ aggregate (.list [checkOf (.text "warning"), checkOf (.list []), .int 3])
        = .error f := by
  have hchecks : ∀ d ∈ [checkOf (.text "warning")] ++ [.record [], checkOf (.text "critical")],
      isCheck d = true := by decide +kernel
  have hunfit : isCheck (checkOf (.list [])) = false := by decide +kernel
  obtain ⟨joined, -, -, -, unfit⟩ := aggregate_is_worst
  refine ⟨hchecks, ?_, hunfit, ?_⟩
  · obtain ⟨a, b, ha, hb, hboth⟩ := joined _ _ hchecks
    obtain rfl : Health.warning = a := Except.ok.inj ha
    obtain rfl : Health.critical = b := Except.ok.inj hb
    exact hboth
  · obtain ⟨-, d, -, f, -, -, hf, herror⟩ :=
      unfit [checkOf (.text "warning"), checkOf (.list []), .int 3]
        ⟨checkOf (.list []), by simp, hunfit⟩
    exact ⟨d, f, hf, herror⟩

end Health

end StartupGate
