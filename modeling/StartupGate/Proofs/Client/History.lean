import StartupGate.Client.Directory
/-!
# The history of a directory

A directory is made from a batch of handles under distinct names and then written to, by updates
with other batches and by publishing configurations, in any order. A configuration with an address
that cannot be written is a fault before anything is given. What a directory comes to hold is told
from the batches alone, without a directory: `Directory.Reflects` says that a name has the handle
that was given for it last, and that the names stand in the order in which they were first given.

- One call: a directory that reflects some batches reflects them after the call too, and the batch
  of the call last of all, if there is one (`Directory.Reflects.apply`).
- A run of calls: `Directory.Reflects.run`.
- Repeated calls: handles that are given twice in a row might as well have been given once
  (`Directory.update_update`).
- The main statement is `Directory.holds_last_given`.
-/

namespace StartupGate.Directory

/-! ## What a directory is given -/

/-- Handles under distinct names, in order, that are given at once. -/
structure Batch where
  entries : Publication
  distinct : (Named.names entries).Nodup

namespace Batch

/-- The names, in order. -/
def names (b : Batch) : List String := Named.names b.entries

/-- The handles for the addresses of a configuration. -/
def ofConfig (c : Config) : Batch where
  entries := Config.handles (c.endpoint metadataService).address (c.endpoint dataService).address
  distinct := Config.nodup_names_handles ..

end Batch

/-- A call that writes to a directory. -/
inductive Write where
  | update (batch : Batch)
  | publish (config : Config)

namespace Write

/-- What a call comes to. -/
def attempt (d : Directory) : Write → Except Fault Directory
  | .update b => .ok (d.update b.entries)
  | .publish c => d.publish c

/-- The directory after a call. One that ends in a fault leaves it as it was. -/
def apply (d : Directory) (w : Write) : Directory :=
  match w.attempt d with
  | .ok new => new
  | .error _ => d

/-- The handles that a call gives: one batch of them, or none where an address of the configuration
has too many digits. -/
def batches : Write → List Batch
  | .update b => [b]
  | .publish c => if c.FitsAddresses then [.ofConfig c] else []

/-- A call updates the directory with the batch that it gives, if it gives one. -/
theorem apply_cases (d : Directory) (w : Write) :
    (∃ b, w.batches = [b] ∧ w.apply d = d.update b.entries) ∨ w.batches = [] ∧ w.apply d = d := by
  cases w with
  | update b => exact .inl ⟨b, rfl, rfl⟩
  | publish c =>
    by_cases hfits : c.FitsAddresses
    · have hpublished : d.publish c = .ok (d.update (Batch.ofConfig c).entries) :=
        publish_eq_ok_iff.mpr ⟨hfits, rfl⟩
      exact .inl ⟨.ofConfig c, if_pos hfits, by simp only [apply, attempt, hpublished]⟩
    · have hfault : d.publish c = .error .tooManyDigits := publish_eq_error_iff.mpr ⟨hfits, rfl⟩
      exact .inr ⟨if_neg hfits, by simp only [apply, attempt, hfault]⟩

end Write

/-- What calls make of a directory, one after the other. -/
def run (d : Directory) (writes : List Write) : Directory := writes.foldl Write.apply d

theorem run_append (d : Directory) (first later : List Write) :
    d.run (first ++ later) = (d.run first).run later := List.foldl_append

/-! ## What a directory reflects -/

/-- Of the batches in `given`, the last that has the name has this handle for it. -/
def LastGiven (given : List Batch) (name : String) (h : Handle) : Prop :=
  ∃ before b after, given = before ++ b :: after ∧ (name, h) ∈ b.entries ∧
    ∀ later ∈ after, name ∉ later.names

/-- The directory holds what it was given, one batch after the other. -/
structure Reflects (given : List Batch) (d : Directory) : Prop where
  /-- A name has the handle that was given for it last. -/
  get?_eq_some_iff : ∀ name h, d.get? name = some h ↔ LastGiven given name h
  /-- A name stands where it was first given. -/
  names_eq : d.names = (given.flatMap Batch.names).eraseDups
  nodup : d.names.Nodup

theorem lastGiven_concat {given : List Batch} {b : Batch} {name : String} {h : Handle} :
    LastGiven (given ++ [b]) name h ↔
      (name, h) ∈ b.entries ∨ name ∉ b.names ∧ LastGiven given name h := by
  constructor
  · rintro ⟨before, found, after, hsplit, hmem, hlater⟩
    rcases List.eq_nil_or_concat after with rfl | ⟨between, last, rfl⟩
    · -- The batch in which the name was found is the last.
      obtain ⟨-, hlast⟩ := List.append_inj' hsplit rfl
      obtain rfl : b = found := by simpa using hlast
      exact .inl hmem
    · rw [List.concat_eq_append, ← List.cons_append, ← List.append_assoc] at hsplit
      obtain ⟨rfl, hlast⟩ := List.append_inj' hsplit rfl
      obtain rfl : b = last := by simpa using hlast
      refine .inr ⟨hlater b (by simp), before, found, between, rfl, hmem, fun k hk => ?_⟩
      exact hlater k (by simp [hk])
  · rintro (hmem | ⟨hnew, before, found, between, rfl, hmem, hlater⟩)
    · exact ⟨given, b, [], rfl, hmem, by simp⟩
    · refine ⟨before, found, between ++ [b], by simp, hmem, fun k hk => ?_⟩
      rcases List.mem_append.mp hk with hbetween | hlast
      · exact hlater k hbetween
      · rw [List.mem_singleton.mp hlast]
        exact hnew

theorem reflects_empty : Reflects [] {} where
  get?_eq_some_iff := by simp [LastGiven, get?]
  names_eq := rfl
  nodup := List.nodup_nil

/-! ## One call -/

theorem names_update (d : Directory) (p : Publication) :
    (d.update p).names = d.names ++ ((Named.names p).removeAll d.names).eraseDups :=
  Named.names_assignAll d.entries p

theorem mem_names_update {d : Directory} {p : Publication} {name : String} :
    name ∈ (d.update p).names ↔ name ∈ d.names ∨ name ∈ Named.names p := by
  rw [names_update, List.mem_append, List.mem_eraseDups, List.removeAll, List.mem_filter]
  by_cases hold : name ∈ d.names <;> simp [hold]

/-- A name of a batch has the handle of the batch, and any other the handle it had. -/
theorem get?_update_eq_some_iff {d : Directory} {b : Batch} {name : String} {h : Handle} :
    (d.update b.entries).get? name = some h ↔
      (name, h) ∈ b.entries ∨ name ∉ b.names ∧ d.get? name = some h := by
  rw [get?_update_of_nodup b.distinct, Option.or_eq_some_iff, Named.lookup_eq_some_iff b.distinct,
    Named.lookup_eq_none_iff]
  rfl

/-- **An update puts its batch last.** -/
theorem Reflects.update {given : List Batch} {d : Directory} (h : Reflects given d) (b : Batch) :
    Reflects (given ++ [b]) (d.update b.entries) where
  get?_eq_some_iff := by
    intro name handle
    rw [get?_update_eq_some_iff, lastGiven_concat, h.get?_eq_some_iff]
  names_eq := by
    -- What the directory has not is what was not given before.
    have hnew : b.names.removeAll d.names = b.names.removeAll (given.flatMap Batch.names) := by
      refine List.filter_congr fun name _ => ?_
      simp only [h.names_eq, List.elem_eq_mem, List.mem_eraseDups]
    rw [names_update, List.flatMap_append, List.eraseDups_append, ← h.names_eq,
      List.flatMap_singleton, ← hnew]
    rfl
  nodup := Named.nodup_names_assignAll h.nodup _

/-- **A call puts what it gives last**, and nothing where it ends in a fault. -/
theorem Reflects.apply {given : List Batch} {d : Directory} (h : Reflects given d) (w : Write) :
    Reflects (given ++ w.batches) (w.apply d) := by
  rcases w.apply_cases d with ⟨b, hbatches, hafter⟩ | ⟨hbatches, hafter⟩
  · rw [hbatches, hafter]
    exact h.update b
  · rw [hbatches, hafter, List.append_nil]
    exact h

/-! ## A run of calls -/

theorem Reflects.run {given : List Batch} {d : Directory} (h : Reflects given d)
    (writes : List Write) : Reflects (given ++ writes.flatMap Write.batches) (d.run writes) := by
  induction writes generalizing given d with
  | nil =>
    rw [List.flatMap_nil, List.append_nil]
    exact h
  | cons w rest ih =>
    rw [List.flatMap_cons, ← List.append_assoc]
    exact ih (h.apply w)

section Queries

variable {given : List Batch} {d : Directory} (h : Reflects given d) (name : String)

include h

/-- A name that was never given has no handle. -/
theorem Reflects.get?_eq_none_iff : d.get? name = none ↔ ∀ b ∈ given, name ∉ b.names := by
  have hnone : d.get? name = none ↔ name ∉ d.names := Named.lookup_eq_none_iff
  rw [hnone, h.names_eq, List.mem_eraseDups, List.mem_flatMap]
  simp

theorem Reflects.handle_eq_ok_iff (handle : Handle) :
    d.handle name = .ok handle ↔ LastGiven given name handle := by
  rw [Directory.handle_eq_ok_iff, h.get?_eq_some_iff]

theorem Reflects.handle_eq_missingKey_iff :
    d.handle name = .error (.missingKey (some name)) ↔ ∀ b ∈ given, name ∉ b.names := by
  rw [handle_eq_error_iff, and_iff_left rfl, h.get?_eq_none_iff]

end Queries

/-! ## Repeated calls -/

/-- Handles that are given twice in a row might as well have been given once. -/
theorem update_update {d : Directory} (h : d.names.Nodup) (p : Publication) :
    (d.update p).update p = d.update p := by
  have hnames : ((d.update p).update p).names = (d.update p).names := by
    -- All names of the publication are there after the first time.
    have hnone : (Named.names p).removeAll (d.update p).names = [] := by
      rw [List.removeAll, List.filter_eq_nil_iff]
      intro name hname
      simp [mem_names_update, hname]
    rw [names_update, hnone, List.eraseDups_nil, List.append_nil]
  have hlookup : ∀ name, ((d.update p).update p).get? name = (d.update p).get? name := by
    intro name
    rw [get?_update, get?_update, ← Option.or_assoc, Option.or_self]
  have hnodup : ((d.update p).update p).names.Nodup :=
    Named.nodup_names_assignAll (Named.nodup_names_assignAll h p) p
  exact congrArg Directory.mk (Named.eq_of_lookup_eq hnodup hnames hlookup)

/-- A call that is made twice in a row might as well have been made once. -/
theorem apply_apply {d : Directory} (h : d.names.Nodup) (w : Write) :
    w.apply (w.apply d) = w.apply d := by
  rcases w.apply_cases d with ⟨b, hbatches, hafter⟩ | ⟨-, hafter⟩
  · -- The batch does not depend on the directory.
    rcases w.apply_cases (w.apply d) with ⟨b', hbatches', hagain⟩ | ⟨hnone, -⟩
    · obtain rfl : b = b' := by simpa using hbatches.symm.trans hbatches'
      rw [hagain, hafter]
      exact update_update h b.entries
    · rw [hbatches] at hnone
      cases hnone
  · rw [hafter, hafter]

/-! ## The main statement -/

/-- The directory that is made from handles and then written to. -/
def after (first : Batch) (writes : List Write) : Directory :=
  (ofPublication first.entries).run writes

/-- All batches that such a directory was given, in their order. -/
def given (first : Batch) (writes : List Write) : List Batch :=
  first :: writes.flatMap Write.batches

theorem reflects_after (first : Batch) (writes : List Write) :
    Reflects (given first writes) (after first writes) :=
  (reflects_empty.update first).run writes

/-- **A directory holds what it was given last.** Whatever batch a directory is made from and
however it is written to, a name has the handle of the last call that gives it, else the one it had
at first. A name that was never given has none, and is a fault where it has to be there. The names
are distinct, there are as many of them as the directory tells, and they stand in the order in which
they were first given, whatever comes later. To publish a configuration once more changes nothing.
To publish one is a fault exactly where an address of a required service has too many digits, and
then nothing is given and nothing changes. -/
theorem holds_last_given (first : Batch) (writes : List Write) :
    (∀ name h,
      ((after first writes).handle name = .ok h ↔ LastGiven (given first writes) name h) ∧
      ((after first writes).get? name = some h ↔ LastGiven (given first writes) name h)) ∧
    (∀ name,
      ((after first writes).handle name = .error (.missingKey (some name)) ↔
        ∀ b ∈ given first writes, name ∉ b.names) ∧
      ((after first writes).get? name = none ↔ ∀ b ∈ given first writes, name ∉ b.names)) ∧
    (after first writes).names.Nodup ∧
    (after first writes).size = (after first writes).names.length ∧
    (after first writes).names = ((given first writes).flatMap Batch.names).eraseDups ∧
    (∀ later, (after first writes).names <+: (after first (writes ++ later)).names) ∧
    (∀ c, after first (writes ++ [.publish c, .publish c])
      = after first (writes ++ [.publish c])) ∧
    ∀ c f, (after first writes).publish c = .error f ↔
      (∃ k ∈ requiredServices, ¬ FitsAddress (c.endpoint k).port) ∧ f = .tooManyDigits ∧
        after first (writes ++ [.publish c]) = after first writes := by
  have hreflects := reflects_after first writes
  have hsplit : ∀ later, after first (writes ++ later) = (after first writes).run later :=
    run_append _ writes
  refine ⟨?found, ?missing, hreflects.nodup, ?size, hreflects.names_eq, ?kept, ?again, ?fault⟩
  case found =>
    intro name h
    exact ⟨hreflects.handle_eq_ok_iff name h, hreflects.get?_eq_some_iff name h⟩
  case missing =>
    intro name
    exact ⟨hreflects.handle_eq_missingKey_iff name, hreflects.get?_eq_none_iff name⟩
  case size => exact (List.length_map _).symm
  case kept =>
    intro later
    have hlater := reflects_after first (writes ++ later)
    have hgiven : given first (writes ++ later)
        = given first writes ++ later.flatMap Write.batches := by simp [given]
    rw [hlater.names_eq, hgiven, List.flatMap_append, List.eraseDups_append, ← hreflects.names_eq]
    exact List.prefix_append _ _
  case again =>
    intro c
    rw [hsplit, hsplit]
    exact apply_apply hreflects.nodup (.publish c)
  case fault =>
    intro c f
    have hlong : ¬ c.FitsAddresses ↔ ∃ k ∈ requiredServices, ¬ FitsAddress (c.endpoint k).port := by
      simp [Config.FitsAddresses]
    rw [publish_eq_error_iff, ← hlong, hsplit]
    refine and_congr_right fun hlong => (and_iff_left_of_imp fun _ => ?_).symm
    show Write.apply _ (.publish c) = _
    simp only [Write.apply, Write.attempt, publish_eq_error_iff.mpr ⟨hlong, rfl⟩]

/-- A name that is given again keeps its place and changes its handle. -/
example :
    (after ⟨[("a", ⟨.device, "u"⟩), ("b", ⟨.event, "u"⟩)], by decide⟩
      [.update ⟨[("c", ⟨.event, "v"⟩), ("a", ⟨.event, "v"⟩)], by decide⟩]).entries
      = [("a", ⟨.event, "v"⟩), ("b", ⟨.event, "u"⟩), ("c", ⟨.event, "v"⟩)] := by
  decide

end StartupGate.Directory
