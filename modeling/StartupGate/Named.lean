/-!
# Values under names

Names with values, in the order in which the names were first given. Giving a name a value again
replaces the value and leaves the name in its place, so a list that starts without repeated names
never has any.
-/

namespace StartupGate

/-- Names with values, in order. -/
abbrev Named (α : Type) := List (String × α)

namespace Named

variable {α : Type}

/-- Gives a name a value; a name that is there already keeps its place. -/
def assign : Named α → String → α → Named α
  | [], name, value => [(name, value)]
  | (k, old) :: rest, name, value =>
    if k = name then (k, value) :: rest else (k, old) :: assign rest name value

/-- Gives names their values, one after the other. -/
def assignAll (entries news : Named α) : Named α :=
  news.foldl (fun es e => assign es e.1 e.2) entries

/-- The names, in order. -/
def names (entries : Named α) : List String := entries.map (·.1)

/-! ## Looking up -/

theorem lookup_cons_of_eq (name : String) (value : α) (rest : Named α) :
    List.lookup name ((name, value) :: rest) = some value := by
  rw [List.lookup_cons, beq_self_eq_true]

theorem lookup_cons_of_ne {k name : String} (h : name ≠ k) (value : α) (rest : Named α) :
    List.lookup name ((k, value) :: rest) = rest.lookup name := by
  rw [List.lookup_cons, beq_eq_false_iff_ne.2 h]

theorem mem_of_lookup_eq_some {entries : Named α} {name : String} {value : α}
    (h : entries.lookup name = some value) : (name, value) ∈ entries := by
  obtain ⟨before, after, rfl, -⟩ := List.lookup_eq_some_iff.mp h
  simp

theorem lookup_assign (entries : Named α) (name other : String) (value : α) :
    (assign entries name value).lookup other
      = if other = name then some value else entries.lookup other := by
  induction entries with
  | nil =>
    by_cases h : other = name
    · subst h
      rw [if_pos rfl]
      exact lookup_cons_of_eq other value []
    · rw [if_neg h]
      exact lookup_cons_of_ne h value []
  | cons e rest ih =>
    obtain ⟨k, old⟩ := e
    rw [assign]
    by_cases hk : k = name
    · subst hk
      rw [if_pos rfl]
      by_cases ho : other = k
      · subst ho
        rw [if_pos rfl, lookup_cons_of_eq]
      · rw [if_neg ho, lookup_cons_of_ne ho, lookup_cons_of_ne ho]
    · rw [if_neg hk]
      by_cases ho : other = k
      · subst ho
        rw [if_neg hk, lookup_cons_of_eq, lookup_cons_of_eq]
      · rw [lookup_cons_of_ne ho, ih, lookup_cons_of_ne ho]

/-- Of several values for a name the last is valid, and one that was there before only if there is
none. -/
theorem lookup_assignAll (entries news : Named α) (name : String) :
    (assignAll entries news).lookup name
      = (news.reverse.lookup name).or (entries.lookup name) := by
  induction news generalizing entries with
  | nil => rfl
  | cons e rest ih =>
    obtain ⟨k, value⟩ := e
    rw [assignAll, List.foldl_cons, ← assignAll, ih, lookup_assign, List.reverse_cons,
      List.lookup_append, Option.or_assoc]
    congr 1
    by_cases h : name = k
    · rw [if_pos h, h, lookup_cons_of_eq, Option.some_or]
    · rw [if_neg h, lookup_cons_of_ne h, List.lookup_nil, Option.none_or]

/-! ## Values -/

/-- What holds of all values and of a new one holds of the values after it is given. -/
theorem forall_mem_assign {p : α → Prop} {entries : Named α} (hentries : ∀ e ∈ entries, p e.2)
    (name : String) {value : α} (hvalue : p value) : ∀ e ∈ assign entries name value, p e.2 := by
  induction entries with
  | nil => simpa [assign] using hvalue
  | cons first rest ih =>
    obtain ⟨k, old⟩ := first
    obtain ⟨hold, hrest⟩ := List.forall_mem_cons.mp hentries
    rw [assign]
    split
    · exact List.forall_mem_cons.mpr ⟨hvalue, hrest⟩
    · exact List.forall_mem_cons.mpr ⟨hold, ih hrest⟩

theorem forall_mem_assignAll {p : α → Prop} {entries news : Named α}
    (hentries : ∀ e ∈ entries, p e.2) (hnews : ∀ e ∈ news, p e.2) :
    ∀ e ∈ assignAll entries news, p e.2 := by
  induction news generalizing entries with
  | nil => exact hentries
  | cons first rest ih =>
    obtain ⟨hfirst, hrest⟩ := List.forall_mem_cons.mp hnews
    exact ih (forall_mem_assign hentries first.1 hfirst) hrest

/-! ## Names -/

theorem assign_of_not_mem {entries : Named α} {name : String} (h : name ∉ names entries)
    (value : α) : assign entries name value = entries ++ [(name, value)] := by
  induction entries with
  | nil => rfl
  | cons e rest ih =>
    obtain ⟨k, old⟩ := e
    rw [names, List.map_cons, List.mem_cons, not_or] at h
    rw [assign, if_neg (Ne.symm h.1), ih h.2, List.cons_append]

/-- Names that are all new and distinct come after the names that are there, in their order. -/
theorem assignAll_of_nodup {entries news : Named α} (h : (names (entries ++ news)).Nodup) :
    assignAll entries news = entries ++ news := by
  induction news generalizing entries with
  | nil => rw [List.append_nil]; rfl
  | cons e rest ih =>
    have hsplit : entries ++ e :: rest = entries ++ [e] ++ rest := by simp
    have hnew : e.1 ∉ names entries := by
      intro hmem
      rw [names, List.map_append, List.map_cons, List.nodup_append] at h
      exact h.2.2 e.1 hmem e.1 List.mem_cons_self rfl
    rw [assignAll, List.foldl_cons, ← assignAll, assign_of_not_mem hnew, hsplit]
    rw [hsplit] at h
    exact ih h

theorem names_assign (entries : Named α) (name : String) (value : α) :
    names (assign entries name value)
      = if name ∈ names entries then names entries else names entries ++ [name] := by
  induction entries with
  | nil => rfl
  | cons e rest ih =>
    obtain ⟨k, old⟩ := e
    rw [assign]
    by_cases hk : k = name
    · subst hk
      simp [names]
    · rw [if_neg hk]
      have hn : ¬ name = k := fun h => hk h.symm
      simp only [names, List.map_cons, List.mem_cons, hn, false_or] at ih ⊢
      rw [ih]
      split <;> simp_all

/-- Names that are distinct stay so. -/
theorem nodup_names_assign {entries : Named α} (h : (names entries).Nodup) (name : String)
    (value : α) : (names (assign entries name value)).Nodup := by
  rw [names_assign]
  split
  · exact h
  · rename_i hn
    exact List.nodup_append.2 ⟨h, by simp, fun a ha b hb => by
      rw [List.mem_singleton.1 hb]
      exact fun e => hn (e ▸ ha)⟩

theorem nodup_names_assignAll {entries : Named α} (h : (names entries).Nodup) (news : Named α) :
    (names (assignAll entries news)).Nodup := by
  induction news generalizing entries with
  | nil => exact h
  | cons first rest ih => exact ih (nodup_names_assign h first.1 first.2)

/-- The names that are there stay where they are, and after them come the new ones, each once and in
the order in which it was first given. -/
theorem names_assignAll (entries news : Named α) :
    names (assignAll entries news)
      = names entries ++ ((names news).removeAll (names entries)).eraseDups := by
  induction news generalizing entries with
  | nil => simp [assignAll, names]
  | cons first rest ih =>
    obtain ⟨name, value⟩ := first
    have hnews : names ((name, value) :: rest) = name :: names rest := rfl
    rw [assignAll, List.foldl_cons, ← assignAll, ih, names_assign, hnews, List.cons_removeAll]
    by_cases hmem : name ∈ names entries
    · rw [if_pos hmem, if_neg (by simpa using hmem)]
    · -- What is left out from now on is what was left out before, and the name.
      have hleft : (names rest).removeAll (names entries ++ [name])
          = ((names rest).removeAll (names entries)).filter fun k => !k == name := by
        rw [List.removeAll, List.removeAll, List.filter_filter]
        refine List.filter_congr fun k _ => ?_
        by_cases hk : k = name <;> simp [hk]
      rw [if_neg hmem, if_pos (by simpa using hmem), List.eraseDups_cons, List.append_assoc,
        List.singleton_append, hleft]

/-! ## Distinct names -/

theorem lookup_eq_none_iff {entries : Named α} {name : String} :
    entries.lookup name = none ↔ name ∉ names entries := by
  simp only [List.lookup_eq_none_iff, names, List.mem_map, not_exists, not_and, bne_iff_ne, ne_eq]
  exact forall₂_congr fun _ _ => ⟨Ne.symm, Ne.symm⟩

/-- Where names are distinct, the value of a name is the one that stands beside it. -/
theorem lookup_eq_some_iff {entries : Named α} (h : (names entries).Nodup) {name : String}
    {value : α} : entries.lookup name = some value ↔ (name, value) ∈ entries := by
  refine ⟨mem_of_lookup_eq_some, fun hmem => ?_⟩
  obtain ⟨before, after, rfl⟩ := List.append_of_mem hmem
  rw [names, List.map_append, List.nodup_append] at h
  have hbefore : before.lookup name = none := by
    rw [lookup_eq_none_iff]
    exact fun hname => h.2.2 name hname name List.mem_cons_self rfl
  rw [List.lookup_append, hbefore, Option.none_or, lookup_cons_of_eq]

/-- Where names are distinct, it does not matter from which end a name is looked up. -/
theorem lookup_reverse {entries : Named α} (h : (names entries).Nodup) (name : String) :
    entries.reverse.lookup name = entries.lookup name := by
  have hreverse : (names entries.reverse).Nodup := by
    rw [names, List.map_reverse]
    exact List.pairwise_reverse.mpr (h.imp Ne.symm)
  refine Option.ext fun value => ?_
  rw [lookup_eq_some_iff hreverse, lookup_eq_some_iff h, List.mem_reverse]

/-- Entries under distinct names are known by the names, in order, and by what is looked up. -/
theorem eq_of_lookup_eq {first second : Named α} (h : (names first).Nodup)
    (hnames : names first = names second)
    (hlookup : ∀ name, first.lookup name = second.lookup name) : first = second := by
  induction first generalizing second with
  | nil => exact (List.map_eq_nil_iff.mp hnames.symm).symm
  | cons e rest ih =>
    obtain ⟨name, value⟩ := e
    obtain ⟨⟨name', value'⟩, rest', rfl, hname, hrest⟩ := List.map_eq_cons_iff.mp hnames.symm
    obtain rfl : name' = name := hname
    obtain ⟨hnew, hnodup⟩ := List.nodup_cons.mp h
    have hvalue := hlookup name'
    rw [lookup_cons_of_eq, lookup_cons_of_eq] at hvalue
    obtain rfl : value = value' := Option.some.inj hvalue
    refine congrArg _ (ih hnodup hrest.symm fun other => ?_)
    by_cases hother : other = name'
    · -- The name of the first entry is not to be had in the others.
      have hnew' : other ∉ names rest' := by
        rw [hother, names, hrest]
        exact hnew
      rw [lookup_eq_none_iff.mpr (hother ▸ hnew), lookup_eq_none_iff.mpr hnew']
    · have hlater := hlookup other
      rwa [lookup_cons_of_ne hother, lookup_cons_of_ne hother] at hlater

end Named

end StartupGate
