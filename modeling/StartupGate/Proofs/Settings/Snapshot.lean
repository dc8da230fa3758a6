import StartupGate.Settings.Cache
/-!
# Snapshots of the settings

A cache starts with nothing kept, and from then on the settings are looked at, the kept ones are
forgotten, and the environment and the file change, in any order and any number of times.
`Cache.Reached` holds of the caches that come about so. What such a cache keeps was read from some
sources (`Cache.Reached.exists_load`), and so every snapshot that it gives was judged.
-/

namespace StartupGate.Settings.Cache

variable {cache : Cache} {t : Settings} {e : LoadError}

/-! ## One look -/

/-- The snapshot is the kept settings, else what the sources give now. -/
theorem get_eq_ok_iff :
    cache.get.1 = .ok t ↔ cache.kept = some t ∨ cache.kept = none ∧ load cache.sources = .ok t := by
  rw [get]
  cases cache.kept with
  | some kept => simp
  | none => cases load cache.sources <;> simp

/-- There is no snapshot where nothing is kept and the sources are refused. -/
theorem get_eq_error_iff :
    cache.get.1 = .error e ↔ cache.kept = none ∧ load cache.sources = .error e := by
  rw [get]
  cases cache.kept with
  | some kept => simp
  | none => cases load cache.sources <;> simp

/-- A second look gives what the first one gave, and changes nothing any more. -/
theorem get_get (cache : Cache) : cache.get.2.get = cache.get := by
  obtain ⟨sources, kept⟩ := cache
  cases kept with
  | some kept => rfl
  | none =>
    -- Settings that were read are kept from now on; refused ones are refused again.
    cases hload : load sources <;> simp [get, hload]

/-- A look that succeeds leaves its snapshot kept, and one that fails leaves nothing. -/
theorem kept_get_eq_some_iff : cache.get.2.kept = some t ↔ cache.get.1 = .ok t := by
  rw [get]
  cases hkept : cache.kept with
  | some kept => simp [hkept]
  | none => cases hload : load cache.sources <;> simp [hkept]

/-- A look that fails changes nothing. -/
theorem get_snd_of_error (hfail : cache.get.1 = .error e) : cache.get.2 = cache := by
  obtain ⟨hnone, hload⟩ := get_eq_error_iff.mp hfail
  rw [get, hnone, hload]

theorem sources_get (cache : Cache) : cache.get.2.sources = cache.sources := by
  rw [get]
  cases cache.kept with
  | some kept => rfl
  | none => cases load cache.sources <;> rfl

/-! ## Caches in use -/

/-- The caches that come about. -/
inductive Reached : Cache → Prop where
  | fresh (sources : Sources) : Reached { sources }
  | get {cache : Cache} (h : Reached cache) : Reached cache.get.2
  | reload {cache : Cache} (h : Reached cache) : Reached cache.reload
  /-- The environment and the file change; the cache is not told. -/
  | change {cache : Cache} (h : Reached cache) (sources : Sources) : Reached { cache with sources }

theorem Reached.changeEnvironment (h : cache.Reached) (f : Environment → Environment) :
    (cache.changeEnvironment f).Reached :=
  h.change _

theorem Reached.writeFile (h : cache.Reached) (text : Option String) :
    (cache.writeFile text).Reached :=
  h.change _

/-- Kept settings were read once, if perhaps from other sources than there are now. -/
theorem Reached.exists_load (h : cache.Reached) (hkept : cache.kept = some t) :
    ∃ sources, load sources = .ok t := by
  induction h with
  | fresh sources => cases hkept
  | @get cache _ ih =>
    rw [Cache.get] at hkept
    split at hkept
    · exact ih hkept
    · split at hkept
      · -- What is kept now was read in this look.
        rename_i hload
        cases hkept
        exact ⟨_, hload⟩
      · exact ih hkept
  | reload => cases hkept
  | change _ _ ih => exact ih hkept

/-- A snapshot never waits for less than a second. -/
theorem Reached.one_le_of_get (h : cache.Reached) (hget : cache.get.1 = .ok t) :
    1 ≤ t.startupDuration ∧ 1 ≤ t.startupInterval := by
  rcases get_eq_ok_iff.mp hget with hkept | ⟨-, hload⟩
  · obtain ⟨sources, hload⟩ := h.exists_load hkept
    exact one_le_of_load hload
  · exact one_le_of_load hload

end StartupGate.Settings.Cache
