import StartupGate.Proofs.Config.Pace
/-!
# The history of the settings

While a process runs, variables are set and unset, the file of settings is written, the kept
settings are forgotten, and the settings are read, by themselves or for the pace of a configuration.
A `History` is a list of such events, in any order.

What a read gives is told from the history alone, without a cache: `History.Evaluates` says which
moment decides, that of the first successful read since the settings were last forgotten, else the
present one.

- One event: `Event.apply_cases` sums up what an event does to the kept settings.
- A run of events: kept settings stay until they are forgotten (`History.kept_of_unforgotten`), and
  they come from a read that found nothing kept (`History.exists_reads_of_kept`).
- The main statement is `History.read_is_snapshot`.
-/

namespace StartupGate.Settings

open Config (PaceFault)

/-! ## Events -/

/-- What happens to the settings. -/
inductive Event where
  | set (name value : String)
  | unset (name : String)
  /-- The file of settings is written, with a text or with bytes that are none. -/
  | write (text : Option String)
  | reload
  | get
  /-- The pace of a configuration is read, and for it the settings at most twice. -/
  | pace (c : Config)

/-- What an event answers. -/
inductive Answer where
  | done
  | settings (r : Loaded Settings)
  | pace (r : Except PaceFault Pace)

namespace Event

/-- What becomes of the sources of the settings. -/
def change (s : Sources) : Event → Sources
  | .set name value => { s with environment := s.environment.set name value }
  | .unset name => { s with environment := s.environment.unset name }
  | .write text => { s with file := some text }
  | .reload | .get | .pace _ => s

/-- What becomes of a cache. -/
def apply (cache : Cache) : Event → Cache
  | .set name value => cache.changeEnvironment (·.set name value)
  | .unset name => cache.changeEnvironment (·.unset name)
  | .write text => cache.writeFile text
  | .reload => cache.reload
  | .get => cache.get.2
  | .pace c => (c.readPace cache).2

/-- What is answered by way of a cache. -/
def answer (cache : Cache) : Event → Answer
  | .get => .settings cache.get.1
  | .pace c => .pace (c.readPace cache).1
  | .set _ _ | .unset _ | .write _ | .reload => .done

/-- The event reads the settings, and the read gives `r`. -/
inductive Reads (cache : Cache) : Event → Loaded Settings → Prop where
  | get : Reads cache .get cache.get.1
  /-- The first read for a pace, where the duration is not given. -/
  | duration {c : Config} (hungiven : Config.given? c.startup.duration = none) :
      Reads cache (.pace c) cache.get.1
  /-- The last read for a pace, where the interval is not given: it goes to the cache that reading
  the duration left, and does not take place where the duration could not be told. -/
  | interval {c : Config} {duration : Int} (hduration : (c.readDuration cache).1 = .ok duration)
      (hungiven : Config.given? c.startup.interval = none) :
      Reads cache (.pace c) (c.readDuration cache).2.get.1

/-! ### One event -/

variable {cache : Cache} {e : Event} {r : Loaded Settings} {t : Settings}

/-- A pace that needs no settings leaves the cache alone, and any other leaves it as one read
does. -/
theorem readPace_snd_cases (c : Config) (cache : Cache) :
    (∀ r, ¬ Reads cache (.pace c) r) ∧ (c.readPace cache).2 = cache ∨
      Reads cache (.pace c) cache.get.1 ∧ (c.readPace cache).2 = cache.get.2 := by
  cases hduration : Config.given? c.startup.duration with
  | none => exact .inr ⟨.duration hduration, Config.readPace_snd_of_duration hduration cache⟩
  | some duration =>
    have hread : c.readDuration cache = (.ok duration, cache) :=
      Config.readSeconds_of_given hduration
    cases hinterval : Config.given? c.startup.interval with
    | none =>
      have hreads : Reads cache (.pace c) (c.readDuration cache).2.get.1 :=
        .interval (congrArg Prod.fst hread) hinterval
      rw [hread] at hreads
      exact .inr ⟨hreads, Config.readPace_snd_of_interval hduration hinterval cache⟩
    | some interval =>
      refine .inl ⟨fun r hr => ?_, Config.readPace_snd_of_given hduration hinterval cache⟩
      cases hr with
      | duration hungiven => exact absurd (hduration.symm.trans hungiven) (by simp)
      | interval _ hungiven => exact absurd (hinterval.symm.trans hungiven) (by simp)

/-- All reads of an event give what the cache gives when the event begins. -/
theorem Reads.eq_get (h : Reads cache e r) : r = cache.get.1 := by
  cases h with
  | get => rfl
  | duration => rfl
  | interval => exact Config.get_readSeconds

/-- What an event does to a cache: it forgets, it reads, or it leaves alone what is kept. -/
theorem apply_cases (cache : Cache) (e : Event) :
    e = .reload ∧ e.apply cache = cache.reload ∨
      Reads cache e cache.get.1 ∧ e.apply cache = cache.get.2 ∨
      (∀ r, ¬ Reads cache e r) ∧ e ≠ .reload ∧ (e.apply cache).kept = cache.kept := by
  cases e with
  | reload => exact .inl ⟨rfl, rfl⟩
  | get => exact .inr (.inl ⟨.get, rfl⟩)
  | pace c =>
    obtain ⟨hnone, hcache⟩ | ⟨hreads, hcache⟩ := readPace_snd_cases c cache
    · exact .inr (.inr ⟨hnone, by simp, congrArg Cache.kept hcache⟩)
    · exact .inr (.inl ⟨hreads, hcache⟩)
  | set | unset | write => exact .inr (.inr ⟨fun r hr => (by cases hr), (by simp), rfl⟩)

theorem sources_apply (cache : Cache) (e : Event) :
    (e.apply cache).sources = e.change cache.sources := by
  cases e with
  | get => exact cache.sources_get
  | pace c =>
    obtain ⟨-, hcache⟩ | ⟨-, hcache⟩ := readPace_snd_cases c cache
    · exact congrArg Cache.sources hcache
    · exact (congrArg Cache.sources hcache).trans cache.sources_get
  | set | unset | write | reload => rfl

/-- A read that succeeds is kept. -/
theorem kept_of_reads (h : Reads cache e (.ok t)) : (e.apply cache).kept = some t := by
  obtain ⟨rfl, -⟩ | ⟨-, hcache⟩ | ⟨hnone, -⟩ := apply_cases cache e
  · cases h
  · rw [hcache, Cache.kept_get_eq_some_iff, h.eq_get]
  · exact absurd h (hnone _)

/-- What is kept stays, unless it is forgotten. -/
theorem kept_apply (hkept : cache.kept = some t) (hforget : e ≠ .reload) :
    (e.apply cache).kept = some t := by
  obtain ⟨hreload, -⟩ | ⟨-, hcache⟩ | ⟨-, -, hsame⟩ := apply_cases cache e
  · exact absurd hreload hforget
  · rw [hcache, Cache.kept_get_eq_some_iff]
    exact Cache.get_eq_ok_iff.mpr (.inl hkept)
  · rw [hsame, hkept]

/-- What was not kept before was read just now. -/
theorem reads_of_kept (hnone : cache.kept = none) (hkept : (e.apply cache).kept = some t) :
    Reads cache e (.ok t) := by
  obtain ⟨-, hcache⟩ | ⟨hreads, hcache⟩ | ⟨-, -, hsame⟩ := apply_cases cache e
  · rw [hcache] at hkept
    cases hkept
  · rw [hcache, Cache.kept_get_eq_some_iff] at hkept
    rwa [hkept] at hreads
  · rw [hsame, hnone] at hkept
    cases hkept

end Event

/-! ## Histories -/

/-- What happened to the settings of a process: what the sources were when it began, and the events
since then. -/
structure History where
  start : Sources := {}
  events : List Event

namespace History

/-- The sources before event number `i`: what the environment and the file are then. -/
def sourcesAt (h : History) (i : Nat) : Sources := (h.events.take i).foldl Event.change h.start

/-- The cache before event number `i`. -/
def cacheAt (h : History) (i : Nat) : Cache :=
  (h.events.take i).foldl Event.apply { sources := h.start }

/-- The answer of event number `i`. -/
def answerAt (h : History) (i : Nat) : Option Answer :=
  h.events[i]?.map fun e => e.answer (h.cacheAt i)

/-- Event number `i` reads the settings, and the read gives `r`. -/
def ReadsAt (h : History) (i : Nat) (r : Loaded Settings) : Prop :=
  ∃ e, h.events[i]? = some e ∧ e.Reads (h.cacheAt i) r

/-- From event number `j` on and before event number `i`, nothing was forgotten. -/
def Unforgotten (h : History) (j i : Nat) : Prop :=
  ∀ k, j ≤ k → k < i → h.events[k]? ≠ some .reload

/-- Of the events before number `i` and since the settings were last forgotten, number `j` is the
first one with a read that succeeds. -/
structure FirstGood (h : History) (i j : Nat) : Prop where
  before : j < i
  unforgotten : h.Unforgotten j i
  good : ∃ t, h.ReadsAt j (.ok t)
  first : ∀ k < j, h.Unforgotten k i → ∀ t, ¬ h.ReadsAt k (.ok t)

/-- What is read at event number `i` are the settings that the sources gave at event number `k`. -/
inductive Evaluates (h : History) (i : Nat) : Nat → Prop where
  | kept {j : Nat} (hfirst : h.FirstGood i j) : Evaluates h i j
  | now (hnone : ∀ j, ¬ h.FirstGood i j) : Evaluates h i i

/-- The history without event number `i`. -/
def without (h : History) (i : Nat) : History := { h with events := h.events.eraseIdx i }

/-! ### Runs of events -/

variable {h : History} {i j k : Nat} {r : Loaded Settings} {t u : Settings}
  {e : LoadError}

/-- One more event, if there is one. -/
theorem cacheAt_succ (h : History) (i : Nat) :
    h.cacheAt (i + 1) = h.events[i]?.toList.foldl Event.apply (h.cacheAt i) := by
  rw [cacheAt, List.take_add_one, List.foldl_append, ← cacheAt]

theorem cacheAt_succ_of_event {e : Event} (hevent : h.events[i]? = some e) :
    h.cacheAt (i + 1) = e.apply (h.cacheAt i) := by
  rw [cacheAt_succ, hevent]
  rfl

/-- A cache always knows the sources as they are. -/
theorem sources_cacheAt (h : History) (i : Nat) : (h.cacheAt i).sources = h.sourcesAt i := by
  induction i with
  | zero => rfl
  | succ i ih =>
    rw [cacheAt_succ, sourcesAt, List.take_add_one, List.foldl_append, ← sourcesAt, ← ih]
    cases h.events[i]? with
    | none => rfl
    | some e => exact Event.sources_apply (h.cacheAt i) e

theorem Unforgotten.trans (hji : h.Unforgotten j i) (hik : h.Unforgotten i k) :
    h.Unforgotten j k := by
  intro m hjm hmk
  rcases Nat.lt_or_ge m i with hmi | him
  · exact hji m hjm hmi
  · exact hik m him hmk

theorem unforgotten_succ (hforget : h.events[i]? ≠ some .reload) : h.Unforgotten i (i + 1) := by
  intro m him hmi
  obtain rfl : m = i := by omega
  exact hforget

/-- What is kept stays until it is forgotten. -/
theorem kept_of_unforgotten (hkept : (h.cacheAt i).kept = some t) (hij : i ≤ j)
    (hun : h.Unforgotten i j) : (h.cacheAt j).kept = some t := by
  -- The induction is on the events between; past the last one, nothing changes any more.
  induction hij with
  | refl => exact hkept
  | @step j hij ih =>
    have hkept' := ih fun m him hmj => hun m him (by omega)
    cases hevent : h.events[j]? with
    | none =>
      rw [cacheAt_succ, hevent]
      exact hkept'
    | some e =>
      rw [cacheAt_succ_of_event hevent]
      apply Event.kept_apply hkept'
      rintro rfl
      exact hun j hij (Nat.lt_succ_self j) hevent

theorem ReadsAt.eq_get (hread : h.ReadsAt i r) : r = (h.cacheAt i).get.1 := by
  obtain ⟨e, -, hreads⟩ := hread
  exact hreads.eq_get

/-- A read that succeeds is kept from then on. -/
theorem ReadsAt.kept (hread : h.ReadsAt i (.ok t)) (hij : i < j) (hun : h.Unforgotten i j) :
    (h.cacheAt j).kept = some t := by
  obtain ⟨e, hevent, hreads⟩ := hread
  have hkept : (h.cacheAt (i + 1)).kept = some t := by
    rw [cacheAt_succ_of_event hevent]
    exact Event.kept_of_reads hreads
  exact kept_of_unforgotten hkept hij fun m him hmj => hun m (by omega) hmj

/-- What is kept goes back to a read that found nothing kept, and was not forgotten since. -/
theorem exists_reads_of_kept (hkept : (h.cacheAt i).kept = some t) :
    ∃ j < i, h.Unforgotten j i ∧ (h.cacheAt j).kept = none ∧ h.ReadsAt j (.ok t) := by
  -- Going back event by event, the one before which nothing was kept is the read.
  induction i with
  | zero => cases hkept
  | succ i ih =>
    have hforget : h.events[i]? ≠ some .reload := by
      intro hevent
      rw [cacheAt_succ_of_event hevent] at hkept
      cases hkept
    cases hbefore : (h.cacheAt i).kept with
    | some t' =>
      -- The event only passed on what was kept before it.
      have hstays := kept_of_unforgotten hbefore (Nat.le_succ i) (unforgotten_succ hforget)
      obtain rfl : t' = t := Option.some.inj (hstays.symm.trans hkept)
      obtain ⟨j, hji, hun, hfilled⟩ := ih hbefore
      exact ⟨j, by omega, hun.trans (unforgotten_succ hforget), hfilled⟩
    | none =>
      refine ⟨i, Nat.lt_succ_self i, unforgotten_succ hforget, hbefore, ?_⟩
      cases hevent : h.events[i]? with
      | none =>
        rw [cacheAt_succ, hevent] at hkept
        exact absurd (hbefore.symm.trans hkept) (by simp)
      | some e =>
        rw [cacheAt_succ_of_event hevent] at hkept
        exact ⟨e, hevent, Event.reads_of_kept hbefore hkept⟩

/-! ### The first successful read -/

/-- The first successful read finds nothing kept: anything kept would have been read before it. -/
theorem FirstGood.kept_eq_none (hfirst : h.FirstGood i j) : (h.cacheAt j).kept = none := by
  cases hkept : (h.cacheAt j).kept with
  | none => rfl
  | some t =>
    obtain ⟨k, hkj, hun, -, hread⟩ := exists_reads_of_kept hkept
    exact absurd hread (hfirst.first k hkj (hun.trans hfirst.unforgotten) t)

/-- The first successful read gives what the sources give then, and that stays kept. -/
theorem FirstGood.exists_kept (hfirst : h.FirstGood i j) :
    ∃ t, load (h.sourcesAt j) = .ok t ∧ h.ReadsAt j (.ok t) ∧ (h.cacheAt i).kept = some t := by
  obtain ⟨t, hread⟩ := hfirst.good
  refine ⟨t, ?_, hread, hread.kept hfirst.before hfirst.unforgotten⟩
  rcases Cache.get_eq_ok_iff.mp hread.eq_get.symm with hkept | ⟨-, hload⟩
  · exact absurd (hfirst.kept_eq_none.symm.trans hkept) (by simp)
  · rwa [sources_cacheAt] at hload

/-- Where something is kept, there was a first successful read. -/
theorem exists_firstGood (hkept : (h.cacheAt i).kept = some t) : ∃ j, h.FirstGood i j := by
  obtain ⟨j, hji, hun, hnone, hread⟩ := exists_reads_of_kept hkept
  refine ⟨j, hji, hun, ⟨t, hread⟩, fun k hkj hunk u hearlier => ?_⟩
  -- An earlier one would have left something for this one to find.
  have hleft := hearlier.kept hkj fun m hkm hmj => hunk m hkm (by omega)
  exact absurd (hnone.symm.trans hleft) (by simp)

theorem exists_evaluates (h : History) (i : Nat) : ∃ k, h.Evaluates i k := by
  by_cases hfirst : ∃ j, h.FirstGood i j
  · obtain ⟨j, hj⟩ := hfirst
    exact ⟨j, .kept hj⟩
  · exact ⟨i, .now fun j hj => hfirst ⟨j, hj⟩⟩

theorem get_of_evaluates (heval : h.Evaluates i k) :
    (h.cacheAt i).get.1 = load (h.sourcesAt k) := by
  cases heval with
  | kept hfirst =>
    obtain ⟨t, hload, -, hkept⟩ := hfirst.exists_kept
    rw [hload]
    exact Cache.get_eq_ok_iff.mpr (.inl hkept)
  | now hnone =>
    -- Whatever was kept would have a first successful read behind it.
    have hkept : (h.cacheAt i).kept = none := by
      rw [Option.eq_none_iff_forall_ne_some]
      intro t hkept
      obtain ⟨j, hj⟩ := exists_firstGood hkept
      exact hnone j hj
    rw [← sources_cacheAt, Cache.get, hkept]
    cases load (h.cacheAt i).sources <;> rfl

/-! ### Failed reads -/

/-- Without an event that left the cache as it was, the caches are the same. -/
theorem cacheAt_without (hsame : h.cacheAt (i + 1) = h.cacheAt i) (k : Nat) :
    (h.without i).cacheAt k = h.cacheAt (if k < i then k else k + 1) := by
  -- Up to the event that is left out the two histories agree, and from there on they are one
  -- event apart.
  induction k with
  | zero =>
    split
    · rfl
    · obtain rfl : i = 0 := by omega
      exact hsame.symm
  | succ k ih =>
    rw [cacheAt_succ, ih, without, List.getElem?_eraseIdx]
    rcases Nat.lt_trichotomy (k + 1) i with hlt | heq | hgt
    · rw [if_pos (by omega), if_pos (by omega), if_pos hlt, cacheAt_succ]
    · -- The event itself comes next, and it is passed over.
      rw [if_pos (by omega), if_pos (by omega), if_neg (by omega), ← cacheAt_succ, heq, hsame]
    · rw [if_neg (by omega), if_neg (by omega), if_neg (by omega), ← cacheAt_succ]

theorem answerAt_without (hsame : h.cacheAt (i + 1) = h.cacheAt i) (k : Nat) :
    (h.without i).answerAt k = h.answerAt (if k < i then k else k + 1) := by
  rw [answerAt, cacheAt_without hsame, without, List.getElem?_eraseIdx, answerAt]
  split <;> rfl

/-- A read that fails finds nothing kept, and leaves the cache as it was. -/
theorem ReadsAt.cacheAt_succ_of_error (hread : h.ReadsAt i (.error e)) :
    h.cacheAt (i + 1) = h.cacheAt i ∧ (h.cacheAt i).kept = none := by
  have hfail := hread.eq_get.symm
  refine ⟨?_, (Cache.get_eq_error_iff.mp hfail).1⟩
  obtain ⟨e, hevent, hreads⟩ := hread
  rw [cacheAt_succ_of_event hevent]
  obtain ⟨rfl, -⟩ | ⟨-, hcache⟩ | ⟨hnone, -⟩ := Event.apply_cases (h.cacheAt i) e
  · cases hreads
  · rw [hcache, Cache.get_snd_of_error hfail]
  · exact absurd hreads (hnone _)

/-! ## The main statement -/

/-- **Reads see one snapshot.** The history is any list of events over any sources.

For every event there is one moment that decides what it reads: that of the first successful read
since the settings were last forgotten, if there was one, else the present. Each read, by itself or
for a pace, gives what the environment and the file gave at that moment, and a pace is told by that
one snapshot. A read that fails keeps nothing, and all other answers are as if its event had not
taken place. Two reads that succeed, with nothing forgotten in between, give the same settings; the
two reads of one pace are such reads. -/
theorem read_is_snapshot (h : History) :
    (∀ i, ∃ k, h.Evaluates i k) ∧
    (∀ i k, h.Evaluates i k →
      (h.events[i]? = some .get → h.answerAt i = some (.settings (load (h.sourcesAt k)))) ∧
      (∀ c, h.events[i]? = some (.pace c) →
        h.answerAt i = some (.pace (c.pace (load (h.sourcesAt k))))) ∧
      ∀ r, h.ReadsAt i r → r = load (h.sourcesAt k)) ∧
    (∀ i j, h.FirstGood i j → ∃ t, load (h.sourcesAt j) = .ok t ∧ h.ReadsAt j (.ok t)) ∧
    (∀ i e, h.ReadsAt i (.error e) →
      h.cacheAt (i + 1) = h.cacheAt i ∧ (h.cacheAt i).kept = none ∧
      ∀ k, (h.without i).answerAt k = h.answerAt (if k < i then k else k + 1)) ∧
    ∀ i j t u, i ≤ j → h.Unforgotten i j → h.ReadsAt i (.ok t) → h.ReadsAt j (.ok u) → t = u := by
  refine ⟨h.exists_evaluates, ?answers, ?first, ?failed, ?same⟩
  case answers =>
    intro i k heval
    have hget := get_of_evaluates heval
    refine ⟨fun hevent => ?_, fun c hevent => ?_, fun r hread => ?_⟩
    · rw [answerAt, hevent, ← hget]
      rfl
    · rw [answerAt, hevent, ← hget, ← Config.readPace_fst]
      rfl
    · rw [hread.eq_get, hget]
  case first =>
    intro i j hfirst
    obtain ⟨t, hload, hread, -⟩ := hfirst.exists_kept
    exact ⟨t, hload, hread⟩
  case failed =>
    intro i e hfailed
    obtain ⟨hsame, hnone⟩ := hfailed.cacheAt_succ_of_error
    exact ⟨hsame, hnone, answerAt_without hsame⟩
  case same =>
    intro i j t u hij hun ht hu
    rcases Nat.lt_or_eq_of_le hij with hlt | rfl
    · -- The later read finds what the earlier one left.
      have hget := Cache.get_eq_ok_iff.mpr (.inl (ht.kept hlt hun))
      exact (Except.ok.inj (hu.eq_get.trans hget)).symm
    · exact Except.ok.inj (ht.eq_get.trans hu.eq_get.symm)

/-- A process whose first read fails. The read after that comes to be kept while the environment
changes again, until it is forgotten and the file is written. -/
def mended : History where
  events :=
    [.set "EDGEX_STARTUP_DURATION" "none", .get, .set "EDGEX_STARTUP_DURATION" "7", .pace {},
      .set "EDGEX_STARTUP_DURATION" "8", .get, .reload, .write (some "EDGEX_STARTUP_INTERVAL=5"), .get]

/-- The second read of the settings gives those of the pace before it, which was the first read to
succeed, and the third one gives those of the present. The first one, which failed, does not matter
to the others. -/
theorem read_is_snapshot_mended :
    mended.answerAt 5 = some (.settings (.ok { startupDuration := 7 })) ∧
      mended.answerAt 8
        = some (.settings (.ok { startupDuration := 8, startupInterval := 5 })) ∧
      (mended.without 1).answerAt 4 = mended.answerAt 5 ∧
      ∀ t u, mended.ReadsAt 3 (.ok t) → mended.ReadsAt 5 (.ok u) → t = u := by
  obtain ⟨-, hanswers, -, hfailed, hsame⟩ := read_is_snapshot mended
  have hun : mended.Unforgotten 3 5 := by
    intro k h3 h5
    obtain rfl | rfl : k = 3 ∨ k = 4 := by omega
    · simp [mended]
    · simp [mended]
  have hgood : mended.ReadsAt 3 (.ok { startupDuration := 7 }) := ⟨.pace {}, rfl, .duration rfl⟩
  have hfirst : mended.FirstGood 5 3 := by
    refine ⟨by decide, hun, ⟨_, hgood⟩, fun k hk _ t hread => ?_⟩
    have hget := hread.eq_get
    obtain ⟨e, hevent, hreads⟩ := hread
    obtain rfl | rfl | rfl : k = 0 ∨ k = 1 ∨ k = 2 := by omega
    · cases hevent
      cases hreads
    · -- This is the read that fails.
      cases hget
    · cases hevent
      cases hreads
  have hnone : ∀ j, ¬ mended.FirstGood 8 j := by
    intro j hj
    obtain ⟨t, e, hevent, hreads⟩ := hj.good
    have hbefore := hj.before
    rcases Nat.lt_or_ge 6 j with hlt | hge
    · obtain rfl : j = 7 := by omega
      cases hevent
      cases hreads
    · exact hj.unforgotten 6 hge (by decide) rfl
  have hsecond := (hanswers 5 3 (.kept hfirst)).1 rfl
  have hthird := (hanswers 8 8 (.now hnone)).1 rfl
  obtain ⟨e, hfail⟩ : ∃ e, mended.ReadsAt 1 (.error e) := ⟨_, .get, rfl, .get⟩
  have hwithout := (hfailed 1 e hfail).2.2 4
  exact ⟨hsecond, hthird, hwithout, fun t u => hsame 3 5 t u (by decide) hun⟩

end History

end StartupGate.Settings
