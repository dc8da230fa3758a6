import StartupGate.Config.Pace
import StartupGate.Config.Validate
import StartupGate.Proofs.Settings.Snapshot
/-!
# Where a pace comes from

The duration and the interval of a pace fall back on the settings one by one. Three judges meet
here: validation, which accepts no count of seconds below one, the settings, which are judged as a
whole before either of them is used, and `Pace.of?`, which has nothing left to refuse
(`Config.pace_cases`). A cache that is looked at once or twice on the way gives one snapshot
(`Config.readPace_fst`). The main statement is `Config.readPace_of_validate`.
-/

namespace StartupGate

open Settings (Cache)

/-! ## The startup section -/

/-- A count of seconds that validation accepts is one at least. -/
theorem Config.one_le_of_leaf {entries : Entries} {name : String} {n : Option Int}
    (h : leaf entries name none (Field.optional (Field.atLeast 1)) = .ok n) : ∀ m ∈ n, 1 ≤ m := by
  rintro m rfl
  rcases eq_default_or_of_leaf h with hdefault | ⟨d, hd⟩
  · cases hdefault
  · -- The rule read a number, which was not null.
    unfold Field.optional at hd
    split at hd
    · cases hd
    · cases hread : Field.atLeast 1 d with
      | error e => simp [hread, Except.map] at hd
      | ok k =>
        obtain rfl : k = m := by simpa [hread, Except.map] using hd
        exact Field.le_of_atLeast hread

/-- No count of seconds of a startup section is below one. -/
structure Startup.Judged (s : Startup) : Prop where
  duration : ∀ n ∈ s.duration, 1 ≤ n
  interval : ∀ n ∈ s.interval, 1 ≤ n

theorem Startup.judged_of_validate {d : Data} {s : Startup} (h : Startup.validate d = .ok s) :
    s.Judged := by
  obtain ⟨entries, -, hfields⟩ := Config.inSection_eq_ok_iff.mp h
  obtain ⟨⟨duration, interval⟩, hboth, rfl⟩ := Config.Checked.map_eq_ok_iff.mp hfields
  obtain ⟨hduration, hinterval⟩ := Config.Checked.both_eq_ok_iff.mp hboth
  exact ⟨Config.one_le_of_leaf hduration, Config.one_le_of_leaf hinterval⟩

theorem Config.judged_of_validate {d : Data} {c : Config} (h : validate d = .ok c) :
    c.startup.Judged := by
  obtain ⟨entries, -, hfields⟩ := inSection_eq_ok_iff.mp h
  obtain ⟨⟨timeout, clients, registry, startup⟩, hall, rfl⟩ := Checked.map_eq_ok_iff.mp hfields
  obtain ⟨-, hall⟩ := Checked.both_eq_ok_iff.mp hall
  obtain ⟨-, hall⟩ := Checked.both_eq_ok_iff.mp hall
  obtain ⟨-, hstartup⟩ := Checked.both_eq_ok_iff.mp hall
  rcases eq_default_or_of_field hstartup with rfl | ⟨d, hd⟩
  · -- A section that is not there gives no count.
    exact ⟨by simp, by simp⟩
  · exact Startup.judged_of_validate hd

theorem Pace.of?_of_one_le {duration interval : Int} (hduration : 1 ≤ duration)
    (hinterval : 1 ≤ interval) :
    Pace.of? (.whole duration) (.whole interval) = .ok ⟨.whole duration, .whole interval⟩ := by
  rw [of?, Seconds.le_whole, Seconds.le_whole, decide_eq_false (by omega),
    decide_eq_false (by omega)]
  rfl

namespace Config

/-! ## Counts of seconds -/

/-- `n` is the count of seconds that is given, else that of the settings. -/
inductive Supplied (setting : Settings → Int) (settings : Settings.Loaded Settings) :
    Option Int → Int → Prop where
  | given (n : Int) : Supplied setting settings (some n) n
  | settings {t : Settings} (h : settings = .ok t) : Supplied setting settings none (setting t)

/-- Settings that could be read do not wait for less than a second. -/
def Judged (settings : Settings.Loaded Settings) : Prop :=
  ∀ t, settings = .ok t → 1 ≤ t.startupDuration ∧ 1 ≤ t.startupInterval

variable {setting : Settings → Int} {settings : Settings.Loaded Settings} {given : Option Int} {n : Int}
  {e : Settings.LoadError}

/-- A count of seconds that is one at least counts as given. -/
theorem given?_of_judged (hgiven : ∀ m ∈ given, 1 ≤ m) : given? given = given := by
  cases given with
  | none => rfl
  | some m =>
    -- Zero is the one count that would pass for none.
    have hm : 1 ≤ m := hgiven m rfl
    have hne : (m != 0) = true := by simp; omega
    simp [given?, Option.filter, hne]

theorem startupSeconds_eq_ok_iff (hgiven : ∀ m ∈ given, 1 ≤ m) :
    startupSeconds given setting settings = .ok n ↔ Supplied setting settings given n := by
  rw [startupSeconds, given?_of_judged hgiven]
  constructor
  · intro h
    cases given with
    | some m =>
      obtain rfl := Except.ok.inj h
      exact .given m
    | none =>
      cases settings with
      | error e => cases h
      | ok t =>
        obtain rfl := Except.ok.inj h
        exact .settings rfl
  · rintro (_ | ⟨rfl⟩) <;> rfl

theorem startupSeconds_eq_error_iff (hgiven : ∀ m ∈ given, 1 ≤ m) :
    startupSeconds given setting settings = .error e ↔
      given = none ∧ settings = .error e := by
  rw [startupSeconds, given?_of_judged hgiven]
  cases given with
  | some m => simp
  | none => cases settings <;> simp [Except.map]

theorem Supplied.one_le (hgiven : ∀ m ∈ given, 1 ≤ m)
    (hsetting : ∀ t, settings = .ok t → 1 ≤ setting t) (h : Supplied setting settings given n) :
    1 ≤ n := by
  cases h with
  | given => exact hgiven n rfl
  | settings ht => exact hsetting _ ht

/-! ## The pace -/

/-- A configuration has a pace, unless it needs settings that could not be read. -/
theorem pace_cases {c : Config} (hjudged : c.startup.Judged) (hsettings : Judged settings) :
    (∃ duration interval : Int, c.pace settings = .ok ⟨.whole duration, .whole interval⟩ ∧
      1 ≤ duration ∧ 1 ≤ interval ∧
      Supplied (·.startupDuration) settings c.startup.duration duration ∧
      Supplied (·.startupInterval) settings c.startup.interval interval) ∨
    ∃ e, c.pace settings = .error (.settings e) ∧
      (c.startup.duration = none ∨ c.startup.interval = none) ∧ settings = .error e := by
  rw [pace]
  -- The duration is told first, then the interval, and then both are judged.
  cases hduration : c.startupDuration settings with
  | error e =>
    obtain ⟨hnone, hrefused⟩ := (startupSeconds_eq_error_iff hjudged.duration).mp hduration
    exact .inr ⟨e, rfl, .inl hnone, hrefused⟩
  | ok duration =>
    cases hinterval : c.startupInterval settings with
    | error e =>
      obtain ⟨hnone, hrefused⟩ := (startupSeconds_eq_error_iff hjudged.interval).mp hinterval
      exact .inr ⟨e, rfl, .inr hnone, hrefused⟩
    | ok interval =>
      have hduration := (startupSeconds_eq_ok_iff hjudged.duration).mp hduration
      have hinterval := (startupSeconds_eq_ok_iff hjudged.interval).mp hinterval
      have hone := hduration.one_le hjudged.duration fun t ht => (hsettings t ht).1
      have hone' := hinterval.one_le hjudged.interval fun t ht => (hsettings t ht).2
      refine .inl ⟨duration, interval, ?_, hone, hone', hduration, hinterval⟩
      show (Pace.of? (.whole duration) (.whole interval)).mapError PaceFault.pace = _
      rw [Pace.of?_of_one_le hone hone']
      rfl

/-! ## Reading through a cache -/

variable {cache : Cache}

theorem readSeconds_fst :
    (readSeconds given setting cache).1 = startupSeconds given setting cache.get.1 := by
  rw [readSeconds, startupSeconds]
  cases given? given <;> rfl

/-- Reading a count of seconds does not change what the cache gives next. -/
theorem get_readSeconds : (readSeconds given setting cache).2.get.1 = cache.get.1 := by
  rw [readSeconds]
  cases given? given with
  | some n => rfl
  | none => exact congrArg Prod.fst cache.get_get

theorem readSeconds_of_given (hgiven : given? given = some n) :
    readSeconds given setting cache = (.ok n, cache) := by
  rw [readSeconds, hgiven]

theorem readSeconds_of_not_given (hungiven : given? given = none) :
    readSeconds given setting cache = (cache.get.1.map setting, cache.get.2) := by
  rw [readSeconds, hungiven]

/-- The pace by a cache is the pace by the one snapshot that the cache gives. -/
theorem readPace_fst (c : Config) (cache : Cache) :
    (c.readPace cache).1 = c.pace cache.get.1 := by
  have hduration : (c.readDuration cache).1 = c.startupDuration cache.get.1 := readSeconds_fst
  -- The interval is read from the cache that reading the duration left.
  have hinterval : (c.readInterval (c.readDuration cache).2).1
      = c.startupInterval cache.get.1 := by
    rw [readInterval, readSeconds_fst, readDuration, get_readSeconds]
    rfl
  rw [pace, ← hduration, ← hinterval, readPace]
  rcases c.readDuration cache with ⟨_ | duration, cache'⟩
  · rfl
  · rcases hread : c.readInterval cache' with ⟨_ | interval, cache''⟩ <;> simp [hread] <;> rfl

/-- Where the duration is not given, reading a pace leaves the cache as one look leaves it, whether
the interval takes another look or not. -/
theorem readPace_snd_of_duration {c : Config} (hungiven : given? c.startup.duration = none)
    (cache : Cache) : (c.readPace cache).2 = cache.get.2 := by
  have hduration : c.readDuration cache = (cache.get.1.map (·.startupDuration), cache.get.2) :=
    readSeconds_of_not_given hungiven
  rw [readPace, hduration]
  cases hget : cache.get.1 with
  | error e => rfl
  | ok t =>
    cases hinterval : given? c.startup.interval with
    | none =>
      -- The second look finds what the first one left.
      have hread : c.readInterval cache.get.2
          = (cache.get.2.get.1.map (·.startupInterval), cache.get.2.get.2) :=
        readSeconds_of_not_given hinterval
      rw [cache.get_get, hget] at hread
      simp only [Except.map, hread]
    | some interval =>
      have hread : c.readInterval cache.get.2 = (.ok interval, cache.get.2) :=
        readSeconds_of_given hinterval
      simp only [Except.map, hread]

/-- Where only the interval is not given, there is one look. -/
theorem readPace_snd_of_interval {c : Config} {duration : Int}
    (hgiven : given? c.startup.duration = some duration)
    (hungiven : given? c.startup.interval = none) (cache : Cache) :
    (c.readPace cache).2 = cache.get.2 := by
  have hduration : c.readDuration cache = (.ok duration, cache) := readSeconds_of_given hgiven
  have hinterval : c.readInterval cache = (cache.get.1.map (·.startupInterval), cache.get.2) :=
    readSeconds_of_not_given hungiven
  rw [readPace, hduration]
  cases hget : cache.get.1 <;> simp only [Except.map, hinterval, hget]

/-- Where both are given, the cache is left alone. -/
theorem readPace_snd_of_given {c : Config} {duration interval : Int}
    (hduration : given? c.startup.duration = some duration)
    (hinterval : given? c.startup.interval = some interval) (cache : Cache) :
    (c.readPace cache).2 = cache := by
  have hread : c.readDuration cache = (.ok duration, cache) := readSeconds_of_given hduration
  have hread' : c.readInterval cache = (.ok interval, cache) := readSeconds_of_given hinterval
  simp only [readPace, hread, hread']

/-- Where a count of seconds is given, the cache is not looked at. -/
theorem readSeconds_some (hn : 1 ≤ n) : readSeconds (some n) setting cache = (.ok n, cache) := by
  rw [readSeconds, given?_of_judged (by simpa using hn)]

theorem readPace_of_given {c : Config} {duration interval : Int} (hjudged : c.startup.Judged)
    (hduration : c.startup.duration = some duration)
    (hinterval : c.startup.interval = some interval) (cache : Cache) :
    c.readPace cache = (.ok ⟨.whole duration, .whole interval⟩, cache) := by
  have hone : 1 ≤ duration := hjudged.duration _ hduration
  have hone' : 1 ≤ interval := hjudged.interval _ hinterval
  simp only [readPace, readDuration, readInterval, hduration, hinterval, readSeconds_some hone,
    readSeconds_some hone', Pace.of?_of_one_le hone hone']
  rfl

/-! ## The main statement -/

/-- **Where a pace comes from.** The configuration was accepted, and the cache is any that comes
about, over any environment and any file.

Reading the pace gives a duration and an interval, neither of them below one and each from the
startup section, else from the snapshot of the cache, or it fails as reading the settings fails,
which happens only where one of the two is not given. `Pace.of?` never refuses. Where both are given,
neither the environment nor the file nor what the cache keeps matters, and the cache is left as it
is. -/
theorem readPace_of_validate {d : Data} {c : Config} (hvalid : validate d = .ok c) {cache : Cache}
    (hreached : cache.Reached) :
    ((∃ duration interval : Int,
        (c.readPace cache).1 = .ok ⟨.whole duration, .whole interval⟩ ∧
        1 ≤ duration ∧ 1 ≤ interval ∧
        Supplied (·.startupDuration) cache.get.1 c.startup.duration duration ∧
        Supplied (·.startupInterval) cache.get.1 c.startup.interval interval) ∨
      ∃ e, (c.readPace cache).1 = .error (.settings e) ∧
        (c.startup.duration = none ∨ c.startup.interval = none) ∧
        cache.kept = none ∧ Settings.load cache.sources = .error e) ∧
    (∀ e, (c.readPace cache).1 ≠ .error (.pace e)) ∧
    ∀ duration interval, c.startup.duration = some duration →
      c.startup.interval = some interval →
      ∀ other : Cache, c.readPace other = (.ok ⟨.whole duration, .whole interval⟩, other) := by
  have hjudged := judged_of_validate hvalid
  have hcases := @pace_cases cache.get.1 c hjudged fun t ht => hreached.one_le_of_get ht
  rw [readPace_fst]
  refine ⟨?outcome, ?guards, fun duration interval => readPace_of_given hjudged⟩
  case outcome =>
    refine hcases.imp_right ?_
    rintro ⟨e, hpace, hnone, hrefused⟩
    exact ⟨e, hpace, hnone, Cache.get_eq_error_iff.mp hrefused⟩
  case guards =>
    intro e he
    -- Neither of the two outcomes is a refusal of `Pace.of?`.
    obtain ⟨_, _, hpace, -⟩ | ⟨_, hpace, -⟩ := hcases
    · cases hpace.symm.trans he
    · cases hpace.symm.trans he

/-- A cache that was filled before the environment and the file asked for other settings. -/
def stale : Cache :=
  ((Cache.get {}).2.changeEnvironment (·.set "EDGEX_STARTUP_DURATION" "7")).writeFile
    (some "EDGEX_STARTUP_INTERVAL=none")

/-- The document gives the interval, and the duration is that of the kept settings. -/
theorem readPace_of_validate_stale :
    ∃ c, validate (.record [(.text "startup", .record [(.text "interval", .int 5)])]) = .ok c ∧
      stale.Reached ∧ (c.readPace stale).1 = .ok ⟨.whole 60, .whole 5⟩ := by
  have hvalid : validate (.record [(.text "startup", .record [(.text "interval", .int 5)])])
      = .ok { startup := { interval := some 5 } } := rfl
  have hreached : stale.Reached := ((Cache.Reached.fresh {}).get.changeEnvironment _).writeFile _
  have hsnapshot : stale.get.1 = .ok {} := rfl
  refine ⟨_, hvalid, hreached, ?_⟩
  obtain ⟨houtcome, -⟩ := readPace_of_validate hvalid hreached
  rcases houtcome with ⟨duration, interval, hpace, -, -, hduration, hinterval⟩ | ⟨_, _, _, hkept, _⟩
  · rw [hsnapshot] at hduration hinterval
    cases hinterval
    cases hduration with
    | settings ht =>
      obtain rfl := Except.ok.inj ht
      exact hpace
  · -- This cache keeps settings.
    cases hkept

end Config

end StartupGate
