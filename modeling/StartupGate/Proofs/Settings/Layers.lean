import StartupGate.Settings.Basic
/-!
# The layers of the settings

A setting is looked up in the environment, then in the file, and then it has a default.
`Sources.Supplies` says so for the counts of seconds, and the settings that are read are the ones
that it gives (`Settings.supplies_of_load`).
-/

namespace StartupGate.Settings

/-- `n` is the count of seconds under a name: the one in the environment, else the one in the file,
else the default. A name in the file may stand there without a value, and then it is not set. -/
inductive Sources.Supplies (s : Sources) (name : String) (default : Int) : Int → Prop where
  | environment {v : String} {n : Int}
      (hset : lastIgnoringCase s.environment.entries (Text.lowercase name) = some v)
      (hread : Config.Field.atLeast 1 (.text v) = .ok n) : s.Supplies name default n
  | file {text v : String} {n : Int}
      (hunset : lastIgnoringCase s.environment.entries (Text.lowercase name) = none)
      (hfile : s.file = some (some text))
      (hset : lastIgnoringCase (Dotenv.parse s.environment text) (Text.lowercase name)
        = some (some v))
      (hread : Config.Field.atLeast 1 (.text v) = .ok n) : s.Supplies name default n
  | default
      (hunset : lastIgnoringCase s.environment.entries (Text.lowercase name) = none)
      (hnowhere : ∀ text, s.file = some (some text) →
        (lastIgnoringCase (Dotenv.parse s.environment text) (Text.lowercase name)).join = none) :
      s.Supplies name default default

variable {s : Sources} {name : String} {default n : Int}

theorem supplies_of_seconds (h : seconds s name default = .ok n) : s.Supplies name default n := by
  have hread : ∀ {v : String}, ((Config.Checked.ofCause (Config.Field.atLeast 1 (.text v))).within
      (.name name) = .ok n) → Config.Field.atLeast 1 (.text v) = .ok n :=
    fun hv => Config.Checked.ofCause_eq_ok_iff.mp (Config.Checked.within_eq_ok_iff.mp hv)
  rw [seconds, Sources.find?] at h
  cases henvironment : lastIgnoringCase s.environment.entries (Text.lowercase name) with
  | some v =>
    rw [henvironment] at h
    exact .environment henvironment (hread h)
  | none =>
    rw [henvironment] at h
    rcases hfile : s.file with _ | _ | text
    case none | some.none =>
      -- There is no file, or none that is a text.
      rw [hfile] at h
      obtain rfl := Except.ok.inj h
      exact .default henvironment (by simp [hfile])
    case some.some =>
      rw [hfile] at h
      cases hset : (lastIgnoringCase (Dotenv.parse s.environment text) (Text.lowercase name)).join
        with
      | some v =>
        simp only [hset] at h
        exact .file henvironment hfile (Option.join_eq_some_iff.mp hset) (hread h)
      | none =>
        -- The file does not have the name, or has it without a value.
        simp only [hset] at h
        obtain rfl := Except.ok.inj h
        refine .default henvironment fun text' htext => ?_
        obtain rfl : text = text' := Option.some.inj (Option.some.inj (hfile.symm.trans htext))
        exact hset

/-- The settings that are read are those of their layers. -/
theorem supplies_of_load {t : Settings} (h : load s = .ok t) :
    s.Supplies durationName 60 t.startupDuration ∧
      s.Supplies intervalName 1 t.startupInterval := by
  obtain ⟨-, hduration, hinterval⟩ := seconds_of_load h
  exact ⟨supplies_of_seconds hduration, supplies_of_seconds hinterval⟩

end StartupGate.Settings
