import StartupGate.Config.Field
import StartupGate.File.Path
import StartupGate.Settings.Dotenv
/-!
# Settings

Settings come from outside of a configuration: from the environment, else from a file of settings in
the current folder, else they have a default. Their names are not sensitive to case.
-/

namespace StartupGate

/-- What is set outside of a configuration. -/
structure Settings where
  logLevel : String := "INFO"
  /-- The configuration to read when none is given, as a path in normal form. -/
  configFile : Option String := none
  /-- How long to wait in total, in seconds. -/
  startupDuration : Int := 60
  /-- How long to wait between two checks, in seconds. -/
  startupInterval : Int := 1
deriving Repr, DecidableEq

namespace Settings

/-- Where settings come from. -/
structure Sources where
  environment : Environment := {}
  /-- The file of settings, if there is one: its text, or nothing for a file that is no UTF-8. -/
  file : Option (Option String) := none
deriving Repr, DecidableEq

/-- The text of a setting by its name in small letters. -/
def Sources.find? (s : Sources) (name : String) : Option String :=
  match lastIgnoringCase s.environment.entries name with
  | some v => some v
  | none =>
    match s.file with
    | some (some text) => (lastIgnoringCase (Dotenv.parse s.environment text) name).join
    | _ => none

/-- The name under which a count of seconds is set. -/
def durationName : String := "EDGEX_STARTUP_DURATION"

/-- The name under which the seconds between checks are set. -/
def intervalName : String := "EDGEX_STARTUP_INTERVAL"

/-- A setting that is an integer of at least one. -/
def seconds (s : Sources) (name : String) (default : Int) : Config.Checked Int :=
  match s.find? (Text.lowercase name) with
  | none => .ok default
  | some v =>
    (Config.Checked.ofCause (Config.Field.atLeast 1 (.text v))).within (.name name)

/-- Why settings cannot be read. -/
inductive LoadError where
  /-- The file of settings is no UTF-8. -/
  | undecodable
  | issues (found : List Config.Issue)

/-- What comes of settings that perhaps cannot be read. -/
abbrev Loaded (α : Type) := Except LoadError α

/-- Reads the settings. The file is read as a whole before any setting is looked up. -/
def load (s : Sources) : Loaded Settings :=
  if s.file = some none then .error .undecodable
  else
    match Config.Checked.both (seconds s durationName 60) (seconds s intervalName 1) with
    | .error found => .error (.issues found)
    | .ok (startupDuration, startupInterval) =>
      .ok { logLevel := (s.find? "dependency_gate_log_level").getD "INFO"
            configFile := (s.find? "dependency_gate_config_file").map Path.normalize
            startupDuration, startupInterval }

/-- A count of seconds that was read is at least one. -/
theorem one_le_of_seconds {s : Sources} {name : String} {default n : Int} (hd : 1 ≤ default)
    (h : seconds s name default = .ok n) : 1 ≤ n := by
  unfold seconds at h
  split at h
  · cases h
    exact hd
  · have hread := Config.Checked.ofCause_eq_ok_iff.mp (Config.Checked.within_eq_ok_iff.mp h)
    exact Config.Field.le_of_atLeast hread

/-- Settings are read from sources with a file that is a text, if there is one, and hold the counts
of seconds that these sources give. -/
theorem seconds_of_load {s : Sources} {t : Settings} (h : load s = .ok t) :
    s.file ≠ some none ∧ seconds s durationName 60 = .ok t.startupDuration ∧
      seconds s intervalName 1 = .ok t.startupInterval := by
  unfold load at h
  split at h
  · cases h
  · rename_i hfile
    split at h
    · cases h
    · rename_i duration interval hboth
      cases h
      exact ⟨hfile, Config.Checked.both_eq_ok_iff.mp hboth⟩

/-- Settings that were read never wait for less than a second. -/
theorem one_le_of_load {s : Sources} {t : Settings} (h : load s = .ok t) :
    1 ≤ t.startupDuration ∧ 1 ≤ t.startupInterval := by
  obtain ⟨-, hduration, hinterval⟩ := seconds_of_load h
  exact ⟨one_le_of_seconds (by omega) hduration, one_le_of_seconds (by omega) hinterval⟩

end Settings

end StartupGate
