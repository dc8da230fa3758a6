import StartupGate.Config.Basic
import StartupGate.Settings.Cache
import StartupGate.Timer
/-!
# The pace of a configuration

How long a check waits, and how often it looks. Each of the two comes from the startup section, or
from the settings where the section gives none or zero; settings are only looked at when needed.
`pace` goes by settings that were read before, and `readPace` by a cache.
-/

namespace StartupGate.Config

/-- A count of seconds of the startup section, if it gives one. -/
def given? (n : Option Int) : Option Int := n.filter (· != 0)

/-- A count of seconds of the startup section, else that of the settings. -/
def startupSeconds (n : Option Int) (setting : Settings → Int)
    (settings : Settings.Loaded Settings) : Settings.Loaded Int :=
  match given? n with
  | some n => .ok n
  | none => settings.map setting

/-- How long to wait in total. -/
def startupDuration (c : Config) (settings : Settings.Loaded Settings) : Settings.Loaded Int :=
  startupSeconds c.startup.duration (·.startupDuration) settings

/-- How long to wait between two checks. -/
def startupInterval (c : Config) (settings : Settings.Loaded Settings) : Settings.Loaded Int :=
  startupSeconds c.startup.interval (·.startupInterval) settings

/-- Why a configuration has no pace. -/
inductive PaceFault where
  | settings (e : Settings.LoadError)
  | pace (e : PaceError)

/-- The pace of a configuration. -/
def pace (c : Config) (settings : Settings.Loaded Settings) : Except PaceFault Pace := do
  let duration ← (c.startupDuration settings).mapError .settings
  let interval ← (c.startupInterval settings).mapError .settings
  (Pace.of? (.whole duration) (.whole interval)).mapError .pace

/-! ## Settings of a cache -/

/-- A count of seconds of the startup section, else that of the settings of a cache. -/
def readSeconds (n : Option Int) (setting : Settings → Int) (cache : Settings.Cache) :
    Settings.Loaded Int × Settings.Cache :=
  match given? n with
  | some n => (.ok n, cache)
  | none =>
    let (settings, cache) := cache.get
    (settings.map setting, cache)

/-- How long to wait in total, by the settings of a cache. -/
def readDuration (c : Config) (cache : Settings.Cache) :
    Settings.Loaded Int × Settings.Cache :=
  readSeconds c.startup.duration (·.startupDuration) cache

/-- How long to wait between two checks, by the settings of a cache. -/
def readInterval (c : Config) (cache : Settings.Cache) :
    Settings.Loaded Int × Settings.Cache :=
  readSeconds c.startup.interval (·.startupInterval) cache

/-- The pace of a configuration, by the settings of a cache. The interval is not looked at where the
duration cannot be told. -/
def readPace (c : Config) (cache : Settings.Cache) : Except PaceFault Pace × Settings.Cache :=
  match c.readDuration cache with
  | (.error e, cache) => (.error (.settings e), cache)
  | (.ok duration, cache) =>
    match c.readInterval cache with
    | (.error e, cache) => (.error (.settings e), cache)
    | (.ok interval, cache) => ((Pace.of? (.whole duration) (.whole interval)).mapError .pace, cache)

end StartupGate.Config
