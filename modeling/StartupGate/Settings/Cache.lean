import StartupGate.Settings.Basic
/-!
# Settings that are read once

A `Cache` keeps the settings that were read successfully, until it is told to read them again. What
could not be read is not kept: the next look reads anew.
-/

namespace StartupGate.Settings

/-- Where settings come from, and the settings as they were read last. -/
structure Cache where
  sources : Sources := {}
  kept : Option Settings := none
deriving Repr, DecidableEq

namespace Cache

/-- The settings: the kept ones, or those that the sources give now. -/
def get (c : Cache) : Loaded Settings × Cache :=
  match c.kept with
  | some t => (.ok t, c)
  | none =>
    match load c.sources with
    | .ok t => (.ok t, { c with kept := some t })
    | .error e => (.error e, c)

/-- Forgets the kept settings. -/
def reload (c : Cache) : Cache := { c with kept := none }

/-- Changes the environment; the kept settings stay. -/
def changeEnvironment (c : Cache) (f : Environment → Environment) : Cache :=
  { c with sources := { c.sources with environment := f c.sources.environment } }

/-- Writes the file of settings, with a text or with bytes that are none; the kept settings stay. -/
def writeFile (c : Cache) (text : Option String) : Cache :=
  { c with sources := { c.sources with file := some text } }

end Cache

end StartupGate.Settings
