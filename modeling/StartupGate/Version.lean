import StartupGate.Text.Utf8
import StartupGate.Toml.Table
/-!
# The version of the program

The version is the one that was installed, or else the one that the project file in the current
folder gives.
-/

namespace StartupGate.Version

/-- Why no version can be told. -/
inductive Error where
  | projectFile (e : Toml.Error)
  /-- The project section is no table but of another type. -/
  | noTable (typeName : String)

/-- The version where none is known. -/
def unknown : Data := .text "0.0.0+unknown"

/-- The version that a project file gives. -/
def ofProject (text : String) : Except Error Data := do
  let entries ← (Toml.parse (Text.withLineFeeds text)).mapError .projectFile
  let project := (entries.field? "project").getD .null
  match project.orEmptyRecord with
  | .record fields => return (Entries.field? fields "version").getD unknown
  | d => throw (.noTable d.typeName)

/-- The version, by what is installed and by the text of the project file. -/
def current (installed project : Option String) : Except Error Data :=
  match installed, project with
  | some v, _ => .ok (.text v)
  | none, some text => ofProject text
  | none, none => .ok unknown

end StartupGate.Version
