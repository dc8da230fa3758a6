import StartupGate.Config.Validate
import StartupGate.Yaml.Document
/-!
# Loading a configuration

A configuration is written as a YAML document. A document that counts as false, such as an empty
one, gives the defaults.
-/

namespace StartupGate

namespace Config

/-- Why a text gives no configuration. -/
inductive LoadError where
  | document (e : Yaml.Error)
  | issues (found : List Issue)

/-- How deep a configuration is read: the record of sections, a section, an endpoint, a field.
Nothing below is ever looked at. -/
def depth : Nat := 4

/-- Reads a configuration from the stream of a document. -/
def load (s : Yaml.Stream) : Except LoadError Config := do
  let d ← (Yaml.load depth s).mapError .document
  (Config.validate d.orEmptyRecord).mapError .issues

end Config

end StartupGate
