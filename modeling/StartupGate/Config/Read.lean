import StartupGate.Config.Load
import StartupGate.File.Folder
/-!
# Reading a configuration from a file

The file at a path is read as UTF-8 with any kind of line end. A tilde at the start of the path
stands for the home directory.
-/

namespace StartupGate.Config

/-- Why a file gives no configuration. -/
inductive ReadError where
  /-- The home of a user that is not known. -/
  | unknownHome
  | file (fault : FileFault)
  | load (e : LoadError)

/-- Reads a configuration from the bytes of a file. -/
def ofBytes (bytes : List UInt8) : Except ReadError Config :=
  (load (Yaml.Stream.ofBytes bytes)).mapError .load

/-- Reads the configuration at a path. -/
def read {m : Type → Type} [Monad m] (files : Files m) (homes : Path.Homes) (path : String) :
    m (Except ReadError Config) := do
  match Path.expandHome? homes path with
  | none => return .error .unknownHome
  | some path =>
    match ← files path with
    | .error fault => return .error (.file fault)
    | .ok bytes => return ofBytes bytes

end StartupGate.Config
