import StartupGate.CommandLine.Command
import StartupGate.CommandLine.Table
import StartupGate.Config.Pace
import StartupGate.Config.Read
import StartupGate.Gate
import StartupGate.Markup.Basic
import StartupGate.Version
/-!
# Running a command

`Run.main` does what the arguments of the program ask for and answers with an exit status, the text
for the standard output, and the messages and reports of a check. The status is zero when all is
well, one when a check fails or cannot be made, and two when the arguments are refused. A check that
never ends has no result.

Files are read through `Surroundings.files`, in any kind of computation, so that a run needs nothing
from the system but that.
-/

namespace StartupGate

/-- What a run depends on besides its arguments. -/
structure Surroundings (m : Type → Type) where
  files : Files m
  homes : Path.Homes := {}
  environment : Environment := {}
  /-- The standard input. -/
  input : List UInt8 := []
  /-- The version that was installed, if any. -/
  installed : Option String := none
  network : Http.Network
  /-- The worker that a service gets at first. -/
  worker : String → Worker := fun _ => {}

/-- Why a check could not be made, or its result not be shown. -/
inductive RunFailure where
  | read (e : Config.ReadError)
  | settings (e : Settings.LoadError)
  | registry (f : Fault)
  | pace (e : PaceError)
  /-- A check that ended in a fault. -/
  | check (f : Fault)
  | version (e : Version.Error)
  /-- A project file that is no UTF-8. -/
  | undecodable
  | markup (e : Markup.Error)
  /-- Output that cannot be written as UTF-8. -/
  | unwritable

/-- The wording of the issues of a configuration or of settings. -/
def issuesText (issues : List Config.Issue) : String :=
  "; ".intercalate (issues.map fun i =>
    let place (p : Config.Place) : String :=
      match p with
      | .name s => s
      | .number n => toString n
    ".".intercalate (i.path.map place) ++ ": " ++ i.cause.message)

/-- The wording of a document error. -/
def documentText : Yaml.Error → String
  | .undecodable => "the configuration is no text"
  | .unprintable => "the configuration holds a character that no document may hold"
  | .token _ => "the configuration cannot be split into tokens"
  | .grammar _ => "the configuration is no document"
  | .reference _ => "the configuration refers to what is not there, or names it twice"
  | .tag _ => "a value of the configuration is not of the type that it is marked with"
  | .value f => "a value of the configuration cannot be read: " ++ f.message

/-- The wording of a failure. -/
def RunFailure.message : RunFailure → String
  | .read .unknownHome => "the home directory is not known"
  | .read (.file _) => "the configuration cannot be opened"
  | .read (.load (.document e)) => documentText e
  | .read (.load (.issues found)) => issuesText found
  | .settings .undecodable => "the file of settings is no text"
  | .settings (.issues found) => issuesText found
  | .registry f => f.report
  | .pace e => e.message
  | .check f => f.report
  | .version (.projectFile _) => "the project file cannot be read"
  | .version (.noTable name) => "the project section is no table but of type " ++ name
  | .undecodable => "the project file is no text"
  | .markup e => e.message
  | .unwritable => "the output is no text that can be written"

/-- What a run comes to. -/
structure RunResult where
  status : Nat
  failure : Option RunFailure := none
  usage : Option UsageError := none
  /-- What is written to the standard output. -/
  output : String := ""
  logs : List Log.Entry := []
  reports : List CheckAll.Report := []

namespace RunResult

/-- A run that fails. -/
def failed (f : RunFailure) : RunResult := { status := 1, failure := some f }

/-- A run whose arguments are refused. A path that no file can have counts as a failure to read. -/
def refused : UsageError → RunResult
  | .badPath path => failed (.read (.file ((pathFault? path).getD .badPath)))
  | e => { status := 2, usage := some e }

/-- The run with a text for the standard output, if that can be written. -/
def printing (r : RunResult) (text : String) : RunResult :=
  if Text.isWritable text then { r with status := 0, output := text }
  else { r with status := 1, failure := some .unwritable }

end RunResult

namespace Run

/-! ## Checking -/

/-- The names of a directory with the endpoints of their clients, in alphabetical order. -/
def clientRows (d : Directory) : List (String × String) :=
  (Directory.sortTexts d.names).map fun name => (name, (d.get? name).elim "" Handle.endpoint)

/-- The cells of a row, as the markup of its texts has them. -/
def cells (row : String × String) : Except Markup.Error (List String) := do
  return [← Markup.plain row.1, ← Markup.plain row.2]

/-- The table of the clients with these names and endpoints. -/
def tableOf (rows : List (String × String)) : Except Markup.Error Table := do
  let rows ← rows.mapM cells
  return { title := "Published clients", headings := ["Name", "Endpoint"], rows }

/-- The table of the clients that were published. -/
def clientTable (d : Directory) : Except Markup.Error Table := tableOf (clientRows d)

/-- The registry client of a configuration, if a registry is configured. -/
def registryOf (net : Http.Network) (c : Config) : Except Fault (Option RegistryClient) :=
  match c.registry with
  | none => .ok none
  | some r => do return some ((← Consul.ofAddress r c.timeout).client net)

/-- The registry client and the pace of a configuration. -/
def prepare (net : Http.Network) (settings : Settings.Loaded Settings) (c : Config) :
    Except RunFailure (Option RegistryClient × Pace) := do
  -- Where both fail, the failure of the registry client is the one that is told.
  let registry ← (registryOf net c).mapError .registry
  let pace ← (c.pace settings).mapError fun
    | .settings e => .settings e
    | .pace e => .pace e
  return (registry, pace)

/-- Shows what the gate answered: the clients, if it opens. -/
def showAnswer (a : Gate.Answer) : RunResult :=
  let reported : RunResult := { status := 1, logs := a.logs, reports := a.reports }
  match a.ready with
  | .ok true =>
    match clientTable a.clients with
    | .ok table => reported.printing table.render
    | .error e => { reported with failure := some (.markup e) }
  | .ok false => reported
  | .error f => { reported with failure := some (.check f) }

/-- Checks what a configuration needs, and shows the clients if all of it is available. -/
def check (net : Http.Network) (worker : String → Worker) (settings : Settings.Loaded Settings)
    (c : Config) : Option RunResult :=
  match prepare net settings c with
  | .error f => some (.failed f)
  | .ok (registry, pace) =>
    (Gate.check id pace.factory net c registry worker {}).map showAnswer

/-! ## Commands -/

/-- The text of a file, nothing if it cannot be read. -/
def textOf? {m : Type → Type} [Monad m] (files : Files m) (path : String) :
    m (Option (Option String)) := do
  match ← files path with
  | .ok bytes => return some (Text.decodeUtf8? bytes)
  | .error _ => return none

/-- Reads the settings. -/
def settings {m : Type → Type} [Monad m] (s : Surroundings m) : m (Settings.Loaded Settings) := do
  return Settings.load { environment := s.environment, file := ← textOf? s.files ".env" }

/-- What reading the configuration of a check comes to. -/
inductive Source where
  | config (c : Config)
  | refused (e : UsageError)
  | failed (f : RunFailure)

/-- Judges the bytes of a configuration. -/
def sourceOf (r : Except Config.ReadError Config) : Source :=
  match r with
  | .ok c => .config c
  | .error e => .failed (.read e)

/-- Reads the configuration of a check: the one that is given, else the one of the settings. -/
def source {m : Type → Type} [Monad m] (s : Surroundings m) (settings : Settings.Loaded Settings)
    (given : Option String) : m Source := do
  match given with
  | some path =>
    if path = "-" then return sourceOf (Config.ofBytes s.input)
    else match ← s.files path with
      | .ok bytes => return sourceOf (Config.ofBytes bytes)
      -- A file that is given and cannot be read is a mistake in the arguments.
      | .error _ => return .refused (.unreadableFile path)
  | none =>
    match settings with
    | .error e => return .failed (.settings e)
    | .ok t =>
      match t.configFile with
      | none => return .refused .noConfiguration
      | some path => return sourceOf (← Config.read s.files s.homes path)

/-- Runs `check`. -/
def runCheck {m : Type → Type} [Monad m] (s : Surroundings m) (o : CheckOptions) :
    m (Option RunResult) := do
  -- Settings that cannot be read do no harm until they are needed.
  let settings ← settings s
  match ← source s settings o.config with
  | .refused e => return some (.refused e)
  | .failed f => return some (.failed f)
  | .config c => return check s.network s.worker settings (o.override c)

/-- Shows a version. -/
def showVersion (short : Bool) (r : Except Version.Error Data) : RunResult :=
  match r with
  | .error e => .failed (.version e)
  | .ok v =>
    let text := v.plain
    let shown := if short then text else "dependency-gate CLI Version: " ++ text
    RunResult.printing { status := 0 } (shown ++ "\n")

/-- Runs `version`. -/
def runVersion {m : Type → Type} [Monad m] (s : Surroundings m) (short : Bool) :
    m RunResult := do
  match s.installed with
  | some v => return showVersion short (Version.current (some v) none)
  | none =>
    match ← textOf? s.files "pyproject.toml" with
    | none => return showVersion short (Version.current none none)
    | some none => return .failed .undecodable
    | some (some text) => return showVersion short (Version.current none (some text))

/-- How the program is used. -/
def usage : String :=
  "Usage: dependency-gate check [-c CONFIG] [-d SECONDS] [-i SECONDS]\n" ++
    "       dependency-gate version [--short]\n"

/-- Does what the arguments ask for. -/
def main {m : Type → Type} [Monad m] (s : Surroundings m) (args : List String) :
    m (Option RunResult) :=
  match Command.ofArguments args with
  | .error e => return some (.refused e)
  | .ok .help => return some { status := 0, output := usage }
  | .ok (.version short) => some <$> runVersion s short
  | .ok (.check o) => runCheck s o

end Run

end StartupGate
