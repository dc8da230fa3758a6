import StartupGate.CommandLine.Arguments
import StartupGate.Config.Basic
import StartupGate.Config.IntegerText
import StartupGate.File.Folder
/-!
# Commands

The program has two commands. `version` shows its version; `check` waits for the services that a
configuration needs. `Command.ofArguments` reads a command from the arguments of the program.
-/

namespace StartupGate

/-- The options of a check. -/
structure CheckOptions where
  /-- The path of the configuration; a dash stands for the standard input. -/
  config : Option String := none
  /-- The seconds to wait in total, at least one. -/
  duration : Option Int := none
  /-- The seconds between two checks, at least one. -/
  interval : Option Int := none
deriving Repr, DecidableEq

/-- What the program is asked to do. -/
inductive Command where
  | help
  | version (short : Bool)
  | check (options : CheckOptions)
deriving Repr, DecidableEq

namespace Command

/-- The options of `check`. -/
inductive CheckKey where
  | config
  | duration
  | interval
  | help
deriving Repr, DecidableEq

/-- Finds an option of `check`. -/
def checkOption? (name : String) : Option (CheckKey × Bool) :=
  if name = "-c" ∨ name = "--config" then some (.config, true)
  else if name = "-d" ∨ name = "--duration" then some (.duration, true)
  else if name = "-i" ∨ name = "--interval" then some (.interval, true)
  else if name = "--help" then some (.help, false)
  else none

/-- The options of `version`. -/
inductive VersionKey where
  | short
  | long
  | help
deriving Repr, DecidableEq

/-- Finds an option of `version`. -/
def versionOption? (name : String) : Option (VersionKey × Bool) :=
  if name = "--short" then some (.short, false)
  else if name = "--no-short" then some (.long, false)
  else if name = "--help" then some (.help, false)
  else none

/-- Finds an option before the command. -/
def helpOption? (name : String) : Option (Unit × Bool) :=
  if name = "--help" then some ((), false) else none

/-- Reads a count of seconds. -/
def seconds (value : String) : Except UsageError Int :=
  match Config.IntegerText.read value with
  | .error _ => .error (.notInteger value)
  | .ok n => if n < 1 then .error (.tooSmall n) else .ok n

/-- Refuses words that no command takes. -/
def noWords (words : List String) : Except UsageError Unit :=
  match words with
  | [] => .ok ()
  | word :: _ => .error (.extraArgument word)

/-- Reads the path of a configuration. -/
def path (value : String) : Except UsageError String :=
  if (pathFault? value).isSome then .error (.badPath value) else .ok value

/-- Adds the value of an option to the options of a check. -/
def setOption (o : CheckOptions) (key : CheckKey) (value : String) :
    Except UsageError CheckOptions :=
  match key with
  | .config => (path value).map fun p => { o with config := some p }
  | .duration => (seconds value).map fun n => { o with duration := some n }
  | .interval => (seconds value).map fun n => { o with interval := some n }
  | .help => .ok o

/-- Reads the arguments of `check`. Of an option that is given twice the last value counts; the
options are judged in the order in which they first come. -/
def ofCheckArguments (args : List String) : Except UsageError Command := do
  let a ← Arguments.read checkOption? true args
  if a.has .help then return .help
  let keys := (a.options.map (·.1)).eraseDups
  let o ← keys.foldlM (fun o key => setOption o key ((a.last? key).getD "")) {}
  noWords a.words
  return .check o

/-- Reads the arguments of `version`. -/
def ofVersionArguments (args : List String) : Except UsageError Command := do
  let a ← Arguments.read versionOption? true args
  if a.has .help then return .help
  noWords a.words
  let kind := a.options.reverse.find? fun (k, _) => k ≠ .help
  return .version (kind.any fun (k, _) => k == .short)

/-- Reads the arguments of the program. -/
def ofArguments (args : List String) : Except UsageError Command := do
  let a ← Arguments.read helpOption? false args
  if a.has () then return .help
  match a.words with
  | [] => throw .missingCommand
  | name :: rest =>
    if name = "check" then ofCheckArguments rest
    else if name = "version" then ofVersionArguments rest
    else throw (.unknownCommand name)

end Command

/-- The configuration with the options of a check in place of its startup section, each where it is
given. -/
def CheckOptions.override (o : CheckOptions) (c : Config) : Config :=
  { c with startup :=
    { duration := o.duration.orElse fun _ => c.startup.duration
      interval := o.interval.orElse fun _ => c.startup.interval } }

end StartupGate
