import StartupGate.CommandLine.Run
/-!
# The program

The outer layer of the command line: it reads files, the environment and the standard input, lets
`Run.main` do the work, and writes what that comes to. No network is within reach from here, so
every request of a check finds no route; time is the clock of each worker.
-/

namespace StartupGate.Main

/-- Reads a file of the system. -/
def readFile : Files IO := fun path => do
  try
    return .ok (← IO.FS.readBinFile path).toList
  catch
    | .noFileOrDirectory _ _ _ => return .error .notFound
    | .inappropriateType _ code _ =>
      return .error (if code = 20 then .notFolder else .isFolder)
    | e => return .error (.other (toString e))

/-- The variables that a block of the system's environment holds, a null character after each. -/
def environmentOf (block : String) : Environment :=
  (block.splitOn "\x00").foldl (fun e entry =>
    match entry.splitOn "=" with
    | name :: value :: more => e.set name ("=".intercalate (value :: more))
    | _ => e) {}

/-- Reads the environment. -/
def environment : IO Environment := do
  match ← readFile "/proc/self/environ" with
  | .ok bytes => return ((Text.decodeUtf8? bytes).map environmentOf).getD {}
  | .error _ => return {}

/-- The word for a severity. -/
def severityWord : Log.Severity → String
  | .debug => "debug"
  | .info => "info"
  | .warning => "warning"
  | .error => "error"

/-- Writes the messages of a log to the standard error. -/
def writeLog (logs : List Log.Entry) : IO Unit :=
  logs.forM fun e => IO.eprintln (severityWord e.severity ++ ": " ++ e.text)

end StartupGate.Main

open StartupGate StartupGate.Main in
/-- Runs the program. -/
def main (args : List String) : IO UInt32 := do
  let environment ← environment
  let needsInput := match Command.ofArguments args with
    | .ok (.check o) => o.config == some "-"
    | _ => false
  let input ← if needsInput then (← IO.getStdin).readToEnd else pure ""
  let surroundings : Surroundings IO :=
    { files := readFile, homes := { own := (environment.get? "HOME").getD "." }, environment
      input := input.toUTF8.toList, network := .offline }
  let some result ← Run.main surroundings args | return 1
  result.reports.forM fun r => writeLog r.worker.logs
  writeLog result.logs
  if let some e := result.usage then IO.eprintln ("error: " ++ e.message)
  if let some f := result.failure then IO.eprintln ("error: " ++ f.message)
  IO.print result.output
  return UInt32.ofNat result.status
