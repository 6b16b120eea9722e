import ConversionScheduler.CommandLine
import ConversionScheduler.Json.Printer
import ConversionScheduler.Logging.Log
import ConversionScheduler.Service
import ConversionScheduler.Text.Utf8
/-!
# The program

Reads the command line, the configuration file and the environment, and runs the service until its
input ends. All that is decided is decided elsewhere.

## Main definitions

* `main` — the program.
-/

namespace ConversionScheduler.Program

/-- The sections of the configuration and their fields, as they occur in names of variables. -/
def sections : List (String × List String) :=
  [("SCHEDULER", ["LOAD_BALANCER", "EVICTION_INTERVAL_SECONDS", "STALE_THRESHOLD_SECONDS",
      "HEALTH_CHECK_ENABLED", "MAX_ERROR_COUNT", "ROLLBACK_ON_DISPATCH_FAILURE"]),
    ("WORKER_STORE", ["BACKEND"]), ("TASK_STORE", ["BACKEND"]),
    ("REDIS", ["URL", "KEY_PREFIX", "COMMAND_TIMEOUT_SECONDS", "WORKER_TTL_SECONDS"]),
    ("WORKER_CLIENT", ["REQUEST_TIMEOUT_SECONDS", "CONNECT_TIMEOUT_SECONDS"]),
    ("LOGGING", ["LEVEL", "FORMAT", "INCLUDE_LOCATION"])]

/-- The names of the variables that are asked for. -/
def variableNames : List String :=
  sections.flatMap fun s => s.2.map fun f => "DOCSCHED__" ++ s.1 ++ "__" ++ f

/-- The variables that are set, with their values. -/
def environment : IO (List (String × String)) :=
  variableNames.filterMapM fun name => do
    return (← IO.getEnv name).map (name, ·)

/-- Looks at a path. Octets that are no text are shown as such. -/
def look (path : String) : IO Found := do
  try
    return .file (Utf8.lossy (← IO.FS.readBinFile path).toList)
  catch
    | .noFileOrDirectory .. => return .absent
    | _ => return .directory

/-- The lines of an event. -/
def lines (format : LogFormat) (e : Event) : String :=
  match format with
  | .json => Json.render e.toJson
  | .pretty => "  " ++ e.summary ++ "\n    at " ++ e.target ++ "\n"

/-- Writes the messages of a fault, the outermost first. -/
def complain (messages : List String) : IO UInt32 := do
  let out ← IO.getStderr
  out.putStrLn ("Error: " ++ messages.headD "")
  for m in messages.drop 1 do
    out.putStrLn ("    " ++ m)
  return 1

/-- Waits for the end of the input. -/
partial def waitForEnd (input : IO.FS.Stream) : IO Unit := do
  unless (← input.getLine).isEmpty do
    waitForEnd input

/-- Runs the service with a configuration. -/
def serve (l : Launch) (c : Config) (log : Log) : IO UInt32 := do
  let out ← IO.getStdout
  let say (es : List Event) : IO Unit := do
    for e in log.written es do
      out.putStrLn (lines c.logging.format e)
    out.flush
  let uptime ← IO.monoNanosNow
  let site : Site := { clock := ⟨.epoch, ⟨uptime⟩⟩, line := { reachable := false } }
  let report := Service.run c l.path? site
  say (Log.opened c.logging :: report.opening)
  match report.fault with
  | some f => complain (f.chain Error.message)
  | none => do
    waitForEnd (← IO.getStdin)
    say report.closing
    return 0

/-- Loads the configuration and runs the service. -/
def launch (l : Launch) : IO UInt32 := do
  let files ← (Config.candidates l.path?).mapM fun path => do
    return (path, ← look path)
  let found (path : String) : Found := (files.lookup path).getD .absent
  match Config.forStart found (← environment) l.path? l.overrides with
  | .error f => complain (f.chain "无法解析")
  | .ok c =>
    match Log.ofConfig c.logging (← IO.getEnv "RUST_LOG") with
    | .error e => complain ["初始化日志系统失败", e.message]
    | .ok log => serve l c log

/-- Does what the arguments ask for. -/
def run (arguments : List String) : IO UInt32 := do
  match CommandLine.ofArguments? arguments with
  | none => do
    (← IO.getStderr).putStrLn CommandLine.helpText
    return 2
  | some .help => do
    IO.println CommandLine.helpText
    return 0
  | some .version => do
    IO.println CommandLine.versionText
    return 0
  | some (.launch l) => launch l

end ConversionScheduler.Program

/-- The program. -/
def main (arguments : List String) : IO UInt32 := ConversionScheduler.Program.run arguments
