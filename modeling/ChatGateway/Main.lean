import ChatGateway.CommandLine
import ChatGateway.Logging.Redaction
import ChatGateway.Logging.Setup
import ChatGateway.Settings.Load

/-!
# The program

Reads the command line, the environment and the settings file, checks them, and prints the settings
that the gateway would run with. Nothing is decided here; the program opens no socket.
-/
namespace ChatGateway

/-- The variables that the settings come from. -/
def settingVariables : List String :=
  "ANTHROPIC_API_KEY" :: [
    "SERVER__HOST", "SERVER__PORT", "SERVER__MAX_BODY_BYTES",
    "CLAUDE__API_BASE_URL", "CLAUDE__API_KEY", "CLAUDE__ANTHROPIC_VERSION",
    "CLAUDE__TIMEOUT_SECONDS", "CLAUDE__CONNECT_TIMEOUT_SECONDS",
    "STREAMING__CHANNEL_CAPACITY", "STREAMING__KEEP_ALIVE_SECONDS",
    "VISION__FETCH_TIMEOUT_SECONDS", "VISION__MAX_IMAGE_BYTES",
    "LOGGING__LEVEL", "LOGGING__FORMAT", "LOGGING__SANITIZE_TOKENS"].map ("CLAUDE2OAI_" ++ ·)

/-- The variables of a list that are set. -/
def readVariables (names : List String) : IO Settings.Variables :=
  names.filterMapM fun name => do return (← IO.getEnv name).map fun value => (name, value)

/-- The text of a file, or nothing if it cannot be read. -/
def readFile? (path : String) : IO (Option String) := do
  try return some (← IO.FS.readFile path)
  catch _ => return none

/-- The settings to run with, and the log. -/
def prepare (given : CommandLine.Arguments) (vars : Settings.Variables)
    (filter file : Option String) : Except Failure (Settings × Logging.Log) := do
  let settings := given.apply (← Settings.load vars file)
  let log ← Logging.setUp filter settings.logging none
  pure (settings, log)

/-- Prints the settings, or what is wrong with them. -/
def start (given : CommandLine.Arguments) (env : CommandLine.Environment) : IO UInt32 := do
  let file ← readFile? (given.path env "/root")
  match prepare given (← readVariables settingVariables) (← IO.getEnv "RUST_LOG") file with
  | .ok (settings, _) =>
    IO.println (Logging.redact settings.toJson.text)
    return 0
  | .error failure =>
    IO.eprintln ("Error: " ++ failure.message)
    return 1

end ChatGateway

open ChatGateway in
/-- The exit code is 2 for arguments that cannot be read. -/
def main (arguments : List String) : IO UInt32 := do
  let names := "HOME" :: CommandLine.Opt.all.map CommandLine.Opt.variableName
  let vars ← readVariables names
  let env : CommandLine.Environment := fun name => vars.lookup name
  match CommandLine.read env arguments with
  | .ok given => start given env
  | .error (.shows .version) =>
    IO.println "0.1.0"
    return 0
  | .error (.shows .help) =>
    IO.println "Options: --config PATH, --host HOST, --port NUMBER, --help, --version"
    return 0
  | .error _ =>
    IO.eprintln "error: the arguments cannot be read; try --help"
    return 2
