import ChatGateway.Logging.Filter
import ChatGateway.Settings.Basic

/-!
# Setting up the log

The filter comes from the environment if that holds one, else from the settings. A process has one
log: once it is set up, it cannot be set up again.
-/
namespace ChatGateway.Logging

inductive Style where
  | pretty
  | json
  deriving DecidableEq, Repr

namespace Style

def name : Style → String
  | pretty => "pretty"
  | json => "json"

/-- Any other format than `json` is pretty. -/
def ofFormat (format : String) : Style := if format = "json" then json else pretty

end Style

/-- The log of a process. -/
structure Log where
  filter : Filter
  style : Style
  deriving DecidableEq, Repr

/-- A filter from the environment that cannot be read is passed over. -/
def chooseFilter (environment : Option String) (settings : Settings.Logging) :
    Except Failure Filter :=
  match (environment.bind Filter.ofText?).or (Filter.ofText? settings.level) with
  | some filter => .ok filter
  | none => .error (.configuration ("Invalid log level '" ++ settings.level ++ "'"))

/-- Sets up the log, unless there is one. -/
def setUp (environment : Option String) (settings : Settings.Logging) (current : Option Log) :
    Except Failure Log := do
  let filter ← chooseFilter environment settings
  match current with
  | none => pure ⟨filter, .ofFormat settings.format⟩
  | some _ => throw (.internal "Failed to install tracing subscriber")

/-- What several attempts in a row lead to. -/
def setUpAll (environment : Option String) (settings : Settings.Logging) (current : Option Log) :
    Nat → List (Except Failure Unit) × Option Log
  | 0 => ([], current)
  | times + 1 =>
    let outcome := setUp environment settings current
    let (outcomes, log) := setUpAll environment settings (outcome.toOption.or current) times
    (outcome.map (fun _ => ()) :: outcomes, log)

end ChatGateway.Logging
