import ChatGateway.Settings.Basic
import ChatGateway.Text.Cut
import ChatGateway.Text.Digits

/-!
# The command line

Three options with a value, each given at most once, and two flags that end the program with a
text. The value of an option is attached to it or is the next argument, and is looked at when the
next option or the end of the arguments is reached. An option that is not given is taken from the
environment.
-/
namespace ChatGateway.CommandLine

inductive Opt where
  | config
  | host
  | portNumber
  deriving DecidableEq, Repr

inductive Flag where
  | help
  | version
  deriving DecidableEq, Repr

/-- What an argument names. -/
inductive Target where
  | opt (o : Opt)
  | flag (f : Flag)
  deriving DecidableEq, Repr

inductive Error where
  | shows (flag : Flag)
  | unknownArgument
  /-- A value is missing, or empty where it must not be. -/
  | missingValue
  | badNumber
  | repeated
  /-- A value is attached to a flag. -/
  | unwantedValue
  deriving DecidableEq, Repr

/-- What was given. -/
structure Arguments where
  config : Option String := none
  host : Option String := none
  portNumber : Option UInt16 := none
  deriving DecidableEq, Repr

/-- Variables by their names. -/
abbrev Environment := String → Option String

def longNames : List (String × Target) :=
  [("config", .opt .config), ("host", .opt .host), ("port", .opt .portNumber),
    ("help", .flag .help), ("version", .flag .version)]

def shortNames : List (Char × Target) :=
  [('c', .opt .config), ('p', .opt .portNumber), ('h', .flag .help), ('V', .flag .version)]

namespace Opt

/-- The options, in the order in which the environment is asked for them. -/
def all : List Opt := [config, host, portNumber]

def variableName : Opt → String
  | config => "CLAUDE2OAI_CONFIG"
  | host => "CLAUDE2OAI_HOST"
  | portNumber => "CLAUDE2OAI_PORT"

end Opt

/-- A number of 16 bits, perhaps with a sign. -/
def number? (text : String) : Option UInt16 := do
  let (negative, digits) := Text.splitSign text.toList
  let n ← Text.natural? 10 digits
  if n < 65536 ∧ (!negative ∨ n = 0) then some (UInt16.ofNat n) else none

namespace Arguments

def isGiven (a : Arguments) : Opt → Bool
  | .config => a.config.isSome
  | .host => a.host.isSome
  | .portNumber => a.portNumber.isSome

/-- Sets an option; only the host may be empty. -/
def set (a : Arguments) (o : Opt) (value : String) : Except Error Arguments :=
  if a.isGiven o then .error .repeated
  else
    match o with
    | .config => if value = "" then .error .missingValue else .ok { a with config := some value }
    | .host => .ok { a with host := some value }
    | .portNumber =>
      match number? value with
      | some n => .ok { a with portNumber := some n }
      | none => .error .badNumber

end Arguments

/-- An option whose value is awaited, or has come as an argument of its own. -/
inductive Pending where
  | none
  | awaiting (o : Opt)
  | arrived (o : Opt) (value : String)
  deriving DecidableEq, Repr

/-- What has been read. After `--` every argument would be a plain one. -/
structure State where
  given : Arguments := {}
  pending : Pending := .none
  plain : Bool := false
  deriving DecidableEq, Repr

namespace State

/-- Sets the option that is pending. -/
def settle (s : State) : Except Error Arguments :=
  match s.pending with
  | .none => .ok s.given
  | .awaiting _ => .error .missingValue
  | .arrived o value => s.given.set o value

/-- An argument that names an option or a flag, perhaps with a value attached. -/
def name (s : State) (target : Target) (attached : Option String) : Except Error State :=
  match target, attached with
  | .opt o, some value => do
    let given ← s.settle
    pure { s with given := ← given.set o value, pending := .none }
  | .opt o, none => do pure { s with given := ← s.settle, pending := .awaiting o }
  | .flag _, some _ => .error .unwantedValue
  | .flag f, none => do
    let _ ← s.settle
    throw (.shows f)

/-- A short name takes the rest of its argument as the value. -/
def short (s : State) (c : Char) (rest : List Char) : Except Error State :=
  match shortNames.lookup c with
  | none => .error .unknownArgument
  | some (.flag f) => s.name (.flag f) none
  | some (.opt o) =>
    s.name (.opt o)
      (match rest with
      | [] => none
      | '=' :: value => some (String.ofList value)
      | value => some (String.ofList value))

def long (s : State) (text : List Char) : Except Error State :=
  let (name, attached) := match Text.splitFirst '=' text with
    | some (name, value) => (name, some (String.ofList value))
    | none => (text, none)
  match longNames.lookup (String.ofList name) with
  | some target => s.name target attached
  | none => .error .unknownArgument

/-- An argument that names nothing is the value that is awaited, or too much. -/
def value (s : State) (text : List Char) : Except Error State :=
  match s.pending with
  | .awaiting o => .ok { s with pending := .arrived o (String.ofList text) }
  | _ => .error .unknownArgument

def step (s : State) (argument : String) : Except Error State :=
  if s.plain then .error .unknownArgument
  else
    match argument.toList with
    | ['-', '-'] => .ok { s with plain := true }
    | '-' :: '-' :: text => s.long text
    | '-' :: c :: rest => s.short c rest
    | text => s.value text

end State

/-- Takes an option from the environment if it was not given. -/
def fromEnvironment (env : Environment) (given : Arguments) (o : Opt) : Except Error Arguments :=
  if given.isGiven o then .ok given
  else
    match env o.variableName with
    | some value => given.set o value
    | none => .ok given

/-- Reads the arguments that follow the program's name. -/
def read (env : Environment) (arguments : List String) : Except Error Arguments := do
  let s ← arguments.foldlM State.step {}
  let given ← s.settle
  Opt.all.foldlM (fromEnvironment env) given

/-- The path below a directory. -/
def below (directory name : String) : String :=
  match directory.toList.getLast? with
  | some '/' => directory ++ name
  | _ => directory ++ "/" ++ name

/-- Where the settings are unless told otherwise. An empty home is none, and the home of the account
counts then. -/
def defaultPath (env : Environment) (accountHome : String) : String :=
  let home := ((env "HOME").filter (· ≠ "")).getD accountHome
  below (below home ".claude2oai") "config.toml"

namespace Arguments

def path (a : Arguments) (env : Environment) (accountHome : String) : String :=
  a.config.getD (defaultPath env accountHome)

/-- What was given goes before the settings. -/
def apply (a : Arguments) (settings : Settings) : Settings :=
  { settings with
    server := { settings.server with
      host := a.host.getD settings.server.host
      portNumber := a.portNumber.getD settings.server.portNumber } }

end Arguments

end ChatGateway.CommandLine
