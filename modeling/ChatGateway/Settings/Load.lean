import ChatGateway.Settings.Basic
import ChatGateway.Settings.Toml.Document
import ChatGateway.Text.Cut

/-!
# Loading settings

The environment goes before the file, and the file before the defaults. A value that cannot be
converted is reported with its key.
-/
namespace ChatGateway.Settings

/-- Why settings cannot be loaded. -/
inductive LoadError where
  /-- The file is no document, or a section is of the wrong kind. -/
  | unreadable
  | conversion (key : String)
  deriving DecidableEq, Repr

namespace LoadError

/-- What exactly is wrong is not told; a placeholder stands for it. -/
def message : LoadError → String
  | unreadable => "<detail>"
  | conversion key => "<detail> for key " ++ Json.Error.ticked key

end LoadError

/-- A section: where its keys are looked up. -/
structure Source where
  fields : String → Nat → Option (String × Value)

namespace Source

/-- A table is asked by name, a list by place. -/
def ofValue (label : String) : Option Value → Except LoadError Source
  | none => .ok ⟨fun _ _ => none⟩
  | some (.table ms) =>
    .ok ⟨fun name _ => (ms.lookup name).map fun value => (label ++ "." ++ name, value)⟩
  | some (.list vs) => .ok ⟨fun _ place => vs[place]?.map fun value =>
      (label ++ "[" ++ toString place ++ "]", value)⟩
  | some _ => .error .unreadable

/-- A setting by its name and place, or its default. -/
def setting {α : Type} (s : Source) (name : String) (place : Nat) (convert : Value → Option α)
    (absent : α) : Except LoadError α :=
  match s.fields name place with
  | none => .ok absent
  | some (key, value) =>
    match convert value with
    | some a => .ok a
    | none => .error (.conversion key)

def text (s : Source) (name : String) (place : Nat) (absent : String) : Except LoadError String :=
  s.setting name place Value.toText? absent

def word (s : Source) (name : String) (place : Nat) (absent : UInt64) : Except LoadError UInt64 :=
  s.setting name place (fun v => (v.toNatural? Value.greatest).map UInt64.ofNat) absent

def short (s : Source) (name : String) (place : Nat) (absent : UInt16) : Except LoadError UInt16 :=
  s.setting name place (fun v => (v.toNatural? 65535).map UInt16.ofNat) absent

def flag (s : Source) (name : String) (place : Nat) (absent : Bool) : Except LoadError Bool :=
  s.setting name place Value.toBool? absent

end Source

/-! ## The first layer

Every key has its default there, so that an empty table, which sets nothing, leaves it as it is. A
list in place of a section hides the defaults; what the list does not reach is then filled in. -/

def Server.toValue (s : Server) : Value :=
  .table [("host", .text s.host), ("port", .integer s.portNumber.toNat),
    ("max_body_bytes", .integer s.maxBodyBytes.toNat)]

def Claude.toValue (s : Claude) : Value :=
  .table [("api_base_url", .text s.apiBaseUrl), ("api_key", .text s.apiKey),
    ("anthropic_version", .text s.anthropicVersion),
    ("timeout_seconds", .integer s.timeoutSeconds.toNat),
    ("connect_timeout_seconds", .integer s.connectTimeoutSeconds.toNat)]

def Streaming.toValue (s : Streaming) : Value :=
  .table [("channel_capacity", .integer s.channelCapacity.toNat),
    ("keep_alive_seconds", .integer s.keepAliveSeconds.toNat)]

def Vision.toValue (s : Vision) : Value :=
  .table [("fetch_timeout_seconds", .integer s.fetchTimeoutSeconds.toNat),
    ("max_image_bytes", .integer s.maxImageBytes.toNat)]

def Logging.toValue (s : Logging) : Value :=
  .table [("level", .text s.level), ("format", .text s.format),
    ("sanitize_tokens", .boolean s.sanitizeTokens)]

/-- The settings as a table of sections. -/
def toValue (s : Settings) : Value :=
  .table [("server", s.server.toValue), ("claude", s.claude.toValue),
    ("streaming", s.streaming.toValue), ("vision", s.vision.toValue),
    ("logging", s.logging.toValue)]

/-! ## The sections -/

def Server.ofSource (base : Server) (s : Source) : Except LoadError Server := do
  let host ← s.text "host" 0 base.host
  let portNumber ← s.short "port" 1 base.portNumber
  let maxBodyBytes ← s.word "max_body_bytes" 2 base.maxBodyBytes
  pure { host, portNumber, maxBodyBytes }

def Claude.ofSource (base : Claude) (s : Source) : Except LoadError Claude := do
  let apiBaseUrl ← s.text "api_base_url" 0 base.apiBaseUrl
  let apiKey ← s.text "api_key" 1 base.apiKey
  let anthropicVersion ← s.text "anthropic_version" 2 base.anthropicVersion
  let timeoutSeconds ← s.word "timeout_seconds" 3 base.timeoutSeconds
  let connectTimeoutSeconds ← s.word "connect_timeout_seconds" 4 base.connectTimeoutSeconds
  pure { apiBaseUrl, apiKey, anthropicVersion, timeoutSeconds, connectTimeoutSeconds }

def Streaming.ofSource (base : Streaming) (s : Source) : Except LoadError Streaming := do
  let channelCapacity ← s.word "channel_capacity" 0 base.channelCapacity
  let keepAliveSeconds ← s.word "keep_alive_seconds" 1 base.keepAliveSeconds
  pure { channelCapacity, keepAliveSeconds }

def Vision.ofSource (base : Vision) (s : Source) : Except LoadError Vision := do
  let fetchTimeoutSeconds ← s.word "fetch_timeout_seconds" 0 base.fetchTimeoutSeconds
  let maxImageBytes ← s.word "max_image_bytes" 1 base.maxImageBytes
  pure { fetchTimeoutSeconds, maxImageBytes }

def Logging.ofSource (base : Logging) (s : Source) : Except LoadError Logging := do
  let level ← s.text "level" 0 base.level
  let format ← s.text "format" 1 base.format
  let sanitizeTokens ← s.flag "sanitize_tokens" 2 base.sanitizeTokens
  pure { level, format, sanitizeTokens }

/-- The settings in a table of sections. -/
def ofValue (base : Settings) (root : Value) : Except LoadError Settings := do
  let source (name : String) : Except LoadError Source :=
    Source.ofValue name (root.members.lookup name)
  let server ← base.server.ofSource (← source "server")
  let claude ← base.claude.ofSource (← source "claude")
  let streaming ← base.streaming.ofSource (← source "streaming")
  let vision ← base.vision.ofSource (← source "vision")
  let logging ← base.logging.ofSource (← source "logging")
  pure { server, claude, streaming, vision, logging }

/-- Variables with their values. -/
abbrev Variables := List (String × String)

def variableLead : String := "claude2oai_"

/-- Two underscores part the names in the key of a variable. -/
def pointed : List Char → List Char
  | '_' :: '_' :: rest => '.' :: pointed rest
  | c :: rest => c :: pointed rest
  | [] => []

/-- The key that a variable sets, whatever the case of its name. -/
def keyOfVariable? (name : String) : Option String :=
  (Text.afterLead variableLead (Text.lower name).toList).map fun rest =>
    String.ofList (pointed rest)

/-- Sets what a variable sets. -/
def addVariable (root : Value) (entry : String × String) : Value :=
  match keyOfVariable? entry.1 with
  | some key => Value.setAt (.text entry.2) (pathOf key) root
  | none => root

/-- A file may begin with a mark of the byte order, which is no part of the document in it. -/
def documentOf (file : String) : String :=
  match file.toList with
  | '\uFEFF' :: document => String.ofList document
  | _ => file

/-- Sets what a file sets. -/
def addFile (root : Value) (file : Option String) : Except LoadError Value :=
  match file with
  | none => .ok root
  | some text =>
    match Toml.ofText? (documentOf text) with
    | some ms => .ok (ms.foldl (fun root (key, value) => Value.setAt value (pathOf key) root) root)
    | none => .error .unreadable

/-- The defaults; the API key has a variable of its own. -/
def defaults (vars : Variables) : Settings :=
  base ((vars.lookup "ANTHROPIC_API_KEY").getD "")

/-- Reads the settings, without looking at whether they make sense. -/
def read (vars : Variables) (file : Option String) : Except LoadError Settings := do
  let root ← addFile (defaults vars).toValue file
  ofValue (defaults vars) (vars.foldl addVariable root)

/-- Loads settings from a file, if there is one, and the environment. -/
def load (vars : Variables) (file : Option String) : Except Failure Settings := do
  let settings ← (read vars file).mapError fun error => .configuration error.message
  settings.validate
  pure settings

end ChatGateway.Settings
