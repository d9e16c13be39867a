import ChatGateway.Proofs.Settings.Layers
import Mathlib.Tactic.Choose

/-!
The keys of the settings. A key has a place in the settings and in a document, a variable of its
own, a kind of values and a default. `ofValue_keys` says that settings are read from a table of
sections key by key.
-/
namespace ChatGateway.Settings

/-- What values a key takes. -/
inductive Kind where
  | text
  | short
  | word
  | flag
  deriving DecidableEq, Repr

namespace Kind

abbrev type : Kind → Type
  | text => String
  | short => UInt16
  | word => UInt64
  | flag => Bool

def convert : (kind : Kind) → Value → Option kind.type
  | text, value => value.toText?
  | short, value => (value.toNatural? 65535).map UInt16.ofNat
  | word, value => (value.toNatural? Value.greatest).map UInt64.ofNat
  | flag, value => value.toBool?

/-- A table is never converted. -/
theorem leaf_of_convert {kind : Kind} {value : Value} (converts : (kind.convert value).isSome) :
    value.IsLeaf := by
  rintro ms rfl
  cases kind <;> cases converts

end Kind

inductive Key where
  | host
  | portNumber
  | maxBodyBytes
  | apiBaseUrl
  | apiKey
  | anthropicVersion
  | timeoutSeconds
  | connectTimeoutSeconds
  | channelCapacity
  | keepAliveSeconds
  | fetchTimeoutSeconds
  | maxImageBytes
  | level
  | format
  | sanitizeTokens
  deriving DecidableEq, Repr

namespace Key

/-- The section that the key belongs to. -/
def group : Key → String
  | host | portNumber | maxBodyBytes => "server"
  | apiBaseUrl | apiKey | anthropicVersion | timeoutSeconds | connectTimeoutSeconds => "claude"
  | channelCapacity | keepAliveSeconds => "streaming"
  | fetchTimeoutSeconds | maxImageBytes => "vision"
  | level | format | sanitizeTokens => "logging"

def name : Key → String
  | host => "host"
  | portNumber => "port"
  | maxBodyBytes => "max_body_bytes"
  | apiBaseUrl => "api_base_url"
  | apiKey => "api_key"
  | anthropicVersion => "anthropic_version"
  | timeoutSeconds => "timeout_seconds"
  | connectTimeoutSeconds => "connect_timeout_seconds"
  | channelCapacity => "channel_capacity"
  | keepAliveSeconds => "keep_alive_seconds"
  | fetchTimeoutSeconds => "fetch_timeout_seconds"
  | maxImageBytes => "max_image_bytes"
  | level => "level"
  | format => "format"
  | sanitizeTokens => "sanitize_tokens"

/-- The variable that sets the key. -/
def variableName : Key → String
  | host => "CLAUDE2OAI_SERVER__HOST"
  | portNumber => "CLAUDE2OAI_SERVER__PORT"
  | maxBodyBytes => "CLAUDE2OAI_SERVER__MAX_BODY_BYTES"
  | apiBaseUrl => "CLAUDE2OAI_CLAUDE__API_BASE_URL"
  | apiKey => "CLAUDE2OAI_CLAUDE__API_KEY"
  | anthropicVersion => "CLAUDE2OAI_CLAUDE__ANTHROPIC_VERSION"
  | timeoutSeconds => "CLAUDE2OAI_CLAUDE__TIMEOUT_SECONDS"
  | connectTimeoutSeconds => "CLAUDE2OAI_CLAUDE__CONNECT_TIMEOUT_SECONDS"
  | channelCapacity => "CLAUDE2OAI_STREAMING__CHANNEL_CAPACITY"
  | keepAliveSeconds => "CLAUDE2OAI_STREAMING__KEEP_ALIVE_SECONDS"
  | fetchTimeoutSeconds => "CLAUDE2OAI_VISION__FETCH_TIMEOUT_SECONDS"
  | maxImageBytes => "CLAUDE2OAI_VISION__MAX_IMAGE_BYTES"
  | level => "CLAUDE2OAI_LOGGING__LEVEL"
  | format => "CLAUDE2OAI_LOGGING__FORMAT"
  | sanitizeTokens => "CLAUDE2OAI_LOGGING__SANITIZE_TOKENS"

def kind : Key → Kind
  | host | apiBaseUrl | apiKey | anthropicVersion | level | format => .text
  | portNumber => .short
  | maxBodyBytes | timeoutSeconds | connectTimeoutSeconds | channelCapacity | keepAliveSeconds
  | fetchTimeoutSeconds | maxImageBytes => .word
  | sanitizeTokens => .flag

/-- What the settings have for the key. -/
def get (s : Settings) : (key : Key) → key.kind.type
  | host => s.server.host
  | portNumber => s.server.portNumber
  | maxBodyBytes => s.server.maxBodyBytes
  | apiBaseUrl => s.claude.apiBaseUrl
  | apiKey => s.claude.apiKey
  | anthropicVersion => s.claude.anthropicVersion
  | timeoutSeconds => s.claude.timeoutSeconds
  | connectTimeoutSeconds => s.claude.connectTimeoutSeconds
  | channelCapacity => s.streaming.channelCapacity
  | keepAliveSeconds => s.streaming.keepAliveSeconds
  | fetchTimeoutSeconds => s.vision.fetchTimeoutSeconds
  | maxImageBytes => s.vision.maxImageBytes
  | level => s.logging.level
  | format => s.logging.format
  | sanitizeTokens => s.logging.sanitizeTokens

/-- The default, where `apiKey` is the one of the API key. -/
def absent (ownKey : String) : (key : Key) → key.kind.type
  | host => "127.0.0.1"
  | portNumber => (8080 : UInt16)
  | maxBodyBytes => (52428800 : UInt64)
  | apiBaseUrl => "https://api.anthropic.com/v1"
  | apiKey => ownKey
  | anthropicVersion => "2023-06-01"
  | timeoutSeconds => (300 : UInt64)
  | connectTimeoutSeconds => (10 : UInt64)
  | channelCapacity => (64 : UInt64)
  | keepAliveSeconds => (15 : UInt64)
  | fetchTimeoutSeconds => (30 : UInt64)
  | maxImageBytes => (20971520 : UInt64)
  | level => "info"
  | format => "pretty"
  | sanitizeTokens => true

theorem get_base (ownKey : String) (key : Key) : key.get (base ownKey) = key.absent ownKey := by
  cases key <;> rfl

theorem group_known (key : Key) : key.group ∈ groups := by cases key <;> decide

theorem lower_group (key : Key) : Text.lower key.group = key.group := by cases key <;> rfl

theorem lower_name (key : Key) : Text.lower key.name = key.name := by cases key <;> rfl

theorem path_of_variable (key : Key) :
    (keyOfVariable? key.variableName).map pathOf = some [.key key.group, .key key.name] := by
  cases key <;> decide +kernel

/-- A key is told by its section and its name, and by its variable. -/
theorem eq_of_place {key other : Key} (group : key.group = other.group) (name : key.name = other.name) :
    key = other := by
  cases key <;> cases other <;> first | rfl | (exact absurd name (by decide))

theorem eq_of_variable {key other : Key} (same : key.variableName = other.variableName) :
    key = other := by
  have left := key.path_of_variable
  rw [same, other.path_of_variable] at left
  simp only [Option.some.injEq, List.cons.injEq, PathStep.key.injEq, and_true] at left
  exact eq_of_place left.1.symm left.2.symm

end Key

/-! ## Tables of sections -/

/-- What stands under the key. -/
def Value.atKey? (root : Value) (key : Key) : Option Value := root.at? key.group key.name

theorem word_integer (n : UInt64) : Kind.word.convert (.integer n.toNat) = some n := by
  have size : UInt64.size = 18446744073709551616 := rfl
  have small := n.toNat_lt
  have fits : n.toNat ≤ Value.greatest := by
    rw [Value.greatest]
    omega
  simp [Kind.convert, Value.toNatural?, Option.filter, fits]

theorem short_integer (n : UInt16) : Kind.short.convert (.integer n.toNat) = some n := by
  have small := n.toNat_lt
  have fits : n.toNat ≤ 65535 := by omega
  simp [Kind.convert, Value.toNatural?, Option.filter, fits]

/-- Settings as a table say of every key what they are. -/
theorem toValue_atKey (s : Settings) (key : Key) :
    ∃ value, s.toValue.atKey? key = some value ∧ key.kind.convert value = some (key.get s) := by
  cases key with
  | host | apiBaseUrl | apiKey | anthropicVersion | level | format | sanitizeTokens =>
    exact ⟨_, rfl, rfl⟩
  | portNumber => exact ⟨_, rfl, short_integer _⟩
  | maxBodyBytes | timeoutSeconds | connectTimeoutSeconds | channelCapacity | keepAliveSeconds
  | fetchTimeoutSeconds | maxImageBytes => exact ⟨_, rfl, word_integer _⟩

theorem sectioned_toValue (s : Settings) : s.toValue.Sectioned := by
  intro group known
  simp only [groups, List.mem_cons, List.not_mem_nil, or_false] at known
  rcases known with rfl | rfl | rfl | rfl | rfl <;> exact ⟨_, rfl⟩

/-- A section whose keys are looked up in a table. -/
def Source.ofTable (label : String) (ms : List (String × Value)) : Source :=
  ⟨fun name _ => (ms.lookup name).map fun value => (label ++ "." ++ name, value)⟩

theorem Source.setting_ofTable {α : Type} {label name : String} {ms : List (String × Value)}
    {place : Nat} {convert : Value → Option α} {value : Value} {x absent : α}
    (found : ms.lookup name = some value) (converts : convert value = some x) :
    (ofTable label ms).setting name place convert absent = .ok x := by
  simp [setting, ofTable, found, converts]

theorem ok_bind {α β : Type} {step : Except LoadError α} {next : α → Except LoadError β} {x : α}
    {result : Except LoadError β} (done : step = .ok x) (more : next x = result) :
    (step >>= next) = result := by
  rw [done]
  exact more

/-- The settings that have these values for their keys. -/
def ofKeys (x : (key : Key) → key.kind.type) : Settings where
  server := ⟨x .host, x .portNumber, x .maxBodyBytes⟩
  claude := ⟨x .apiBaseUrl, x .apiKey, x .anthropicVersion, x .timeoutSeconds,
    x .connectTimeoutSeconds⟩
  streaming := ⟨x .channelCapacity, x .keepAliveSeconds⟩
  vision := ⟨x .fetchTimeoutSeconds, x .maxImageBytes⟩
  logging := ⟨x .level, x .format, x .sanitizeTokens⟩

theorem Key.get_ofKeys (x : (key : Key) → key.kind.type) (key : Key) : key.get (ofKeys x) = x key := by
  cases key <;> rfl

/-- The section of a key is a table that has the key's value. -/
theorem setting_atKey {root : Value} {key : Key} {x : key.kind.type} {ms : List (String × Value)}
    (given : ∃ value, root.atKey? key = some value ∧ key.kind.convert value = some x)
    (there : root.members.lookup key.group = some (.table ms)) (place : Nat)
    (absent : key.kind.type) :
    (Source.ofTable key.group ms).setting key.name place key.kind.convert absent = .ok x := by
  obtain ⟨value, own, converts⟩ := given
  rw [Value.atKey?, Value.at?, there] at own
  exact Source.setting_ofTable own converts

/-- Sections that hold every key's value are read as the settings that have these values. -/
theorem ofValue_ofKeys {root : Value} {x : (key : Key) → key.kind.type}
    (sectioned : root.Sectioned)
    (given : ∀ key : Key, ∃ value, root.atKey? key = some value ∧
      key.kind.convert value = some (x key)) (base : Settings) :
    ofValue base root = .ok (ofKeys x) := by
  obtain ⟨server, atServer⟩ := sectioned "server" (by decide)
  obtain ⟨claude, atClaude⟩ := sectioned "claude" (by decide)
  obtain ⟨streaming, atStreaming⟩ := sectioned "streaming" (by decide)
  obtain ⟨vision, atVision⟩ := sectioned "vision" (by decide)
  obtain ⟨logging, atLogging⟩ := sectioned "logging" (by decide)
  have reads (key : Key) {ms : List (String × Value)}
      (there : root.members.lookup key.group = some (.table ms)) (place : Nat)
      (absent : key.kind.type) := setting_atKey (given key) there place absent
  have server' : base.server.ofSource (.ofTable "server" server) = .ok (ofKeys x).server :=
    ok_bind (reads .host atServer 0 _) (ok_bind (reads .portNumber atServer 1 _)
      (ok_bind (reads .maxBodyBytes atServer 2 _) rfl))
  have claude' : base.claude.ofSource (.ofTable "claude" claude) = .ok (ofKeys x).claude :=
    ok_bind (reads .apiBaseUrl atClaude 0 _) (ok_bind (reads .apiKey atClaude 1 _)
      (ok_bind (reads .anthropicVersion atClaude 2 _) (ok_bind (reads .timeoutSeconds atClaude 3 _)
        (ok_bind (reads .connectTimeoutSeconds atClaude 4 _) rfl))))
  have streaming' :
      base.streaming.ofSource (.ofTable "streaming" streaming) = .ok (ofKeys x).streaming :=
    ok_bind (reads .channelCapacity atStreaming 0 _)
      (ok_bind (reads .keepAliveSeconds atStreaming 1 _) rfl)
  have vision' : base.vision.ofSource (.ofTable "vision" vision) = .ok (ofKeys x).vision :=
    ok_bind (reads .fetchTimeoutSeconds atVision 0 _)
      (ok_bind (reads .maxImageBytes atVision 1 _) rfl)
  have logging' : base.logging.ofSource (.ofTable "logging" logging) = .ok (ofKeys x).logging :=
    ok_bind (reads .level atLogging 0 _) (ok_bind (reads .format atLogging 1 _)
      (ok_bind (reads .sanitizeTokens atLogging 2 _) rfl))
  simp only [ofValue, atServer, atClaude, atStreaming, atVision, atLogging]
  exact ok_bind rfl (ok_bind server' (ok_bind rfl (ok_bind claude' (ok_bind rfl
    (ok_bind streaming' (ok_bind rfl (ok_bind vision' (ok_bind rfl (ok_bind logging' rfl)))))))))

/-- Settings are read key by key from a table that has every key and what can be converted there. -/
theorem ofValue_keys {root : Value} (sectioned : root.Sectioned)
    (given : ∀ key : Key, ∃ value, root.atKey? key = some value ∧ (key.kind.convert value).isSome)
    (base : Settings) :
    ∃ settings, ofValue base root = .ok settings ∧ ∀ (key : Key) value,
      root.atKey? key = some value → key.kind.convert value = some (key.get settings) := by
  simp only [Option.isSome_iff_exists] at given
  choose value there x converts using given
  refine ⟨ofKeys x, ofValue_ofKeys sectioned (fun key => ⟨_, there key, converts key⟩) base,
    fun key own found => ?_⟩
  rw [there key] at found
  cases found
  rw [Key.get_ofKeys, converts]

end ChatGateway.Settings
