import ChatGateway.Failure
import ChatGateway.Json.Record

/-!
# Settings

The settings of the gateway in their five sections. Every section and every key has a default; the
default of the API key comes from outside.
-/
namespace ChatGateway.Settings

open ChatGateway.Json (Decoder Record)

structure Server where
  host : String := "127.0.0.1"
  portNumber : UInt16 := 8080
  maxBodyBytes : UInt64 := 52428800
  deriving DecidableEq, Repr

namespace Server

def toJson (s : Server) : Json :=
  .object [("host", .string s.host), ("port", .ofInt s.portNumber.toNat),
    ("max_body_bytes", .ofInt s.maxBodyBytes.toNat)]

def decoder : Decoder Server :=
  let base : Server := {}
  (Record.defaulted "host" .string base.host ++ Record.defaulted "port" .u16 base.portNumber
      ++ Record.defaulted "max_body_bytes" .size base.maxBodyBytes
    |>.map fun ((host, portNumber), maxBodyBytes) =>
      { host, portNumber, maxBodyBytes }).decoder "ServerConfig"

end Server

structure Claude where
  apiBaseUrl : String := "https://api.anthropic.com/v1"
  apiKey : String := ""
  anthropicVersion : String := "2023-06-01"
  timeoutSeconds : UInt64 := 300
  connectTimeoutSeconds : UInt64 := 10
  deriving DecidableEq, Repr

namespace Claude

def toJson (s : Claude) : Json :=
  .object [("api_base_url", .string s.apiBaseUrl), ("api_key", .string s.apiKey),
    ("anthropic_version", .string s.anthropicVersion),
    ("timeout_seconds", .ofInt s.timeoutSeconds.toNat),
    ("connect_timeout_seconds", .ofInt s.connectTimeoutSeconds.toNat)]

/-- `apiKey` is the default of the key. -/
def decoder (apiKey : String) : Decoder Claude :=
  let base : Claude := { apiKey }
  (Record.defaulted "api_base_url" .string base.apiBaseUrl
      ++ Record.defaulted "api_key" .string base.apiKey
      ++ Record.defaulted "anthropic_version" .string base.anthropicVersion
      ++ Record.defaulted "timeout_seconds" .u64 base.timeoutSeconds
      ++ Record.defaulted "connect_timeout_seconds" .u64 base.connectTimeoutSeconds
    |>.map fun ((((apiBaseUrl, apiKey), anthropicVersion), timeoutSeconds),
        connectTimeoutSeconds) =>
      { apiBaseUrl, apiKey, anthropicVersion, timeoutSeconds, connectTimeoutSeconds }).decoder
    "ClaudeConfig"

end Claude

structure Streaming where
  channelCapacity : UInt64 := 64
  keepAliveSeconds : UInt64 := 15
  deriving DecidableEq, Repr

namespace Streaming

def toJson (s : Streaming) : Json :=
  .object [("channel_capacity", .ofInt s.channelCapacity.toNat),
    ("keep_alive_seconds", .ofInt s.keepAliveSeconds.toNat)]

def decoder : Decoder Streaming :=
  let base : Streaming := {}
  (Record.defaulted "channel_capacity" .size base.channelCapacity
      ++ Record.defaulted "keep_alive_seconds" .u64 base.keepAliveSeconds
    |>.map fun (channelCapacity, keepAliveSeconds) =>
      { channelCapacity, keepAliveSeconds }).decoder "StreamingConfig"

end Streaming

structure Vision where
  fetchTimeoutSeconds : UInt64 := 30
  maxImageBytes : UInt64 := 20971520
  deriving DecidableEq, Repr

namespace Vision

def toJson (s : Vision) : Json :=
  .object [("fetch_timeout_seconds", .ofInt s.fetchTimeoutSeconds.toNat),
    ("max_image_bytes", .ofInt s.maxImageBytes.toNat)]

def decoder : Decoder Vision :=
  let base : Vision := {}
  (Record.defaulted "fetch_timeout_seconds" .u64 base.fetchTimeoutSeconds
      ++ Record.defaulted "max_image_bytes" .size base.maxImageBytes
    |>.map fun (fetchTimeoutSeconds, maxImageBytes) =>
      { fetchTimeoutSeconds, maxImageBytes }).decoder "VisionConfig"

end Vision

structure Logging where
  level : String := "info"
  format : String := "pretty"
  sanitizeTokens : Bool := true
  deriving DecidableEq, Repr

namespace Logging

def toJson (s : Logging) : Json :=
  .object [("level", .string s.level), ("format", .string s.format),
    ("sanitize_tokens", .bool s.sanitizeTokens)]

def decoder : Decoder Logging :=
  let base : Logging := {}
  (Record.defaulted "level" .string base.level ++ Record.defaulted "format" .string base.format
      ++ Record.defaulted "sanitize_tokens" .bool base.sanitizeTokens
    |>.map fun ((level, format), sanitizeTokens) =>
      { level, format, sanitizeTokens }).decoder "LoggingConfig"

end Logging

end ChatGateway.Settings

namespace ChatGateway

open ChatGateway.Json (Decoder Record)

structure Settings where
  server : Settings.Server := {}
  claude : Settings.Claude := {}
  streaming : Settings.Streaming := {}
  vision : Settings.Vision := {}
  logging : Settings.Logging := {}
  deriving DecidableEq, Repr

namespace Settings

/-- The settings when nothing is set but the key. -/
def base (apiKey : String) : Settings := { claude := { apiKey } }

def toJson (s : Settings) : Json :=
  .object [("server", s.server.toJson), ("claude", s.claude.toJson),
    ("streaming", s.streaming.toJson), ("vision", s.vision.toJson),
    ("logging", s.logging.toJson)]

def decoder (apiKey : String) : Decoder Settings :=
  (Record.defaulted "server" Server.decoder {}
      ++ Record.defaulted "claude" (Claude.decoder apiKey) { apiKey }
      ++ Record.defaulted "streaming" Streaming.decoder {}
      ++ Record.defaulted "vision" Vision.decoder {}
      ++ Record.defaulted "logging" Logging.decoder {}
    |>.map fun ((((server, claude), streaming), vision), logging) =>
      { server, claude, streaming, vision, logging }).decoder "AppConfig"

/-- Refuses settings the gateway cannot run with. -/
def validate (s : Settings) : Except Failure Unit :=
  if s.streaming.channelCapacity = 0 then
    .error (.configuration "streaming.channel_capacity must be at least 1")
  else if s.claude.apiBaseUrl = "" then
    .error (.configuration "claude.api_base_url must not be empty")
  else .ok ()

end Settings

end ChatGateway
