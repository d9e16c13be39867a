import ChatGateway.Proofs.Json.Containers
import ChatGateway.Proofs.Json.Integers
import ChatGateway.Settings.Basic

/-!
Settings are read back from their text. Every section and every key is written, so no default takes
part, not even the one that comes from outside.
-/
namespace ChatGateway.Settings

open Json (Reading Source)
open Json.Record (reads_defaulted)
open Json.Decoder (bool_ok size_ofInt string_ok u16_ofInt u64_ofInt)

variable {source : Source}

theorem Server.decode_toJson (deep : source.Allows 1) (server : Server) :
    decoder source (Reading.ofJson server.toJson) = .ok server := by
  obtain ⟨inner, enters, _⟩ := Source.enter_of_allows deep
  have host := reads_defaulted "host" (string_ok inner server.host)
  have number := reads_defaulted "port" (u16_ofInt inner server.portNumber)
  have bytes := reads_defaulted "max_body_bytes" (size_ofInt inner server.maxBodyBytes)
  exact ((((host _).pair (number _) (by simp)).pair (bytes _) (by simp)).map _).decoder enters
    "ServerConfig"

theorem Claude.decode_toJson (deep : source.Allows 1) (apiKey : String) (claude : Claude) :
    decoder apiKey source (Reading.ofJson claude.toJson) = .ok claude := by
  obtain ⟨inner, enters, _⟩ := Source.enter_of_allows deep
  have url := reads_defaulted "api_base_url" (string_ok inner claude.apiBaseUrl)
  have key := reads_defaulted "api_key" (string_ok inner claude.apiKey)
  have version := reads_defaulted "anthropic_version" (string_ok inner claude.anthropicVersion)
  have wait := reads_defaulted "timeout_seconds" (u64_ofInt inner claude.timeoutSeconds)
  have connect := reads_defaulted "connect_timeout_seconds"
    (u64_ofInt inner claude.connectTimeoutSeconds)
  exact ((((((url _).pair (key _) (by simp)).pair (version _) (by simp)).pair (wait _)
    (by simp)).pair (connect _) (by simp)).map _).decoder enters "ClaudeConfig"

theorem Streaming.decode_toJson (deep : source.Allows 1) (streaming : Streaming) :
    decoder source (Reading.ofJson streaming.toJson) = .ok streaming := by
  obtain ⟨inner, enters, _⟩ := Source.enter_of_allows deep
  have capacity := reads_defaulted "channel_capacity" (size_ofInt inner streaming.channelCapacity)
  have alive := reads_defaulted "keep_alive_seconds" (u64_ofInt inner streaming.keepAliveSeconds)
  exact (((capacity _).pair (alive _) (by simp)).map _).decoder enters "StreamingConfig"

theorem Vision.decode_toJson (deep : source.Allows 1) (vision : Vision) :
    decoder source (Reading.ofJson vision.toJson) = .ok vision := by
  obtain ⟨inner, enters, _⟩ := Source.enter_of_allows deep
  have wait := reads_defaulted "fetch_timeout_seconds" (u64_ofInt inner vision.fetchTimeoutSeconds)
  have bytes := reads_defaulted "max_image_bytes" (size_ofInt inner vision.maxImageBytes)
  exact (((wait _).pair (bytes _) (by simp)).map _).decoder enters "VisionConfig"

theorem Logging.decode_toJson (deep : source.Allows 1) (logging : Logging) :
    decoder source (Reading.ofJson logging.toJson) = .ok logging := by
  obtain ⟨inner, enters, _⟩ := Source.enter_of_allows deep
  have level := reads_defaulted "level" (string_ok inner logging.level)
  have format := reads_defaulted "format" (string_ok inner logging.format)
  have sanitize := reads_defaulted "sanitize_tokens" (bool_ok inner logging.sanitizeTokens)
  exact ((((level _).pair (format _) (by simp)).pair (sanitize _) (by simp)).map _).decoder enters
    "LoggingConfig"

theorem decode_toJson (deep : source.Allows 2) (apiKey : String) (settings : Settings) :
    decoder apiKey source (Reading.ofJson settings.toJson) = .ok settings := by
  obtain ⟨inner, enters, deeper⟩ := Source.enter_of_allows deep
  have server := reads_defaulted "server" (settings.server.decode_toJson deeper)
  have claude := reads_defaulted "claude" (settings.claude.decode_toJson deeper apiKey)
  have streaming := reads_defaulted "streaming" (settings.streaming.decode_toJson deeper)
  have vision := reads_defaulted "vision" (settings.vision.decode_toJson deeper)
  have logging := reads_defaulted "logging" (settings.logging.decode_toJson deeper)
  exact ((((((server _).pair (claude _) (by simp)).pair (streaming _) (by simp)).pair (vision _)
    (by simp)).pair (logging _) (by simp)).map _).decoder enters "AppConfig"

theorem isRegular_toJson (settings : Settings) : settings.toJson.isRegular = true := by
  simp [toJson, Server.toJson, Claude.toJson, Streaming.toJson, Vision.toJson, Logging.toJson,
    Json.isRegular, Json.membersRegular, Json.ofInt, Number.Numeral.isJson_ofInt]

/-- The text of the settings says these settings, whatever the default of the key is. -/
theorem decodeText_toJson (apiKey : String) (settings : Settings) :
    Json.decodeText (decoder apiKey) settings.toJson.text = .ok settings :=
  Json.decodeText_text settings.isRegular_toJson (by decide)
    fun _ deep => settings.decode_toJson deep apiKey

end ChatGateway.Settings
