import ChatGateway.Chat.Completion
import ChatGateway.Proofs.Json.Containers
import ChatGateway.Proofs.Json.Integers

/-!
What a client receives is read back. The text of a completion is decoded to the same completion,
that of a chunk to the same chunk and that of an error envelope to the same report, for all strings
and all numbers.
-/
namespace ChatGateway.Chat

open Json (Reading Source)
open Json.Record (foreign_omittable reads_field reads_nullable)
open Json.Decoder (i64_ofInt list_ofJson option_nullable option_some option_string string_ok
  u32_ofInt)

variable {source : Source}

theorem FinishReason.decode_toJson (source : Source) (reason : FinishReason) :
    decoder.option source (Reading.ofJson reason.toJson) = .ok (some reason) := by
  cases reason <;> rfl

theorem Usage.decode_toJson (deep : source.Allows 1) (usage : Usage) :
    decoder source (Reading.ofJson usage.toJson) = .ok usage := by
  obtain ⟨inner, enters, _⟩ := Source.enter_of_allows deep
  have prompt := reads_field "prompt_tokens" (u32_ofInt inner usage.promptTokens)
  have completion := reads_field "completion_tokens" (u32_ofInt inner usage.completionTokens)
  have total := reads_field "total_tokens" (u32_ofInt inner usage.totalTokens)
  exact (((prompt.pair completion (by simp)).pair total (by simp)).map _).decoder enters "Usage"

theorem ResponseMessage.decode_toJson (deep : source.Allows 1) (message : ResponseMessage) :
    decoder source (Reading.ofJson message.toJson) = .ok message := by
  obtain ⟨inner, enters, _⟩ := Source.enter_of_allows deep
  have role := reads_field "role" (string_ok inner message.role)
  have content := reads_field "content" (string_ok inner message.content)
  exact ((role.pair content (by simp)).map _).decoder enters "ResponseMessage"

theorem Choice.decode_toJson (deep : source.Allows 2) (choice : Choice) :
    decoder source (Reading.ofJson choice.toJson) = .ok choice := by
  obtain ⟨inner, enters, deeper⟩ := Source.enter_of_allows deep
  have index := reads_field "index" (u32_ofInt inner choice.index)
  have message := reads_field "message" (choice.message.decode_toJson deeper)
  have reason := reads_field "finish_reason"
    (option_nullable (FinishReason.decode_toJson inner) choice.finishReason) (some none)
  exact (((index.pair message (by simp)).pair reason (by simp)).map _).decoder enters
    "ChatCompletionChoice"

theorem Completion.decode_toJson (deep : source.Allows 4) (completion : Completion) :
    decoder source (Reading.ofJson completion.toJson) = .ok completion := by
  obtain ⟨inner, enters, deeper⟩ := Source.enter_of_allows deep
  obtain ⟨inmost, entersList, room⟩ := Source.enter_of_allows deeper
  have choices := list_ofJson entersList completion.choices
    fun choice _ => choice.decode_toJson room
  have id := reads_field "id" (string_ok inner completion.id)
  have kind := reads_field "object" (string_ok inner completion.kind)
  have created := reads_field "created" (i64_ofInt inner completion.created)
  have model := reads_field "model" (string_ok inner completion.model)
  have listed := reads_field "choices" choices
  have usage := reads_nullable "usage" (fun usage => option_some (by simp [Usage.toJson, Reading.ofJson])
    (Usage.decode_toJson (deeper.mono (by decide)) usage)) completion.usage
  have all := ((((id.pair kind (by simp)).pair created (by simp)).pair model (by simp)).pair listed
    (by simp)).pair usage (foreign_omittable (by simp) _)
  rw [toJson, Reading.ofJson, Reading.ofMembers_append]
  exact (all.map _).decoder enters "ChatCompletionResponse"

theorem Choice.isRegular_toJson (choice : Choice) : choice.toJson.isRegular = true := by
  have reason := Json.isRegular_nullable FinishReason.toJson (fun _ => rfl) choice.finishReason
  simp [toJson, ResponseMessage.toJson, Json.isRegular, Json.membersRegular, Json.ofInt,
    Number.Numeral.isJson_ofInt, reason]

theorem Completion.isRegular_toJson (completion : Completion) :
    completion.toJson.isRegular = true := by
  have choices := Json.itemsRegular_map Choice.isRegular_toJson completion.choices
  have counted (usage : Usage) : usage.toJson.isRegular = true := by
    simp [Usage.toJson, Json.isRegular, Json.membersRegular, Json.ofInt,
      Number.Numeral.isJson_ofInt]
  have usage := Json.membersRegular_optional "usage" Usage.toJson counted completion.usage
  simp [toJson, Json.isRegular, Json.membersRegular, Json.ofInt, Number.Numeral.isJson_ofInt,
    choices, usage]

/-- The text of a completion says this completion and no other. -/
theorem Completion.decodeText_toJson (completion : Completion) :
    Json.decodeText decoder completion.toJson.text = .ok completion :=
  Json.decodeText_text completion.isRegular_toJson (by decide)
    fun _ deep => completion.decode_toJson deep

theorem Delta.decode_toJson (deep : source.Allows 1) (delta : Delta) :
    decoder source (Reading.ofJson delta.toJson) = .ok delta := by
  obtain ⟨inner, enters, _⟩ := Source.enter_of_allows deep
  have role := reads_nullable "role" (option_string inner) delta.role
  have content := reads_nullable "content" (option_string inner) delta.content
  have both := role.pair content (foreign_omittable (by simp) _)
  rw [toJson, Reading.ofJson, Reading.ofMembers_append]
  exact (both.map _).decoder enters "ChunkDelta"

theorem ChunkChoice.decode_toJson (deep : source.Allows 2) (choice : ChunkChoice) :
    decoder source (Reading.ofJson choice.toJson) = .ok choice := by
  obtain ⟨inner, enters, deeper⟩ := Source.enter_of_allows deep
  have index := reads_field "index" (u32_ofInt inner choice.index)
  have delta := reads_field "delta" (choice.delta.decode_toJson deeper)
  have reason := reads_field "finish_reason"
    (option_nullable (FinishReason.decode_toJson inner) choice.finishReason) (some none)
  exact (((index.pair delta (by simp)).pair reason (by simp)).map _).decoder enters "ChunkChoice"

theorem Chunk.decode_toJson (deep : source.Allows 4) (chunk : Chunk) :
    decoder source (Reading.ofJson chunk.toJson) = .ok chunk := by
  obtain ⟨inner, enters, deeper⟩ := Source.enter_of_allows deep
  obtain ⟨inmost, entersList, room⟩ := Source.enter_of_allows deeper
  have choices := list_ofJson entersList chunk.choices
    fun choice _ => choice.decode_toJson room
  have id := reads_field "id" (string_ok inner chunk.id)
  have kind := reads_field "object" (string_ok inner chunk.kind)
  have created := reads_field "created" (i64_ofInt inner chunk.created)
  have model := reads_field "model" (string_ok inner chunk.model)
  have listed := reads_field "choices" choices
  exact (((((id.pair kind (by simp)).pair created (by simp)).pair model (by simp)).pair listed
    (by simp)).map _).decoder enters "ChatCompletionChunk"

theorem ChunkChoice.isRegular_toJson (choice : ChunkChoice) : choice.toJson.isRegular = true := by
  have role := Json.membersRegular_optional "role" .string (fun _ => rfl)
    choice.delta.role
  have content := Json.membersRegular_optional "content" .string (fun _ => rfl)
    choice.delta.content
  have reason := Json.isRegular_nullable FinishReason.toJson (fun _ => rfl)
    choice.finishReason
  simp [toJson, Delta.toJson, Json.isRegular, Json.membersRegular, Json.membersRegular_append,
    Json.ofInt, Number.Numeral.isJson_ofInt, role, content, reason]

theorem Chunk.isRegular_toJson (chunk : Chunk) : chunk.toJson.isRegular = true := by
  have choices := Json.itemsRegular_map ChunkChoice.isRegular_toJson chunk.choices
  simp [toJson, Json.isRegular, Json.membersRegular, Json.ofInt, Number.Numeral.isJson_ofInt,
    choices]

/-- The text of a chunk says this chunk and no other. -/
theorem Chunk.decodeText_toJson (chunk : Chunk) :
    Json.decodeText decoder chunk.toJson.text = .ok chunk :=
  Json.decodeText_text chunk.isRegular_toJson (by decide) fun _ deep => chunk.decode_toJson deep

theorem ErrorReport.decode_toJson (deep : source.Allows 1) (report : ErrorReport) :
    decoder source (Reading.ofJson report.toJson) = .ok report := by
  obtain ⟨inner, enters, _⟩ := Source.enter_of_allows deep
  have message := reads_field "message" (string_ok inner report.message)
  have kind := reads_field "type" (string_ok inner report.kind)
  have code := reads_nullable "code" (option_string inner) report.code
  have all := (message.pair kind (by simp)).pair code (foreign_omittable (by simp) _)
  rw [toJson, Reading.ofJson, Reading.ofMembers_append]
  exact (all.map _).decoder enters "OpenAiError"

theorem ErrorResponse.decode_toJson (deep : source.Allows 2) (response : ErrorResponse) :
    decoder source (Reading.ofJson response.toJson) = .ok response := by
  obtain ⟨inner, enters, deeper⟩ := Source.enter_of_allows deep
  have error := reads_field "error" (response.error.decode_toJson deeper)
  exact (error.map _).decoder enters "ErrorResponse"

theorem ErrorResponse.isRegular_toJson (response : ErrorResponse) :
    response.toJson.isRegular = true := by
  have code := Json.membersRegular_optional "code" .string (fun _ => rfl)
    response.error.code
  simp [toJson, ErrorReport.toJson, Json.isRegular, Json.membersRegular, code]

theorem ErrorResponse.decodeText_toJson (response : ErrorResponse) :
    Json.decodeText decoder response.toJson.text = .ok response :=
  Json.decodeText_text response.isRegular_toJson (by decide)
    fun _ deep => response.decode_toJson deep

end ChatGateway.Chat
