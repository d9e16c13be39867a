import ChatGateway.Messages.Request
import ChatGateway.Proofs.Json.Containers
import ChatGateway.Proofs.Json.Floats
import ChatGateway.Proofs.Json.Members

/-!
What the provider is sent is read back: the text of a messages request is decoded to the same
request. A block is read straight from the text, so what stands beside its tag must be readable
where it stands.
-/
namespace ChatGateway.Messages

open Json (ReadsBack Reading Source)
open Json.Record (foreign_omittable reads_defaulted reads_field reads_missing reads_optional)
open Json.Decoder (bool_ok list_ofJson option_some option_string string_ok u32_ofInt)

variable {source : Source}

theorem Role.decode_toJson (source : Source) (role : Role) :
    decoder source (Reading.ofJson role.toJson) = .ok role := by
  cases role <;> rfl

/-- The source of an image is held with the rest of its block. -/
theorem ImageSource.decode_toJson (image : ImageSource) :
    decoder .copy (Reading.ofJson image.toJson) = .ok image := by
  obtain ⟨mediaType, data⟩ := image
  have kind := reads_field "media_type" (string_ok .copy mediaType)
  have content := reads_field "data" (string_ok .copy data)
  have reads := (kind.pair content (by simp)).map (Function.uncurry base64)
  exact union.decoder_tagFirst rfl rfl (by simp [Json.Tagged.tagKey, Reading.ofMembers])
    (fun _ _ => rfl) reads.ofMembers

theorem ImageSource.isReadable_toJson (image : ImageSource) {depth : Nat} (deep : 1 ≤ depth) :
    (Reading.ofJson image.toJson).isReadable depth = true := by
  obtain ⟨mediaType, data⟩ := image
  have room : 0 < depth := deep
  simp [toJson, Reading.ofJson, Reading.ofMembers, Reading.isReadable, Reading.membersReadable, room]

theorem Block.decode_toJson (deep : source.Allows 2) (block : Block) :
    decoder source (Reading.ofJson block.toJson) = .ok block := by
  obtain ⟨inner, enters, deeper⟩ := Source.enter_of_allows deep
  cases block with
  | text s =>
    have reads := (reads_field "text" (string_ok .copy s)).map text
    have held : inner.hold (.string s) = .ok (.string s) :=
      Source.hold_of_allows deeper fun _ _ => rfl
    exact union.decoder_tagFirst enters rfl (by simp [Json.Tagged.tagKey, Reading.ofMembers])
      (by simpa [Reading.ofMembers, Reading.ofJson] using held) reads.ofMembers
  | image image =>
    have reads := (reads_field "source" image.decode_toJson).map Block.image
    have held := Source.hold_of_allows deeper fun _ room => image.isReadable_toJson room
    exact union.decoder_tagFirst enters rfl (by simp [Json.Tagged.tagKey, Reading.ofMembers])
      (by simpa [Reading.ofMembers] using held) reads.ofMembers

theorem Message.decode_toJson (deep : source.Allows 4) (message : Message) :
    decoder source (Reading.ofJson message.toJson) = .ok message := by
  obtain ⟨inner, enters, deeper⟩ := Source.enter_of_allows deep
  obtain ⟨inmost, entersList, room⟩ := Source.enter_of_allows deeper
  have blocks := list_ofJson entersList message.content fun block _ => block.decode_toJson room
  have role := reads_field "role" (message.role.decode_toJson inner)
  have content := reads_field "content" blocks
  exact ((role.pair content (by simp)).map _).decoder enters "Message"

theorem Block.isRegular_toJson (block : Block) : block.toJson.isRegular = true := by
  cases block with
  | text s => rfl
  | image image =>
    obtain ⟨mediaType, data⟩ := image
    rfl

theorem Message.isRegular_toJson (message : Message) : message.toJson.isRegular = true := by
  have each := Json.itemsRegular_map Block.isRegular_toJson message.content
  simp [toJson, Role.toJson, Json.isRegular, Json.membersRegular, each]

namespace Request

/-- The floats in a request. -/
def floats (request : Request) : List Number.Floating :=
  request.temperature.toList ++ request.topP.toList

theorem decode_toJson (deep : source.Allows 6) (request : Request)
    (written : ∀ x ∈ request.floats, ReadsBack x) :
    decoder source (Reading.ofJson request.toJson) = .ok request := by
  obtain ⟨inner, enters, deeper⟩ := Source.enter_of_allows deep
  obtain ⟨inmost, entersList, room⟩ := Source.enter_of_allows deeper
  have messages := list_ofJson entersList request.messages fun message _ => message.decode_toJson room
  have texts (ss : List String) (_ : request.stopSequences = some ss) :
      (Json.Decoder.list .string).option inner (Reading.ofJson (Json.strings ss)) = .ok (some ss) :=
    option_some (by simp [Json.strings, Reading.ofJson])
      (list_ofJson entersList ss fun _ _ => rfl)
  have model := reads_field "model" (string_ok inner request.model)
  have system := reads_optional "system" request.system fun a _ => option_string inner a
  have listed := reads_field "messages" messages
  have limit := reads_field "max_tokens" (u32_ofInt inner request.maxTokens)
  have stop := reads_optional "stop_sequences" request.stopSequences texts
  have temperature := reads_optional "temperature" request.temperature fun x found =>
    (written x (by simp [floats, found])).option_ofF32 inner
  have topP := reads_optional "top_p" request.topP fun x found =>
    (written x (by simp [floats, found])).option_ofF32 inner
  have stream : (Json.Record.defaulted "stream" .bool false).Reads inner
      (Reading.ofMembers (if request.stream then [("stream", .bool true)] else []))
      request.stream := by
    cases request.stream with
    | true => exact reads_defaulted "stream" (bool_ok inner true) false
    | false => exact reads_missing "stream" .bool inner false (some false)
  have all := ((((((model.pair system (foreign_omittable (by simp) _)).pair listed (by simp)).pair
    limit (by simp)).pair stop (foreign_omittable (by simp) _)).pair temperature
    (foreign_omittable (by simp) _)).pair topP (foreign_omittable (by simp) _)).pair stream
    (by cases request.stream <;> simp [Reading.ofMembers])
  have apart (m n : Json) : Reading.ofMembers [("messages", m), ("max_tokens", n)] =
      Reading.ofMembers [("messages", m)] ++ Reading.ofMembers [("max_tokens", n)] := rfl
  simp only [toJson, Reading.ofJson, Reading.ofMembers_append, apart, ← List.append_assoc]
  exact (all.map _).decoder enters "MessagesRequest"

theorem isRegular_toJson (request : Request) : request.toJson.isRegular = true := by
  have messages := Json.itemsRegular_map Message.isRegular_toJson request.messages
  have system := Json.membersRegular_optional "system" .string (fun _ => rfl) request.system
  have stop := Json.membersRegular_optional "stop_sequences" Json.strings
    (fun ss => Json.itemsRegular_map (fun _ => rfl) ss) request.stopSequences
  have temperature := Json.membersRegular_optional "temperature" Json.ofF32 Json.isRegular_ofF32
    request.temperature
  have topP := Json.membersRegular_optional "top_p" Json.ofF32 Json.isRegular_ofF32 request.topP
  have stream : Json.membersRegular (if request.stream then [("stream", .bool true)] else []) =
      true := by
    cases request.stream <;> rfl
  simp [toJson, Json.isRegular, Json.membersRegular, Json.membersRegular_append, Json.ofInt,
    Number.Numeral.isJson_ofInt, messages, system, stop, temperature, topP, stream]

/-- The text of a request says this request, if its floats have texts of their own. -/
theorem decodeText_toJson (request : Request) (written : ∀ x ∈ request.floats, ReadsBack x) :
    Json.decodeText decoder request.toJson.text = .ok request :=
  Json.decodeText_text request.isRegular_toJson (by decide)
    fun _ deep => request.decode_toJson deep written

end Request

end ChatGateway.Messages
