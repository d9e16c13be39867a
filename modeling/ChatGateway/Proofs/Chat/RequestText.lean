import ChatGateway.Chat.Request
import ChatGateway.Proofs.Json.Containers
import ChatGateway.Proofs.Json.Floats
import ChatGateway.Proofs.Json.Members

/-!
What a client sends is read back: the text of a chat request is decoded to the same request, with
content as a text or in parts, one stop text or several, and whatever is left out. Only the floats
must have a text that is their own.
-/
namespace ChatGateway.Chat

open Json (ReadsBack Reading Source)
open Json.Record (foreign_omittable reads_defaulted reads_field reads_optional)
open Json.Decoder (bool_ok list_ofJson option_some option_string string_ok u32_ofInt)

variable {source : Source}

theorem Role.decode_toJson (source : Source) (role : Role) :
    decoder source (Reading.ofJson role.toJson) = .ok role := by
  cases role <;> rfl

theorem ImageUrl.decode_toJson (deep : source.Allows 1) (image : ImageUrl) :
    decoder source (Reading.ofJson image.toJson) = .ok image := by
  obtain ⟨inner, enters, _⟩ := Source.enter_of_allows deep
  have url := reads_field "url" (string_ok inner image.url)
  have detail := reads_optional "detail" image.detail fun a _ => option_string inner a
  have both := url.pair detail (foreign_omittable (by simp) _)
  rw [toJson, Reading.ofJson, Reading.ofMembers_append]
  exact (both.map _).decoder enters "ImageUrl"

theorem ImageUrl.isReadable_toJson (image : ImageUrl) {depth : Nat} (deep : 1 ≤ depth) :
    (Reading.ofJson image.toJson).isReadable depth = true := by
  obtain ⟨url, detail⟩ := image
  have room : 0 < depth := deep
  cases detail <;>
    simp [toJson, Json.optional, Reading.ofJson, Reading.ofMembers, Reading.isReadable,
      Reading.membersReadable, room]

/-- The parts of a content are read from a copy. -/
theorem Part.decode_toJson (part : Part) :
    decoder .copy (Reading.ofJson part.toJson) = .ok part := by
  cases part with
  | text s =>
    have reads := (reads_field "text" (string_ok .copy s)).map text
    exact union.decoder_tagFirst rfl rfl (by simp [Json.Tagged.tagKey, Reading.ofMembers])
      (fun _ _ => rfl) reads.ofMembers
  | image image =>
    have room : Source.copy.Allows 1 := trivial
    have url := image.decode_toJson room
    have reads := (reads_field "image_url" url).map Part.image
    exact union.decoder_tagFirst rfl rfl (by simp [Json.Tagged.tagKey, Reading.ofMembers])
      (fun _ _ => rfl) reads.ofMembers

theorem Part.isReadable_toJson (part : Part) {depth : Nat} (deep : 2 ≤ depth) :
    (Reading.ofJson part.toJson).isReadable depth = true := by
  have room : 0 < depth := by omega
  cases part with
  | text s =>
    simp [toJson, Reading.ofJson, Reading.ofMembers, Reading.isReadable, Reading.membersReadable,
      room]
  | image image =>
    have url : (Reading.ofJson image.toJson).isReadable (depth - 1) = true :=
      image.isReadable_toJson (by omega)
    simp [toJson, Reading.ofJson, Reading.ofMembers, Reading.isReadable, Reading.membersReadable,
      url, room]

theorem Content.isReadable_toJson (content : Content) {depth : Nat} (deep : 3 ≤ depth) :
    (Reading.ofJson content.toJson).isReadable depth = true := by
  cases content with
  | text s => rfl
  | parts ps =>
    have each : Reading.allReadable (depth - 1) (Reading.ofItems (ps.map Part.toJson)) = true :=
      Reading.allReadable_map (fun part => part.isReadable_toJson (by omega)) ps
    have room : 0 < depth := by omega
    simp [toJson, Reading.ofJson, Reading.isReadable, each, room]

theorem Content.decode_toJson (deep : source.Allows 3) (content : Content) :
    decoder source (Reading.ofJson content.toJson) = .ok content := by
  rw [decoder, Json.Decoder.held,
    Source.hold_of_allows deep fun _ room => content.isReadable_toJson room]
  cases content with
  | text s => rfl
  | parts ps =>
    have listed : Json.Decoder.list Part.decoder .copy (Reading.ofJson (parts ps).toJson) = .ok ps :=
      list_ofJson rfl ps fun part _ => part.decode_toJson
    rw [toJson, Reading.ofJson] at listed ⊢
    simp only [bind, Except.bind, listed]

theorem Message.decode_toJson (deep : source.Allows 4) (message : Message) :
    decoder source (Reading.ofJson message.toJson) = .ok message := by
  obtain ⟨inner, enters, deeper⟩ := Source.enter_of_allows deep
  have role := reads_field "role" (message.role.decode_toJson inner)
  have content := reads_field "content" (message.content.decode_toJson deeper)
  have name := reads_optional "name" message.name fun a _ => option_string inner a
  have all := (role.pair content (by simp)).pair name (foreign_omittable (by simp) _)
  rw [toJson, Reading.ofJson, Reading.ofMembers_append]
  exact (all.map _).decoder enters "ChatMessage"

theorem Stop.isReadable_toJson (stop : Stop) {depth : Nat} (deep : 1 ≤ depth) :
    (Reading.ofJson stop.toJson).isReadable depth = true := by
  cases stop with
  | single s => rfl
  | many ss =>
    have each : Reading.allReadable (depth - 1) (Reading.ofItems (ss.map Json.string)) = true :=
      Reading.allReadable_map (fun _ => rfl) ss
    have room : 0 < depth := deep
    simp [toJson, Json.strings, Reading.ofJson, Reading.isReadable, each, room]

theorem Stop.decode_toJson (deep : source.Allows 1) (stop : Stop) :
    decoder source (Reading.ofJson stop.toJson) = .ok stop := by
  rw [decoder, Json.Decoder.held,
    Source.hold_of_allows deep fun _ room => stop.isReadable_toJson room]
  cases stop with
  | single s => rfl
  | many ss =>
    have listed : Json.Decoder.list .string .copy (Reading.ofJson (many ss).toJson) = .ok ss :=
      list_ofJson rfl ss fun _ _ => rfl
    rw [toJson, Json.strings, Reading.ofJson] at listed ⊢
    simp only [bind, Except.bind, listed]

theorem Part.isRegular_toJson (part : Part) : part.toJson.isRegular = true := by
  cases part with
  | text s => rfl
  | image image =>
    have detail := Json.membersRegular_optional "detail" .string (fun _ => rfl) image.detail
    simp [toJson, ImageUrl.toJson, Json.isRegular, Json.membersRegular, detail]

theorem Message.isRegular_toJson (message : Message) : message.toJson.isRegular = true := by
  obtain ⟨role, content, name⟩ := message
  have named := Json.membersRegular_optional "name" .string (fun _ => rfl) name
  cases content with
  | text s =>
    simp [toJson, Role.toJson, Content.toJson, Json.isRegular, Json.membersRegular, named]
  | parts ps =>
    have each := Json.itemsRegular_map Part.isRegular_toJson ps
    simp [toJson, Role.toJson, Content.toJson, Json.isRegular, Json.membersRegular, named, each]

theorem Stop.isRegular_toJson (stop : Stop) : stop.toJson.isRegular = true := by
  cases stop with
  | single s => rfl
  | many ss => exact Json.itemsRegular_map (fun _ => rfl) ss

namespace Request

/-- The floats in a request. -/
def floats (request : Request) : List Number.Floating :=
  request.temperature.toList ++ request.topP.toList

theorem decode_toJson (deep : source.Allows 6) (request : Request)
    (written : ∀ x ∈ request.floats, ReadsBack x) :
    decoder source (Reading.ofJson request.toJson) = .ok request := by
  obtain ⟨inner, enters, deeper⟩ := Source.enter_of_allows deep
  obtain ⟨inmost, entersList, room⟩ := Source.enter_of_allows deeper
  have messages := list_ofJson entersList request.messages fun message _ => message.decode_toJson room
  have model := reads_field "model" (string_ok inner request.model)
  have listed := reads_field "messages" messages
  have limit := reads_optional "max_tokens" request.maxTokens fun a _ =>
    option_some (by simp [Json.ofInt, Reading.ofJson]) (u32_ofInt inner a)
  have temperature := reads_optional "temperature" request.temperature fun x found =>
    (written x (by simp [floats, found])).option_ofF32 inner
  have topP := reads_optional "top_p" request.topP fun x found =>
    (written x (by simp [floats, found])).option_ofF32 inner
  have stop := reads_optional "stop" request.stop fun a _ =>
    option_some (by cases a <;> simp [Stop.toJson, Json.strings, Reading.ofJson])
      (a.decode_toJson (deeper.mono (by decide)))
  have stream := reads_defaulted "stream" (bool_ok inner request.stream) false
  have all := (((((model.pair listed (by simp)).pair limit (foreign_omittable (by simp) _)).pair
    temperature (foreign_omittable (by simp) _)).pair topP (foreign_omittable (by simp) _)).pair
    stop (foreign_omittable (by simp) _)).pair stream (by simp)
  simp only [toJson, Reading.ofJson, Reading.ofMembers_append]
  exact (all.map _).decoder enters "ChatCompletionRequest"

theorem isRegular_toJson (request : Request) : request.toJson.isRegular = true := by
  have messages := Json.itemsRegular_map Message.isRegular_toJson request.messages
  have limit := Json.membersRegular_optional "max_tokens" (fun n : UInt32 => Json.ofInt n.toNat)
    (fun n => Number.Numeral.isJson_ofInt n.toNat) request.maxTokens
  have temperature := Json.membersRegular_optional "temperature" Json.ofF32 Json.isRegular_ofF32
    request.temperature
  have topP := Json.membersRegular_optional "top_p" Json.ofF32 Json.isRegular_ofF32 request.topP
  have stop := Json.membersRegular_optional "stop" Stop.toJson Stop.isRegular_toJson request.stop
  simp [toJson, Json.isRegular, Json.membersRegular, Json.membersRegular_append, messages, limit,
    temperature, topP, stop]

/-- The text of a request says this request, if its floats have texts of their own. -/
theorem decodeText_toJson (request : Request) (written : ∀ x ∈ request.floats, ReadsBack x) :
    Json.decodeText decoder request.toJson.text = .ok request :=
  Json.decodeText_text request.isRegular_toJson (by decide)
    fun _ deep => request.decode_toJson deep written

end Request

end ChatGateway.Chat
