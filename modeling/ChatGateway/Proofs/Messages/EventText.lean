import ChatGateway.Proofs.Json.Integers
import ChatGateway.Proofs.Json.Records
import ChatGateway.Proofs.Messages.Envelope

/-!
Stream events as texts. `Event.toJson` writes an event the way a provider does, and the text is
decoded to the same event, for all strings and all counts.
-/
namespace ChatGateway

namespace Json

theorem isReadable_ofInt (depth : Nat) (n : UInt32) :
    (Reading.ofJson (.ofInt n.toNat)).isReadable depth = true := by
  have small := n.toNat_lt
  have size : UInt64.size = 18446744073709551616 := rfl
  rw [Json.ofInt, Reading.ofJson, Reading.isReadable,
    ofNumeral?_ofInt n.toNat (by omega) (by omega)]
  rfl

theorem isReadable_nullable {α : Type} (depth : Nat) (encode : α → Json)
    (encodes : ∀ a, (Reading.ofJson (encode a)).isReadable depth = true) (value : Option α) :
    (Reading.ofJson (nullable encode value)).isReadable depth = true := by
  cases value with
  | none => rfl
  | some a => exact encodes a

end Json

namespace Messages

open Json (Reading)

/-- An object that begins with its tag is the event that the variant reads from the rest. -/
theorem Envelope.decoder_tagged (tag : String) {variant : Json.Variant Event}
    {members : List (String × Reading)} {event : Event}
    (named : Event.union.ofTag .copy (.string tag) = .ok variant)
    (reads : variant.read (.members members) = .ok event)
    (plain : ∀ member ∈ members, member.1 ≠ "type" ∧ member.1 ≠ "error")
    (readable : Reading.membersReadable 126 members = true) :
    Envelope.decoder (.text Json.nestingLimit)
        (.object (("type", .string tag) :: members) .closed) = .ok ⟨event, none⟩ := by
  have noError : Json.valuesAt "error" (("type", .string tag) :: members) = [] := by
    rw [Json.valuesAt_other (by simp), Json.valuesAt_eq_nil]
    exact fun member found => (plain member found).2
  have said := Event.union.ofMembers_tagFirst named (fun member found => (plain member found).1)
    fun _ _ => rfl
  refine Envelope.decoder_iff.mpr ⟨rfl, .inl ⟨noError, rfl⟩, ?_⟩
  rw [Json.without_eq_self noError]
  refine ⟨?_, said.trans reads⟩
  rw [List.forall_mem_cons]
  exact ⟨rfl, Reading.membersReadable_iff.mp readable⟩

/-- An event as a provider writes it. -/
def Event.toJson : Event → Json
  | .messageStart message =>
    .object [("type", .string "message_start"),
      ("message", .object [("role", .string message.role), ("usage", message.usage.toJson)])]
  | .blockDelta index delta =>
    .object [("type", .string "content_block_delta"), ("index", .ofInt index.toNat),
      ("delta", .object [("type", .string delta.kind), ("text", .string delta.text)])]
  | .messageDelta ending counted =>
    .object [("type", .string "message_delta"),
      ("delta", .object [("stop_reason", .nullable StopReason.toJson ending.stopReason),
        ("stop_sequence", .nullable .string ending.stopSequence)]),
      ("usage", .object [("output_tokens", .ofInt counted.outputTokens.toNat)])]
  | .messageStop => .object [("type", .string "message_stop")]
  | .error => .object [("type", .string "error")]
  | .other => .object [("type", .string "ping")]

theorem Event.isRegular_toJson (event : Event) : event.toJson.isRegular = true := by
  cases event with
  | messageStart message =>
    simp [toJson, Usage.toJson, Json.ofInt, Json.isRegular, Json.membersRegular,
      Number.Numeral.isJson_ofInt]
  | blockDelta index delta =>
    simp [toJson, Json.ofInt, Json.isRegular, Json.membersRegular, Number.Numeral.isJson_ofInt]
  | messageDelta ending counted =>
    obtain ⟨reason, sequence⟩ := ending
    cases reason <;> cases sequence <;>
      simp [toJson, StopReason.toJson, Json.nullable, Json.ofInt, Json.isRegular,
        Json.membersRegular, Number.Numeral.isJson_ofInt]
  | messageStop | error | other => rfl

open Json.Record (reads_defaulted reads_field)
open Json.Decoder (string_ok u32_ofInt)

theorem Usage.decode_toJson (usage : Usage) :
    Usage.decoder .copy (Reading.ofJson usage.toJson) = .ok usage := by
  have input := reads_defaulted "input_tokens" (u32_ofInt .copy usage.inputTokens) 0
  have output := reads_defaulted "output_tokens" (u32_ofInt .copy usage.outputTokens) 0
  exact ((input.pair output (by simp)).map _).decoder rfl "Usage"

theorem StopReason.decode_nullable (reason : Option StopReason) :
    StopReason.member .copy (Reading.ofJson (.nullable toJson reason)) = .ok reason := by
  cases reason with
  | none => rfl
  | some reason => cases reason <;> rfl

theorem MessageStart.decode (message : MessageStart) :
    MessageStart.decoder .copy (.object [("role", .string message.role),
      ("usage", Reading.ofJson message.usage.toJson)] .closed) = .ok message := by
  have role := reads_defaulted "role" (string_ok .copy message.role) ""
  have usage := reads_defaulted "usage" message.usage.decode_toJson {}
  exact ((role.pair usage (by simp)).map _).decoder rfl "MessageStart"

theorem BlockDelta.decode (delta : BlockDelta) :
    BlockDelta.decoder .copy (.object [("type", .string delta.kind),
      ("text", .string delta.text)] .closed) = .ok delta := by
  have kind := reads_defaulted "type" (string_ok .copy delta.kind) ""
  have text := reads_defaulted "text" (string_ok .copy delta.text) ""
  exact ((kind.pair text (by simp)).map _).decoder rfl "Delta"

theorem Ending.decode (ending : Ending) :
    Ending.decoder .copy (.object
      [("stop_reason", Reading.ofJson (.nullable StopReason.toJson ending.stopReason)),
        ("stop_sequence", Reading.ofJson (.nullable .string ending.stopSequence))] .closed) =
      .ok ending := by
  have sequenced : Json.Decoder.option .string .copy
      (Reading.ofJson (.nullable .string ending.stopSequence)) = .ok ending.stopSequence := by
    cases ending.stopSequence <;> rfl
  have reason := reads_defaulted "stop_reason"
    (StopReason.decode_nullable ending.stopReason) none
  have stop := reads_defaulted "stop_sequence" sequenced none
  exact ((reason.pair stop (by simp)).map _).decoder rfl "MessageDeltaData"

theorem EndingUsage.decode (counted : EndingUsage) :
    EndingUsage.decoder .copy (.object
      [("output_tokens", Reading.ofJson (.ofInt counted.outputTokens.toNat))] .closed) =
      .ok counted := by
  have output := reads_defaulted "output_tokens"
    (u32_ofInt .copy counted.outputTokens) 0
  exact (output.map EndingUsage.mk).decoder rfl "DeltaUsage"

/-- The text of an event is decoded to this event. -/
theorem Event.decode_toJson (event : Event) :
    Envelope.decoder (.text Json.nestingLimit) (Reading.ofJson event.toJson) =
      .ok ⟨event, none⟩ := by
  cases event with
  | messageStop | error | other => rfl
  | messageStart message =>
    have start := (reads_field "message" message.decode).map Event.messageStart
    exact Envelope.decoder_tagged "message_start" rfl start.ofMembers
      (by simp [Reading.ofMembers]) (by
        simp [Reading.membersReadable, Reading.isReadable, Usage.toJson, Reading.ofJson,
          Reading.ofMembers, Json.isReadable_ofInt])
  | blockDelta index delta =>
    have placed := reads_defaulted "index" (u32_ofInt .copy index) 0
    have piece := reads_defaulted "delta" delta.decode {}
    have both := (placed.pair piece (by simp)).map (Function.uncurry blockDelta)
    exact Envelope.decoder_tagged "content_block_delta" rfl both.ofMembers
      (by simp [Reading.ofMembers]) (by
        simp [Reading.membersReadable, Reading.isReadable, Reading.ofMembers, Reading.ofJson,
          Json.isReadable_ofInt])
  | messageDelta ending counted =>
    have ended := reads_defaulted "delta" ending.decode {}
    have usage := reads_defaulted "usage" counted.decode {}
    have both := (ended.pair usage (by simp)).map (Function.uncurry messageDelta)
    have reason := Json.isReadable_nullable 125 StopReason.toJson (fun _ => rfl) ending.stopReason
    have sequence := Json.isReadable_nullable 125 Json.string (fun _ => rfl) ending.stopSequence
    exact Envelope.decoder_tagged "message_delta" rfl both.ofMembers
      (by simp [Reading.ofMembers]) (by
        simp [Reading.membersReadable, Reading.isReadable, Reading.ofMembers, Reading.ofJson,
          Json.isReadable_ofInt, reason, sequence])

end Messages

end ChatGateway
