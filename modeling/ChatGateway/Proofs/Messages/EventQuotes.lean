import ChatGateway.Proofs.Json.Fields
import ChatGateway.Proofs.Json.Scalars
import ChatGateway.Proofs.Messages.EventMembers

/-!
Events down to the strings and numbers that stand in them. `Event.Quotes` says what the parts of an
event that reach a client are, with what counts when a member, or a whole object, is missing;
`Envelope.quotes` says it of every event that is decoded. A failure beside the event does not
matter.
-/
namespace ChatGateway.Messages

open Json (Reading Record Source Stands map_eq_ok_iff valuesAt valuesAt_without_other without)

/-- The text of a field; a missing one is empty. -/
def TextAt (standing : Option Reading) (text : String) : Prop :=
  (standing = none ∧ text = "") ∨ standing = some (.string text)

/-- The number of a field; a missing one is zero. -/
def CountAt (standing : Option Reading) (n : UInt32) : Prop :=
  (standing = none ∧ n = 0) ∨
    ∃ numeral, standing = some (.number numeral) ∧
      Json.Number.ofNumeral? numeral = some (.integer n.toNat)

/-- A reason is read from `null` and from every text. -/
theorem StopReason.member_iff {source : Source} {value : Reading} {reason : Option StopReason} :
    StopReason.member source value = .ok reason ↔
      (value = .null ∧ reason = none) ∨
        ∃ name, value = .string name ∧ reason = StopReason.ofName? (some name) := by
  change StopReason.ofName? <$> Json.Decoder.option .string source value = .ok reason ↔ _
  simp only [map_eq_ok_iff, Json.Decoder.option_iff, Json.Decoder.string_iff]
  constructor
  · rintro ⟨_, ⟨rfl, rfl⟩ | ⟨name, _, rfl, rfl⟩, rfl⟩
    · exact .inl ⟨rfl, rfl⟩
    · exact .inr ⟨name, rfl, rfl⟩
  · rintro (⟨rfl, rfl⟩ | ⟨name, rfl, rfl⟩)
    · exact ⟨none, .inl ⟨rfl, rfl⟩, rfl⟩
    · exact ⟨some name, .inr ⟨name, by simp, rfl, rfl⟩, rfl⟩

section

variable {source : Source} {standing : Option Reading}

theorem text_stands {text : String} (stands : Stands .string source "" standing text) :
    TextAt standing text := by
  cases standing with
  | none => exact .inl ⟨rfl, stands⟩
  | some value => exact .inr (congrArg some (Json.Decoder.string_iff.mp stands))

theorem count_stands {n : UInt32} (stands : Stands .u32 source 0 standing n) :
    CountAt standing n := by
  cases standing with
  | none => exact .inl ⟨rfl, stands⟩
  | some value =>
    obtain ⟨numeral, rfl, said⟩ := Json.Decoder.u32_iff.mp stands
    exact .inr ⟨numeral, rfl, said⟩

/-- Only a text that is not empty gives a reason. -/
theorem reason_stands {reason : Option StopReason}
    (stands : Stands StopReason.member source none standing reason) :
    reason = none ↔ standing = none ∨ standing = some .null ∨ standing = some (.string "") := by
  cases standing with
  | none => exact ⟨fun _ => .inl rfl, fun _ => stands⟩
  | some value =>
    rcases StopReason.member_iff.mp stands with ⟨rfl, rfl⟩ | ⟨name, rfl, rfl⟩
    · simp
    · by_cases empty : name = "" <;> simp [StopReason.ofName?, empty]

end

namespace Event

/-- What of an event reaches a client is quoted from the members it was read from. -/
def Quotes (members : List (String × Reading)) : Event → Prop
  | .messageStart message =>
    kindOf members = some "message_start" ∧
    ∃ value, valuesAt "message" members = [value] ∧ TextAt (value.field? "role" 0) message.role
  | .blockDelta index delta =>
    let piece := (valuesAt "delta" members).head?
    kindOf members = some "content_block_delta" ∧
    CountAt (valuesAt "index" members).head? index ∧
    TextAt (piece.bind (·.field? "type" 0)) delta.kind ∧
    TextAt (piece.bind (·.field? "text" 1)) delta.text
  | .messageDelta ending _ =>
    let standing := (valuesAt "delta" members).head?.bind (·.field? "stop_reason" 0)
    kindOf members = some "message_delta" ∧
    (ending.stopReason = none ↔
      standing = none ∨ standing = some .null ∨ standing = some (.string ""))
  | .messageStop => kindOf members = some "message_stop"
  | .error => kindOf members = some "error"
  | .other => kindOf members = some "other"

variable {members : List (String × Reading)}

theorem kindOf_without {name : String} (other : "type" ≠ name) :
    kindOf (without name members) = kindOf members := by
  rw [kindOf, kindOf, valuesAt_without_other other]

/-- An event quotes the members that tell it. -/
theorem Told.quotes {event : Event} (told : Told members event) : Quotes members event := by
  cases event with
  | messageStart message =>
    obtain ⟨kind, found, _⟩ := told
    refine ⟨kind, ?_⟩
    rcases Record.finds_field.mp found with ⟨_, default⟩ | ⟨value, single, decoded⟩
    · cases default
    · obtain ⟨inner, role, usage, _, stands, _, rfl⟩ := Record.decoder_fields (by decide) decoded
      exact ⟨value, single, text_stands stands⟩
  | blockDelta index delta =>
    obtain ⟨kind, foundIndex, foundDelta, _⟩ := told
    refine ⟨kind, count_stands (Record.stands_of_finds foundIndex), ?_⟩
    have stands := Record.stands_of_finds foundDelta
    cases piece : (valuesAt "delta" members).head? with
    | none =>
      rw [piece] at stands
      obtain rfl : delta = {} := stands
      exact ⟨.inl ⟨rfl, rfl⟩, .inl ⟨rfl, rfl⟩⟩
    | some value =>
      rw [piece] at stands
      obtain ⟨inner, type, text, _, first, second, rfl⟩ := Record.decoder_fields (by decide) stands
      exact ⟨text_stands first, text_stands second⟩
  | messageDelta ending usage =>
    obtain ⟨kind, foundEnding, _, _⟩ := told
    refine ⟨kind, ?_⟩
    have stands := Record.stands_of_finds foundEnding
    cases change : (valuesAt "delta" members).head? with
    | none =>
      rw [change] at stands
      obtain rfl : ending = {} := stands
      exact ⟨fun _ => .inl rfl, fun _ => rfl⟩
    | some value =>
      rw [change] at stands
      obtain ⟨inner, reason, sequence, _, first, _, rfl⟩ :=
        Record.decoder_fields (by decide) stands
      exact reason_stands first
  | messageStop | error | other => exact told

/-- Members of another name than those of events are not quoted. -/
theorem Quotes.of_without {event : Event} (quotes : Quotes (without "error" members) event) :
    Quotes members event := by
  have kind : kindOf (without "error" members) = kindOf members := kindOf_without (by decide)
  have message : valuesAt "message" (without "error" members) = valuesAt "message" members :=
    valuesAt_without_other (by decide)
  have index : valuesAt "index" (without "error" members) = valuesAt "index" members :=
    valuesAt_without_other (by decide)
  have delta : valuesAt "delta" (without "error" members) = valuesAt "delta" members :=
    valuesAt_without_other (by decide)
  cases event with
  | messageStart => simpa only [Quotes, kind, message] using quotes
  | blockDelta => simpa only [Quotes, kind, index, delta] using quotes
  | messageDelta => simpa only [Quotes, kind, delta] using quotes
  | messageStop | error | other => simpa only [Quotes, kind] using quotes

end Event

/-- A decoded envelope is an object, and its event quotes the object's members. -/
theorem Envelope.quotes {depth : Nat} {reading : Reading} {envelope : Envelope}
    (decoded : Envelope.decoder (.text (depth + 1)) reading = .ok envelope) :
    ∃ members, reading = .object members .closed ∧ envelope.event.Quotes members := by
  obtain ⟨event, error⟩ := envelope
  cases reading with
  | object members ending =>
    obtain ⟨rfl, _, _, read⟩ := Envelope.decoder_iff.mp decoded
    exact ⟨members, rfl, (Event.ofMembers_iff.mp read).quotes.of_without⟩
  | null | bool | number | string | unpaired | array | broken =>
    exact absurd decoded (Json.mismatch_ne_ok _ _ _)

end ChatGateway.Messages
