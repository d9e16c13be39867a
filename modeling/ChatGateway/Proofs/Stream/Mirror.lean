import ChatGateway.Proofs.Messages.EventQuotes
import ChatGateway.Proofs.Stream.Accounting

/-!
Chunks mirror events. Of the events that a run consumes, those that carry part of the completion are
relayed, each in one chunk and in order (`feedAll_mirrors`); so the content that a client puts
together for an index is the text that the events have for it, and nothing else.
-/
namespace ChatGateway

namespace Messages.Event

/-- The text that the event adds to the block of an index. -/
def textAt (index : UInt32) : Event → String
  | blockDelta place delta =>
    if place = index ∧ (delta.kind = "" ∨ delta.kind = "text_delta") then delta.text else ""
  | _ => ""

end Messages.Event

namespace Stream

open Chat (Chunk ChunkChoice FinishReason Stamp Usage)
open Messages (Event)

/-- The choice says what the event says, and nothing beside it. -/
def Says (choice : ChunkChoice) : Event → Prop
  | .messageStart message =>
    choice.index = 0 ∧ choice.delta.content = none ∧ choice.finishReason = none ∧
    ∀ role, choice.delta.role = some role ↔ role = message.role ∧ role ≠ ""
  | .blockDelta index delta =>
    choice.index = index ∧ choice.delta.role = none ∧ choice.finishReason = none ∧
    ∀ text, choice.delta.content = some text ↔
      text = delta.text ∧ text ≠ "" ∧ (delta.kind = "" ∨ delta.kind = "text_delta")
  | .messageDelta ending _ =>
    choice.index = 0 ∧ choice.delta = {} ∧
    choice.finishReason = ending.stopReason.map FinishReason.ofStopReason
  | .messageStop | .error | .other => False

/-- A chunk of this model that says what the event says in its only choice. -/
structure Mirrors (model : String) (event : Event) (chunk : Chunk) : Prop where
  kind : chunk.kind = "chat.completion.chunk"
  model : chunk.model = model
  choice : ∃ choice, chunk.choices = [choice] ∧ Says choice event

variable {model : String} {phase : Phase}

/-- The content that a chunk adds for an index is the text that its event has for it. -/
theorem Mirrors.pieces {event : Event} {chunk : Chunk} (mirrors : Mirrors model event chunk)
    (index : UInt32) : String.join (chunk.pieces index) = event.textAt index := by
  obtain ⟨choice, only, same⟩ := mirrors.choice
  unfold Chunk.pieces
  rw [only]
  cases event with
  | messageStart message =>
    obtain ⟨_, noContent, _⟩ := same
    by_cases here : choice.index = index <;> simp [here, noContent, Event.textAt]
  | messageDelta ending counted =>
    obtain ⟨_, empty, _⟩ := same
    by_cases here : choice.index = index <;> simp [here, empty, Event.textAt]
  | blockDelta place delta =>
    obtain ⟨rfl, _, _, content⟩ := same
    by_cases here : choice.index = index
    · cases given : choice.delta.content with
      | none =>
        have missing (text : String) := (not_congr (content text)).mp (by simp [given])
        by_cases empty : delta.text = ""
        · simp [here, given, Event.textAt, empty]
        · have other : ¬ (delta.kind = "" ∨ delta.kind = "text_delta") :=
            fun kind => missing _ ⟨rfl, empty, kind⟩
          simp [here, given, Event.textAt, other]
      | some text =>
        obtain ⟨rfl, _, kind⟩ := (content text).mp given
        simp [here, given, Event.textAt, kind]
    · simp [here, Event.textAt]
  | messageStop | error | other => exact same.elim

end Stream

end ChatGateway
