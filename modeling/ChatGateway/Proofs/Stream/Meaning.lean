import ChatGateway.Proofs.Messages.EventText
import ChatGateway.Stream.Relay

/-!
What a line of an event stream says by itself. A relay that is open reacts to this meaning and to
nothing else of the line, so facts about runs can be stated over meanings: `feed_open` is the one
place where a line is taken apart.
-/
namespace ChatGateway.Stream

open Chat (Chunk Stamp Usage)
open Messages (Envelope Event)

inductive Meaning where
  /-- No data line. -/
  | noise
  /-- An event that comes without a failure. -/
  | event (event : Event)
  /-- Data that cannot be read, or a failure the provider reports. -/
  | failure (failure : Failure)
  deriving DecidableEq, Repr

def meaning (line : String) : Meaning :=
  match payload? line with
  | none => .noise
  | some payload =>
    match Json.decodeChars Envelope.decoder payload with
    | .error error => .failure (.decode error.message)
    | .ok envelope =>
      match ProviderFailure.ofFault? envelope.error with
      | some failure => .failure (.provider failure)
      | none => .event envelope.event

/-- One space after the colon is left out. -/
theorem payload?_data (text : List Char) :
    payload? ("data: " ++ String.ofList text) = some text := by
  simp [payload?, Text.afterLead]

/-- The line of an event, as a provider writes it. -/
def eventLine (event : Event) : String := "data: " ++ event.toJson.text

/-- Every event has a line that says it. -/
theorem meaning_eventLine (event : Event) : meaning (eventLine event) = .event event := by
  rw [meaning, eventLine, Json.text, payload?_data]
  simp only [Json.decodeChars_chars _ _ event.isRegular_toJson, event.decode_toJson,
    ProviderFailure.ofFault?]

/-- The relay stays open after a line of this meaning. -/
def Meaning.passes : Meaning → Bool
  | .noise => true
  | .event .messageStop | .failure _ => false
  | .event _ => true

namespace Outcome

/-- The line neither ended the stream nor failed. -/
def goesOn (outcome : Outcome) : Bool :=
  match outcome.step with
  | .ok .skip | .ok (.chunk _) => true
  | .ok .done | .error _ => false

def chunk? (outcome : Outcome) : Option Chunk :=
  match outcome.step with
  | .ok (.chunk chunk) => some chunk
  | _ => none

end Outcome

variable {stamp : Stamp} {model : String} {phase : Phase} {usage : Usage} {line : String}

theorem feed_closed : feed stamp model .closed usage line = ⟨.ok .skip, .closed, usage⟩ := rfl

theorem feed_open (isOpen : phase ≠ .closed) :
    feed stamp model phase usage line =
      match meaning line with
      | .noise => ⟨.ok .skip, phase, usage⟩
      | .event event => ofEvent stamp model phase usage event
      | .failure failure => ⟨.error failure, .closed, usage⟩ := by
  unfold feed meaning
  rw [if_neg isOpen]
  cases payload? line with
  | none => rfl
  | some payload =>
    dsimp only
    cases Json.decodeChars Envelope.decoder payload with
    | error error => rfl
    | ok envelope =>
      dsimp only [ofEnvelope]
      cases ProviderFailure.ofFault? envelope.error <;> rfl

/-- What a relay does with a line is a matter of what the line means. -/
theorem feed_eq_of_meaning {other : String} (same : meaning other = meaning line) (stamp : Stamp)
    (model : String) (phase : Phase) (usage : Usage) :
    feed stamp model phase usage other = feed stamp model phase usage line := by
  by_cases isOpen : phase = .closed
  · rw [isOpen, feed_closed, feed_closed]
  · rw [feed_open isOpen, feed_open isOpen, same]

theorem feed_event (stamp : Stamp) (model : String) (usage : Usage) (isOpen : phase ≠ .closed)
    {event : Event} (means : meaning line = .event event) :
    feed stamp model phase usage line = ofEvent stamp model phase usage event := by
  rw [feed_open isOpen, means]

/-- A line that ends the stream leaves the token count as it was. -/
theorem feed_usage (ends : (feed stamp model phase usage line).goesOn = false) :
    (feed stamp model phase usage line).usage = usage := by
  by_cases isOpen : phase = .closed
  · rw [isOpen, feed_closed]
  rw [feed_open isOpen] at ends ⊢
  cases said : meaning line with
  | noise => rfl
  | failure failure => rfl
  | event event =>
    simp only [said] at ends ⊢
    cases event with
    | messageStart | blockDelta | messageDelta => cases ends
    | messageStop | error | other => rfl

/-- An open relay goes on exactly when the line's meaning lets it, and then it is still open. -/
theorem feed_goesOn (stamp : Stamp) (model : String) (usage : Usage) (line : String)
    (isOpen : phase ≠ .closed) :
    (feed stamp model phase usage line).goesOn = (meaning line).passes ∧
      ((meaning line).passes = true → (feed stamp model phase usage line).phase ≠ .closed) := by
  rw [feed_open isOpen]
  cases meaning line with
  | noise => exact ⟨rfl, fun _ => isOpen⟩
  | failure failure => exact ⟨rfl, fun passes => by cases passes⟩
  | event event =>
    cases event with
    | messageStart | blockDelta | messageDelta => exact ⟨rfl, fun _ => by simp [ofEvent]⟩
    | messageStop => exact ⟨rfl, fun passes => by cases passes⟩
    | error | other => exact ⟨rfl, fun _ => isOpen⟩

/-- Only the end of the message completes a stream. -/
theorem feed_done_iff (stamp : Stamp) (model : String) (usage : Usage) (line : String)
    (isOpen : phase ≠ .closed) :
    (feed stamp model phase usage line).step = .ok .done ↔ meaning line = .event .messageStop := by
  rw [feed_open isOpen]
  cases meaning line with
  | noise => simp
  | failure failure => simp
  | event event => cases event <;> simp [ofEvent, chunkOf]

/-- Where the relay stands after some lines, if it stood in `phase` before. -/
def phaseAfter (phase : Phase) : List Outcome → Phase
  | [] => phase
  | outcome :: rest => phaseAfter outcome.phase rest

/-- The token count after some lines. -/
def usageAfter (usage : Usage) : List Outcome → Usage
  | [] => usage
  | outcome :: rest => usageAfter outcome.usage rest

theorem feedAll_append (stamps : Stamps) (model : String) (place : Nat) (phase : Phase)
    (usage : Usage) (lines more : List String) :
    feedAll stamps model place phase usage (lines ++ more) =
      feedAll stamps model place phase usage lines ++
        feedAll stamps model (place + lines.length)
          (phaseAfter phase (feedAll stamps model place phase usage lines))
          (usageAfter usage (feedAll stamps model place phase usage lines)) more := by
  induction lines generalizing place phase usage with
  | nil => rfl
  | cons line lines ih =>
    simp only [List.cons_append, feedAll, ih, phaseAfter, usageAfter, List.length_cons]
    rw [Nat.add_assoc, Nat.add_comm 1 lines.length]

theorem phaseAfter_append (phase : Phase) (outcomes more : List Outcome) :
    phaseAfter phase (outcomes ++ more) = phaseAfter (phaseAfter phase outcomes) more := by
  induction outcomes generalizing phase with
  | nil => rfl
  | cons outcome outcomes ih => exact ih _

theorem usageAfter_append (usage : Usage) (outcomes more : List Outcome) :
    usageAfter usage (outcomes ++ more) = usageAfter (usageAfter usage outcomes) more := by
  induction outcomes generalizing usage with
  | nil => rfl
  | cons outcome outcomes ih => exact ih _

end ChatGateway.Stream
