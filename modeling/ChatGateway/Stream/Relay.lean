import ChatGateway.Chat.OfMessages
import ChatGateway.Json.Decoder
import ChatGateway.Messages.Event
import ChatGateway.Text.Cut

/-!
# From event lines to chunks

A relay is fed the lines of an event stream and makes one chunk of each event that carries part of
the completion. It counts tokens in an accumulator its caller keeps. A failure or the end of the
message closes it, and what follows is passed over.
-/
namespace ChatGateway.Stream

open Chat (Chunk ChunkChoice Delta FinishReason Stamp Usage)
open Messages (Envelope Event)

inductive Phase where
  /-- No event has been consumed. -/
  | fresh
  | streaming
  | closed
  deriving DecidableEq, Repr

/-- What a line amounts to. -/
inductive Step where
  /-- Nothing to pass on. -/
  | skip
  | chunk (chunk : Chunk)
  /-- The message is complete. -/
  | done
  deriving DecidableEq, Repr

/-- What follows a line's result. -/
structure Outcome where
  step : Except Failure Step
  phase : Phase
  usage : Usage

/-- The payload of a data line; one space after the colon belongs to the framing. -/
def payload? (line : String) : Option (List Char) :=
  (Text.afterLead "data:" line.toList).map fun data =>
    match data with
    | ' ' :: rest => rest
    | data => data

/-- Every chunk has a single choice. -/
def chunkOf (stamp : Stamp) (model : String) (index : UInt32) (delta : Delta)
    (finishReason : Option FinishReason) : Step :=
  .chunk (.single stamp model ⟨index, delta, finishReason⟩)

/-- An event that carries no failure. Content before the start of the message opens the stream
too. -/
def ofEvent (stamp : Stamp) (model : String) (phase : Phase) (usage : Usage) :
    Event → Outcome
  | .messageStart message =>
    let role := if message.role = "" then none else some message.role
    ⟨.ok (chunkOf stamp model 0 { role } none), .streaming,
      { usage with promptTokens := message.usage.inputTokens }⟩
  | .blockDelta index delta =>
    ⟨.ok (chunkOf stamp model index { content := delta.completionText } none), .streaming, usage⟩
  | .messageDelta ending counted =>
    let completionTokens := counted.outputTokens
    ⟨.ok (chunkOf stamp model 0 {} (ending.stopReason.map FinishReason.ofStopReason)), .streaming,
      { usage with
        completionTokens
        totalTokens := Chat.addTokens usage.promptTokens completionTokens }⟩
  | .messageStop => ⟨.ok .done, .closed, usage⟩
  | .error | .other => ⟨.ok .skip, phase, usage⟩

/-- A failure in the envelope counts before the event it comes with. -/
def ofEnvelope (stamp : Stamp) (model : String) (phase : Phase) (usage : Usage)
    (envelope : Envelope) : Outcome :=
  match ProviderFailure.ofFault? envelope.error with
  | some failure => ⟨.error (.provider failure), .closed, usage⟩
  | none => ofEvent stamp model phase usage envelope.event

/-- Feeds one line. -/
def feed (stamp : Stamp) (model : String) (phase : Phase) (usage : Usage) (line : String) :
    Outcome :=
  if phase = .closed then ⟨.ok .skip, phase, usage⟩
  else
    match payload? line with
    | none => ⟨.ok .skip, phase, usage⟩
    | some payload =>
      match Json.decodeChars Envelope.decoder payload with
      | .ok envelope => ofEnvelope stamp model phase usage envelope
      | .error error => ⟨.error (.decode error.message), .closed, usage⟩

/-- A stamp for each line, by its place in the stream. -/
abbrev Stamps := Nat → Stamp

/-- Feeds the lines of a stream, the first of them at `place`. -/
def feedAll (stamps : Stamps) (model : String) (place : Nat) (phase : Phase) (usage : Usage) :
    List String → List Outcome
  | [] => []
  | line :: rest =>
    let outcome := feed (stamps place) model phase usage line
    outcome :: feedAll stamps model (place + 1) outcome.phase outcome.usage rest

end ChatGateway.Stream
