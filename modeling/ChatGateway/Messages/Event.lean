import ChatGateway.Messages.Response

/-!
# Stream events

What the provider answers in a stream: one event per data line, in an envelope that may also carry
a failure. Events of other kinds than the listed ones are allowed and mean nothing.
-/
namespace ChatGateway.Messages

open ChatGateway.Json (Decoder Error Reading Record Source Variant Tagged)

structure MessageStart where
  role : String := ""
  usage : Usage := {}
  deriving DecidableEq, Repr

namespace MessageStart

def decoder : Decoder MessageStart :=
  (Record.defaulted "role" .string "" ++ Record.defaulted "usage" Usage.decoder {}
    |>.map fun (role, usage) => { role, usage }).decoder "MessageStart"

end MessageStart

/-- A piece of a block. -/
structure BlockDelta where
  kind : String := ""
  text : String := ""
  deriving DecidableEq, Repr

namespace BlockDelta

/-- The text the delta adds to the completion, if it is a text delta and not empty. A delta
without a type is a text delta too. -/
def completionText (d : BlockDelta) : Option String :=
  if (d.kind = "" || d.kind = "text_delta") && d.text ≠ "" then some d.text else none

def decoder : Decoder BlockDelta :=
  (Record.defaulted "type" .string "" ++ Record.defaulted "text" .string ""
    |>.map fun (kind, text) => { kind, text }).decoder "Delta"

end BlockDelta

structure Ending where
  stopReason : Option StopReason := none
  stopSequence : Option String := none
  deriving DecidableEq, Repr

namespace Ending

def decoder : Decoder Ending :=
  (Record.defaulted "stop_reason" StopReason.member none
      ++ Record.optional "stop_sequence" .string
    |>.map fun (stopReason, stopSequence) => { stopReason, stopSequence }).decoder
    "MessageDeltaData"

end Ending

structure EndingUsage where
  outputTokens : UInt32 := 0
  deriving DecidableEq, Repr

namespace EndingUsage

def decoder : Decoder EndingUsage :=
  ((Record.defaulted "output_tokens" .u32 0).map EndingUsage.mk).decoder "DeltaUsage"

end EndingUsage

inductive Event where
  | messageStart (message : MessageStart)
  | blockDelta (index : UInt32) (delta : BlockDelta)
  | messageDelta (ending : Ending) (usage : EndingUsage)
  | messageStop
  | error
  | other
  deriving DecidableEq, Repr

namespace Event

def union : Tagged Event where
  name := "StreamEvent"
  variants := [
    .fields "message_start" "StreamEvent::MessageStart"
      ((Record.field "message" MessageStart.decoder).map messageStart),
    .fields "content_block_delta" "StreamEvent::ContentBlockDelta"
      ((Record.defaulted "index" .u32 0 ++ Record.defaulted "delta" BlockDelta.decoder {}).map
        fun (index, delta) => blockDelta index delta),
    .fields "message_delta" "StreamEvent::MessageDelta"
      ((Record.defaulted "delta" Ending.decoder {}
          ++ Record.defaulted "usage" EndingUsage.decoder {}).map
        fun (ending, usage) => messageDelta ending usage),
    .bare "message_stop" messageStop,
    .bare "error" error]
  other := some (.bare "other" other)

def decoder : Decoder Event := union.decoder

end Event

structure Envelope where
  event : Event
  error : Option Fault := none
  deriving DecidableEq, Repr

namespace Envelope

/-- The failure once it is met, and the event's members back to front. -/
structure Sorting where
  error : Option (Option Fault) := none
  reversed : List (String × Reading) := []

/-- The failure is read where it stands, the event's members are held until all are there. -/
def sort (source : Source) (s : Sorting) (member : String × Reading) : Except Error Sorting :=
  if member.1 = "error" then
    if s.error.isSome then .error (.duplicateField "error")
    else do pure { s with error := some (← Fault.decoder.option source member.2) }
  else do pure { s with reversed := (member.1, ← source.hold member.2) :: s.reversed }

def decoder : Decoder Envelope := fun source reading =>
  match reading with
  | .object members ending => do
    let inner ← source.enter
    let s ← members.foldlM (sort inner) {}
    if ending ≠ .closed then throw .malformed
    let event ← Event.union.ofMembers .copy s.reversed.reverse true
    pure ⟨event, s.error.getD none⟩
  | other => Json.mismatch other "struct StreamEnvelope"

end Envelope

end ChatGateway.Messages
