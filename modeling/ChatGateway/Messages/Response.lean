import ChatGateway.Json.Tagged

/-!
# Messages responses

What the provider answers, in one piece. Every member may be missing, because a failure is
reported in the same shape with only its `error` member.
-/
namespace ChatGateway.Messages

open ChatGateway.Json (Decoder Record)

/-- Why the model stopped. A reason that is not known today is kept as `unknown`. -/
inductive StopReason where
  | endTurn
  | maxTokens
  | stopSequence
  | toolUse
  | unknown
  deriving DecidableEq, Repr

namespace StopReason

def names : List (String × StopReason) :=
  [("end_turn", endTurn), ("max_tokens", maxTokens), ("stop_sequence", stopSequence),
    ("tool_use", toolUse)]

def name : StopReason → String
  | endTurn => "end_turn"
  | maxTokens => "max_tokens"
  | stopSequence => "stop_sequence"
  | toolUse => "tool_use"
  | unknown => "unknown"

def ofName (name : String) : StopReason := (names.lookup name).getD unknown

def toJson (reason : StopReason) : Json := .string reason.name

def decoder : Decoder StopReason := .enumeration names (some unknown)

/-- An empty reason is none. -/
def ofName? (name : Option String) : Option StopReason :=
  match name with
  | none => none
  | some name => if name = "" then none else some (ofName name)

/-- As a member of a response, where it is a string or `null`. -/
def member : Decoder (Option StopReason) := (Decoder.option .string).map ofName?

end StopReason

structure Usage where
  inputTokens : UInt32 := 0
  outputTokens : UInt32 := 0
  deriving DecidableEq, Repr

namespace Usage

def toJson (u : Usage) : Json :=
  .object [("input_tokens", .ofInt u.inputTokens.toNat),
    ("output_tokens", .ofInt u.outputTokens.toNat)]

def decoder : Decoder Usage :=
  (Record.defaulted "input_tokens" .u32 0 ++ Record.defaulted "output_tokens" .u32 0
    |>.map fun (inputTokens, outputTokens) => { inputTokens, outputTokens }).decoder "Usage"

end Usage

/-- A failure as the provider reports it. -/
structure Fault where
  kind : String := ""
  message : String := ""
  deriving DecidableEq, Repr

namespace Fault

def isEmpty (f : Fault) : Bool := f.kind = "" && f.message = ""

def toJson (f : Fault) : Json :=
  .object [("type", .string f.kind), ("message", .string f.message)]

def decoder : Decoder Fault :=
  (Record.defaulted "type" .string "" ++ Record.defaulted "message" .string ""
    |>.map fun (kind, message) => { kind, message }).decoder "ClaudeError"

end Fault

structure ResponseBlock where
  kind : String := ""
  text : String := ""
  deriving DecidableEq, Repr

namespace ResponseBlock

/-- A block without a type is text too. -/
def isText (b : ResponseBlock) : Bool := b.kind = "" || b.kind = "text"

def decoder : Decoder ResponseBlock :=
  (Record.defaulted "type" .string "" ++ Record.defaulted "text" .string ""
    |>.map fun (kind, text) => { kind, text }).decoder "ResponseBlock"

end ResponseBlock

structure Response where
  id : String := ""
  kind : String := ""
  role : String := ""
  content : List ResponseBlock := []
  stopReason : Option StopReason := none
  usage : Usage := {}
  error : Option Fault := none
  deriving DecidableEq, Repr

namespace Response

def decoder : Decoder Response :=
  (Record.defaulted "id" .string "" ++ Record.defaulted "type" .string ""
      ++ Record.defaulted "role" .string ""
      ++ Record.defaulted "content" (.list ResponseBlock.decoder) []
      ++ Record.defaulted "stop_reason" StopReason.member none
      ++ Record.defaulted "usage" Usage.decoder {}
      ++ Record.optional "error" Fault.decoder
    |>.map fun ((((((id, kind), role), content), stopReason), usage), error) =>
      { id, kind, role, content, stopReason, usage, error }).decoder "MessagesResponse"

def ofText (body : String) : Except Json.Error Response := Json.decodeText decoder body

end Response

end ChatGateway.Messages
