import ChatGateway.Chat.Request

/-!
# Chat completions

What a client receives: a completion in one piece or in chunks, the tokens it took, or an error in
an envelope of its own.
-/
namespace ChatGateway.Chat

open ChatGateway.Json (Decoder Record)

/-- Why a completion ended. -/
inductive FinishReason where
  | stop
  | length
  | toolCalls
  | contentFilter
  deriving DecidableEq, Repr

namespace FinishReason

def names : List (String × FinishReason) :=
  [("stop", stop), ("length", length), ("tool_calls", toolCalls),
    ("content_filter", contentFilter)]

def name : FinishReason → String
  | stop => "stop"
  | length => "length"
  | toolCalls => "tool_calls"
  | contentFilter => "content_filter"

def toJson (reason : FinishReason) : Json := .string reason.name

def decoder : Decoder FinishReason := .enumeration names

end FinishReason

/-- The sum of two token counts, or the greatest count if it is beyond that. -/
def addTokens (a b : UInt32) : UInt32 := UInt32.ofNat (min (UInt32.size - 1) (a.toNat + b.toNat))

structure Usage where
  promptTokens : UInt32 := 0
  completionTokens : UInt32 := 0
  totalTokens : UInt32 := 0
  deriving DecidableEq, Repr

namespace Usage

instance : Inhabited Usage := ⟨{}⟩

def ofCounts (prompt completion : UInt32) : Usage :=
  ⟨prompt, completion, addTokens prompt completion⟩

def toJson (u : Usage) : Json :=
  .object [("prompt_tokens", .ofInt u.promptTokens.toNat),
    ("completion_tokens", .ofInt u.completionTokens.toNat),
    ("total_tokens", .ofInt u.totalTokens.toNat)]

def decoder : Decoder Usage :=
  (Record.field "prompt_tokens" .u32 ++ Record.field "completion_tokens" .u32
      ++ Record.field "total_tokens" .u32
    |>.map fun ((promptTokens, completionTokens), totalTokens) =>
      { promptTokens, completionTokens, totalTokens }).decoder "Usage"

end Usage

structure ResponseMessage where
  role : String
  content : String
  deriving DecidableEq, Repr

namespace ResponseMessage

def toJson (m : ResponseMessage) : Json :=
  .object [("role", .string m.role), ("content", .string m.content)]

def decoder : Decoder ResponseMessage :=
  (Record.field "role" .string ++ Record.field "content" .string
    |>.map fun (role, content) => { role, content }).decoder "ResponseMessage"

end ResponseMessage

structure Choice where
  index : UInt32
  message : ResponseMessage
  finishReason : Option FinishReason
  deriving DecidableEq, Repr

namespace Choice

def toJson (c : Choice) : Json :=
  .object [("index", .ofInt c.index.toNat), ("message", c.message.toJson),
    ("finish_reason", Json.nullable FinishReason.toJson c.finishReason)]

def decoder : Decoder Choice :=
  (Record.field "index" .u32 ++ Record.field "message" ResponseMessage.decoder
      ++ Record.nullable "finish_reason" FinishReason.decoder
    |>.map fun ((index, message), finishReason) =>
      { index, message, finishReason }).decoder "ChatCompletionChoice"

end Choice

/-- A completion in one piece. -/
structure Completion where
  id : String
  kind : String
  created : Int64
  model : String
  choices : List Choice
  usage : Option Usage
  deriving DecidableEq, Repr

namespace Completion

def toJson (c : Completion) : Json :=
  .object ([("id", .string c.id), ("object", .string c.kind), ("created", .ofInt c.created.toInt),
      ("model", .string c.model), ("choices", .array (c.choices.map Choice.toJson))]
    ++ Json.optional "usage" Usage.toJson c.usage)

def decoder : Decoder Completion :=
  (Record.field "id" .string ++ Record.field "object" .string ++ Record.field "created" .i64
      ++ Record.field "model" .string ++ Record.field "choices" (.list Choice.decoder)
      ++ Record.nullable "usage" Usage.decoder
    |>.map fun (((((id, kind), created), model), choices), usage) =>
      { id, kind, created, model, choices, usage }).decoder "ChatCompletionResponse"

end Completion

/-- What a chunk adds to the message. -/
structure Delta where
  role : Option String := none
  content : Option String := none
  deriving DecidableEq, Repr

namespace Delta

def toJson (d : Delta) : Json :=
  .object (Json.optional "role" .string d.role ++ Json.optional "content" .string d.content)

def decoder : Decoder Delta :=
  (Record.nullable "role" .string ++ Record.nullable "content" .string
    |>.map fun (role, content) => { role, content }).decoder "ChunkDelta"

end Delta

structure ChunkChoice where
  index : UInt32
  delta : Delta
  finishReason : Option FinishReason
  deriving DecidableEq, Repr

namespace ChunkChoice

def toJson (c : ChunkChoice) : Json :=
  .object [("index", .ofInt c.index.toNat), ("delta", c.delta.toJson),
    ("finish_reason", Json.nullable FinishReason.toJson c.finishReason)]

def decoder : Decoder ChunkChoice :=
  (Record.field "index" .u32 ++ Record.field "delta" Delta.decoder
      ++ Record.nullable "finish_reason" FinishReason.decoder
    |>.map fun ((index, delta), finishReason) =>
      { index, delta, finishReason }).decoder "ChunkChoice"

end ChunkChoice

/-- What makes a record one of its own: a serial that no other record has, and the time. -/
structure Stamp where
  serial : String
  created : Int64
  deriving DecidableEq, Repr

/-- One piece of a streamed completion. -/
structure Chunk where
  id : String
  kind : String
  created : Int64
  model : String
  choices : List ChunkChoice
  deriving DecidableEq, Repr

namespace Chunk

def idOf (serial : String) : String := "chatcmpl-" ++ serial

/-- A chunk with a single choice. -/
def single (stamp : Stamp) (model : String) (choice : ChunkChoice) : Chunk where
  id := idOf stamp.serial
  kind := "chat.completion.chunk"
  created := stamp.created
  model := model
  choices := [choice]

def toJson (c : Chunk) : Json :=
  .object [("id", .string c.id), ("object", .string c.kind), ("created", .ofInt c.created.toInt),
    ("model", .string c.model), ("choices", .array (c.choices.map ChunkChoice.toJson))]

def decoder : Decoder Chunk :=
  (Record.field "id" .string ++ Record.field "object" .string ++ Record.field "created" .i64
      ++ Record.field "model" .string ++ Record.field "choices" (.list ChunkChoice.decoder)
    |>.map fun ((((id, kind), created), model), choices) =>
      { id, kind, created, model, choices }).decoder "ChatCompletionChunk"

end Chunk

/-- What a client is told about a failure. -/
structure ErrorReport where
  message : String
  kind : String
  code : Option String := none
  deriving DecidableEq, Repr

namespace ErrorReport

def toJson (e : ErrorReport) : Json :=
  .object ([("message", .string e.message), ("type", .string e.kind)]
    ++ Json.optional "code" .string e.code)

def decoder : Decoder ErrorReport :=
  (Record.field "message" .string ++ Record.field "type" .string
      ++ Record.nullable "code" .string
    |>.map fun ((message, kind), code) => { message, kind, code }).decoder "OpenAiError"

end ErrorReport

/-- The envelope in which a report is sent. -/
structure ErrorResponse where
  error : ErrorReport
  deriving DecidableEq, Repr

namespace ErrorResponse

def toJson (e : ErrorResponse) : Json := .object [("error", e.error.toJson)]

def decoder : Decoder ErrorResponse :=
  ((Record.field "error" ErrorReport.decoder).map ErrorResponse.mk).decoder "ErrorResponse"

end ErrorResponse

end ChatGateway.Chat
