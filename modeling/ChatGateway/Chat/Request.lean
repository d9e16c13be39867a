import ChatGateway.Json.Tagged

/-!
# Chat completion requests

What a client sends: a conversation whose messages hold text or a list of parts, and the settings
of the completion.
-/
namespace ChatGateway.Chat

open ChatGateway.Json (Decoder Record Variant Tagged)
open ChatGateway.Number (Floating)

inductive Role where
  | system
  | user
  | assistant
  deriving DecidableEq, Repr

namespace Role

def names : List (String × Role) := [("system", system), ("user", user), ("assistant", assistant)]

def name : Role → String
  | system => "system"
  | user => "user"
  | assistant => "assistant"

def toJson (role : Role) : Json := .string role.name

def decoder : Decoder Role := .enumeration names

end Role

structure ImageUrl where
  url : String
  detail : Option String := none
  deriving DecidableEq, Repr

namespace ImageUrl

def toJson (image : ImageUrl) : Json :=
  .object ([("url", .string image.url)] ++ Json.optional "detail" .string image.detail)

def decoder : Decoder ImageUrl :=
  (Record.field "url" .string ++ Record.optional "detail" .string
    |>.map fun (url, detail) => { url, detail }).decoder "ImageUrl"

end ImageUrl

/-- A part of a message. -/
inductive Part where
  | text (text : String)
  | image (image : ImageUrl)
  deriving DecidableEq, Repr

namespace Part

def toJson : Part → Json
  | text s => .object [("type", .string "text"), ("text", .string s)]
  | image i => .object [("type", .string "image_url"), ("image_url", i.toJson)]

def union : Tagged Part where
  name := "ContentPart"
  variants := [
    .fields "text" "ContentPart::Text" ((Record.field "text" .string).map text),
    .fields "image_url" "ContentPart::ImageUrl"
      ((Record.field "image_url" ImageUrl.decoder).map image)]

def decoder : Decoder Part := union.decoder

end Part

inductive Content where
  | text (text : String)
  | parts (parts : List Part)
  deriving DecidableEq, Repr

namespace Content

def toJson : Content → Json
  | text s => .string s
  | parts ps => .array (ps.map Part.toJson)

/-- A string, or else a list of parts. Which part does not fit is not told. -/
def decoder : Decoder Content := .held fun reading =>
  match reading with
  | .string s => .ok (text s)
  | other =>
    match Decoder.list Part.decoder .copy other with
    | .ok ps => .ok (parts ps)
    | .error _ => .error (.noForm "MessageContent")

end Content

structure Message where
  role : Role
  content : Content
  name : Option String := none
  deriving DecidableEq, Repr

namespace Message

def toJson (m : Message) : Json :=
  .object ([("role", m.role.toJson), ("content", m.content.toJson)]
    ++ Json.optional "name" .string m.name)

def decoder : Decoder Message :=
  (Record.field "role" Role.decoder ++ Record.field "content" Content.decoder
      ++ Record.optional "name" .string
    |>.map fun ((role, content), name) => { role, content, name }).decoder "ChatMessage"

end Message

/-- Texts at which a completion stops. -/
inductive Stop where
  | single (text : String)
  | many (texts : List String)
  deriving DecidableEq, Repr

namespace Stop

def texts : Stop → List String
  | single s => [s]
  | many ss => ss

def toJson : Stop → Json
  | single s => .string s
  | many ss => Json.strings ss

def decoder : Decoder Stop := .held fun reading =>
  match reading with
  | .string s => .ok (single s)
  | other =>
    match Decoder.list .string .copy other with
    | .ok ss => .ok (many ss)
    | .error _ => .error (.noForm "StopSequences")

end Stop

structure Request where
  model : String
  messages : List Message
  maxTokens : Option UInt32 := none
  temperature : Option Floating := none
  topP : Option Floating := none
  stop : Option Stop := none
  stream : Bool := false
  deriving DecidableEq, Repr

namespace Request

def toJson (r : Request) : Json :=
  .object ([("model", .string r.model), ("messages", .array (r.messages.map Message.toJson))]
    ++ Json.optional "max_tokens" (fun n => .ofInt n.toNat) r.maxTokens
    ++ Json.optional "temperature" .ofF32 r.temperature
    ++ Json.optional "top_p" .ofF32 r.topP
    ++ Json.optional "stop" Stop.toJson r.stop
    ++ [("stream", .bool r.stream)])

def decoder : Decoder Request :=
  (Record.field "model" .string ++ Record.field "messages" (.list Message.decoder)
      ++ Record.optional "max_tokens" .u32 ++ Record.optional "temperature" .f32
      ++ Record.optional "top_p" .f32 ++ Record.optional "stop" Stop.decoder
      ++ Record.defaulted "stream" .bool false
    |>.map fun ((((((model, messages), maxTokens), temperature), topP), stop), stream) =>
      { model, messages, maxTokens, temperature, topP, stop, stream }).decoder
    "ChatCompletionRequest"

end Request

end ChatGateway.Chat
