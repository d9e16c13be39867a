import ChatGateway.Json.Tagged

/-!
# Messages requests

What the provider is asked: a conversation of user and assistant in blocks of text and inline
images, with the system prompt beside it.
-/
namespace ChatGateway.Messages

open ChatGateway.Json (Decoder Record Variant Tagged)
open ChatGateway.Number (Floating)

inductive Role where
  | user
  | assistant
  deriving DecidableEq, Repr

namespace Role

def names : List (String × Role) := [("user", user), ("assistant", assistant)]

def name : Role → String
  | user => "user"
  | assistant => "assistant"

def toJson (role : Role) : Json := .string role.name

def decoder : Decoder Role := .enumeration names

end Role

/-- An image, inline. -/
inductive ImageSource where
  | base64 (mediaType data : String)
  deriving DecidableEq, Repr

namespace ImageSource

def toJson : ImageSource → Json
  | base64 mediaType data =>
    .object [("type", .string "base64"), ("media_type", .string mediaType),
      ("data", .string data)]

def union : Tagged ImageSource where
  name := "ImageSource"
  variants := [
    .fields "base64" "ImageSource::Base64"
      ((Record.field "media_type" .string ++ Record.field "data" .string).map
        fun (mediaType, data) => base64 mediaType data)]

def decoder : Decoder ImageSource := union.decoder

end ImageSource

inductive Block where
  | text (text : String)
  | image (source : ImageSource)
  deriving DecidableEq, Repr

namespace Block

def toJson : Block → Json
  | text s => .object [("type", .string "text"), ("text", .string s)]
  | image source => .object [("type", .string "image"), ("source", source.toJson)]

def union : Tagged Block where
  name := "ContentBlock"
  variants := [
    .fields "text" "ContentBlock::Text" ((Record.field "text" .string).map text),
    .fields "image" "ContentBlock::Image"
      ((Record.field "source" ImageSource.decoder).map image)]

def decoder : Decoder Block := union.decoder

end Block

structure Message where
  role : Role
  content : List Block
  deriving DecidableEq, Repr

namespace Message

def toJson (m : Message) : Json :=
  .object [("role", m.role.toJson), ("content", .array (m.content.map Block.toJson))]

def decoder : Decoder Message :=
  (Record.field "role" Role.decoder ++ Record.field "content" (.list Block.decoder)
    |>.map fun (role, content) => { role, content }).decoder "Message"

end Message

structure Request where
  model : String
  system : Option String := none
  messages : List Message
  maxTokens : UInt32
  stopSequences : Option (List String) := none
  temperature : Option Floating := none
  topP : Option Floating := none
  stream : Bool := false
  deriving DecidableEq, Repr

namespace Request

/-- `stream` is written only when it is set. -/
def toJson (r : Request) : Json :=
  .object ([("model", .string r.model)]
    ++ Json.optional "system" .string r.system
    ++ [("messages", .array (r.messages.map Message.toJson)),
        ("max_tokens", .ofInt r.maxTokens.toNat)]
    ++ Json.optional "stop_sequences" Json.strings r.stopSequences
    ++ Json.optional "temperature" .ofF32 r.temperature
    ++ Json.optional "top_p" .ofF32 r.topP
    ++ (if r.stream then [("stream", .bool true)] else []))

def decoder : Decoder Request :=
  (Record.field "model" .string ++ Record.optional "system" .string
      ++ Record.field "messages" (.list Message.decoder) ++ Record.field "max_tokens" .u32
      ++ Record.optional "stop_sequences" (.list .string) ++ Record.optional "temperature" .f32
      ++ Record.optional "top_p" .f32 ++ Record.defaulted "stream" .bool false
    |>.map fun
      (((((((model, system), messages), maxTokens), stopSequences), temperature), topP), stream) =>
      { model, system, messages, maxTokens, stopSequences, temperature, topP, stream }).decoder
    "MessagesRequest"

end Request

end ChatGateway.Messages
