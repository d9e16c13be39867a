import ChatGateway.Chat.Request
import ChatGateway.Image.Inline
import ChatGateway.Messages.Request
import ChatGateway.Traced

/-!
# The messages request of a chat request

System messages become the system prompt, of which the last one counts; every other message keeps
its place, its role and its parts. Images are fetched in document order, and the first problem in
document order is the one reported. The effects are the URLs that are fetched.
-/
namespace ChatGateway.Messages

/-- The provider wants a limit; this one is taken when the client sets none. -/
def defaultMaxTokens : UInt32 := 4096

/-- No limit and a limit of zero mean the same. -/
def maxTokensOf (wanted : Option UInt32) : UInt32 :=
  match wanted with
  | some n => if 0 < n then n else defaultMaxTokens
  | none => defaultMaxTokens

/-- An empty list of stop texts is none. -/
def stopSequencesOf (stop : Option Chat.Stop) : Option (List String) :=
  (stop.map Chat.Stop.texts).filter fun texts => !texts.isEmpty

/-- A system prompt is plain text. -/
def systemText (content : Chat.Content) : Except Failure String :=
  match content with
  | .text text => .ok text
  | .parts _ => .error (.invalidRequest "System message content must be a string")

namespace Block

def ofPart (fetch : Image.Fetcher) (part : Chat.Part) : Traced String Block :=
  match part with
  | .text s => .succeed (.text s)
  | .image reference =>
    .ask reference.url
      (match fetch reference.url with
      | .ok inline => .ok (.image (.base64 inline.mediaType inline.data))
      | .error error => .error (.invalidImage error.message))

def ofContent (fetch : Image.Fetcher) (content : Chat.Content) : Traced String (List Block) :=
  match content with
  | .text s => .succeed [.text s]
  | .parts parts => Traced.forEach (ofPart fetch) parts

end Block

/-- The system prompt so far, and the messages after this point of the conversation. -/
def ofConversation (fetch : Image.Fetcher) (system : Option String) :
    List Chat.Message → Traced String (Option String × List Message)
  | [] => .succeed (system, [])
  | message :: rest =>
    let turn (role : Role) : Traced String (Option String × List Message) := do
      let blocks ← Block.ofContent fetch message.content
      let (system, messages) ← ofConversation fetch system rest
      pure (system, ⟨role, blocks⟩ :: messages)
    match message.role with
    | .system => do
      let text ← Traced.ofExcept (systemText message.content)
      ofConversation fetch (some text) rest
    | .user => turn .user
    | .assistant => turn .assistant

namespace Request

def ofChat (fetch : Image.Fetcher) (request : Chat.Request) : Traced String Request := do
  let (system, messages) ← ofConversation fetch none request.messages
  pure {
    model := request.model
    system
    messages
    maxTokens := maxTokensOf request.maxTokens
    stopSequences := stopSequencesOf request.stop
    temperature := request.temperature
    topP := request.topP
    stream := request.stream }

end Request

end ChatGateway.Messages
