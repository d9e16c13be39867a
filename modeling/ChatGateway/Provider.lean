import ChatGateway.Http.Exchange
import ChatGateway.Json.Decoder
import ChatGateway.Messages.Request
import ChatGateway.Messages.Response
import ChatGateway.Stream.Lines

/-!
# The provider

Requests go to `/messages` below the base URL, each exactly once. A reply is read as one response
or as the lines of a stream. An error status with a body that reports a failure is that failure,
any other error status is a refusal.
-/
namespace ChatGateway

open Messages (Response)

/-- Where the provider is and how it knows us. -/
structure Provider where
  baseUrl : String
  apiKey : String
  version : String
  deriving DecidableEq, Repr

namespace Provider

/-- Slashes at the end of the base URL do not count. -/
def messagesUrl (p : Provider) : String :=
  String.ofList ((p.baseUrl.toList.reverse.dropWhile (· = '/')).reverse) ++ "/messages"

def headers (p : Provider) (streamed : Bool) : List Http.Header :=
  [⟨"x-api-key", p.apiKey⟩, ⟨"anthropic-version", p.version⟩,
    ⟨"content-type", "application/json"⟩]
    ++ if streamed then [⟨"accept", "text/event-stream"⟩] else []

/-- The request that is sent; `streamed` asks for an event stream. -/
def post (p : Provider) (streamed : Bool) (request : Messages.Request) :
    Except Failure Http.Request :=
  (Http.Request.build "POST" p.messagesUrl (p.headers streamed) request.toJson.text).mapError
    fun fault => .http fault.message

def ofFault {α : Type} (outcome : Except Http.Fault α) : Except Failure α :=
  outcome.mapError fun fault => .http fault.message

/-- The failure that a body reports, if it reports one. -/
def reported? (body : String) : Option Response :=
  match Response.ofText body with
  | .ok response => if (ProviderFailure.ofFault? response.error).isSome then some response else none
  | .error _ => none

/-- The response in a reply. A failure that is reported with an error status is left in the
response. -/
def responseOf (reply : Http.Reply) : Except Failure Response := do
  let body ← ofFault reply.text
  if reply.isSuccess then
    (Response.ofText body).mapError fun error => .decode error.message
  else
    match reported? body with
    | some response => pure response
    | none => throw (.refused reply.status body)

/-- What is wrong with a streamed reply that has an error status. A body that breaks off counts as
empty. -/
def refusal (reply : Http.Reply) : Failure :=
  let body := (reply.text.toOption).getD ""
  match (reported? body).bind (ProviderFailure.ofFault? ·.error) with
  | some failure => .provider failure
  | none => .refused reply.status body

/-- The pieces of a reply, ending with a failure if the connection broke. -/
def piecesOf (reply : Http.Reply) : List (Except Failure (List UInt8)) :=
  reply.chunks.map .ok
    ++ if reply.isBroken then [.error (.http Http.Fault.truncated.message)] else []

/-- The lines in a reply. -/
def linesOf (reply : Http.Reply) : Except Failure (List Stream.Item) :=
  if reply.isSuccess then .ok (Stream.items (piecesOf reply)) else .error (refusal reply)

/-- Sends a request and reads the reply. -/
def exchange {α : Type} (network : Http.Network) (read : Http.Reply → Except Failure α)
    (request : Http.Request) : Except Failure α := do
  read (← ofFault (request.send network))

/-- A request for a whole response. -/
def create (p : Provider) (network : Http.Network) (request : Messages.Request) :
    Except Failure Response := do
  exchange network responseOf (← p.post false request)

/-- A request for a stream. -/
def openStream (p : Provider) (network : Http.Network) (request : Messages.Request) :
    Except Failure (List Stream.Item) := do
  exchange network linesOf (← p.post true request)

end Provider

end ChatGateway
