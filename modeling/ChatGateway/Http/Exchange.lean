import ChatGateway.Http.Url.Parser
import ChatGateway.Text.Utf8

/-!
# HTTP exchanges

The network is a function from a request to what becomes of it: a reply, or no connection. A reply
arrives in chunks of bytes and may break off before its end. Each request is sent once; following
redirects is the network's own affair.
-/
namespace ChatGateway.Http

structure Header where
  name : String
  value : String
  deriving DecidableEq, Repr

structure Request where
  method : String
  url : Url
  headers : List Header
  body : String
  deriving Repr

/-- A reply. `length` is the content length it declares; `isBroken` tells that the connection
broke after the chunks. -/
structure Reply where
  status : Nat
  headers : List Header := []
  chunks : List (List UInt8) := []
  length : Option Nat := none
  isBroken : Bool := false
  deriving Repr

/-- Why there is no reply, or not all of it. -/
inductive Fault where
  /-- There is no valid request to send. -/
  | unbuildable (url : Option Url)
  /-- No connection to the server of the URL. -/
  | unreachable (url : Url)
  /-- The reply broke off. -/
  | truncated
  deriving Repr

namespace Fault

def message : Fault → String
  | unbuildable none => "builder error"
  | unbuildable (some url) => s!"builder error for url ({url.text})"
  | unreachable url => s!"error sending request for url ({url.text})"
  | truncated => "error decoding response body"

end Fault

/-- `none` stands for no connection. -/
abbrev Network := Request → Option Reply

namespace Network

/-- A network that reaches no server. -/
def down : Network := fun _ => none

end Network

/-- The text is allowed as a header value: no control character except the tab. -/
def isHeaderValue (text : String) : Bool :=
  text.toList.all fun c => c = '\t' || (0x20 ≤ c.toNat && c.toNat ≠ 0x7F)

namespace Request

/-- No longer URL is sent. -/
def longestUrl : Nat := 65534

/-- The URL can be written into a request. Some characters may stand in a host but not there. -/
def isSendable (url : Url) : Bool :=
  url.scheme ∈ ["http", "https"]
    && !(url.host.getD "").any (· ∈ ['"', '`', '\x7b', '\x7d'])
    && url.text.utf8ByteSize ≤ longestUrl

/-- The request for a URL that is given as text. -/
def build (method url : String) (headers : List Header) (body : String) :
    Except Fault Request := do
  let some url := Url.parse? url | throw (.unbuildable none)
  if !url.hasHost then throw (.unbuildable (some url))
  if !headers.all (isHeaderValue ·.value) then throw (.unbuildable none)
  let url := url.withoutLogin
  if !isSendable url then throw (.unbuildable (some url))
  pure ⟨method, url, headers, body⟩

/-- Sends a request. -/
def send (request : Request) (network : Network) : Except Fault Reply :=
  match network request with
  | some reply => .ok reply
  | none => .error (.unreachable request.url)

end Request

namespace Reply

def isSuccess (reply : Reply) : Bool := 200 ≤ reply.status && reply.status < 300

/-- The whole body, if it came in full. -/
def bytes (reply : Reply) : Except Fault (List UInt8) :=
  if reply.isBroken then .error .truncated else .ok reply.chunks.flatten

/-- The whole body as text; what is no UTF-8 is replaced. -/
def text (reply : Reply) : Except Fault String := do
  pure (String.ofList (Text.Utf8.decodeLossy (← reply.bytes)))

/-- The value of a header, whatever the case of its name. -/
def header? (reply : Reply) (name : String) : Option String :=
  (reply.headers.find? fun h => h.name.toLower = name).map Header.value

end Reply

end ChatGateway.Http
