import ChatGateway.Http.Exchange
import ChatGateway.Image.Inline
import ChatGateway.Text.Cut

/-!
# Fetching images

An image URL is resolved to an inline image: a data URL holds it, and an `http` or `https` URL is
downloaded. Both ways apply the same limit and find the format by the same rule.
-/
namespace ChatGateway.Image

/-- The media type a reply declares; one that is not plain ASCII counts as none. -/
def declaredType (reply : Http.Reply) : Option String :=
  (reply.header? "content-type").filter fun value =>
    value.toList.all fun c => c = '\t' || (0x20 ≤ c.toNat && c.toNat < 0x7F)

def ofFault {α : Type} (outcome : Except Http.Fault α) : Except Error α :=
  outcome.mapError fun fault => .download fault.message

/-- Reads a reply. A declared length is checked before the body is looked at. -/
def ofReply (limit : Nat) (reply : Http.Reply) : Except Error Inline := do
  if !reply.isSuccess then throw (.status reply.status)
  if let some length := reply.length then checkSize length limit
  let bytes ← ofFault reply.bytes
  checkSize bytes.length limit
  let format ← formatOf (declaredType reply) bytes
  pure ⟨format.mediaType, String.ofList (Text.Base64.encode bytes)⟩

def download (network : Http.Network) (limit : Nat) (url : String) : Except Error Inline := do
  let request ← ofFault (Http.Request.build "GET" url [] "")
  ofReply limit (← ofFault (request.send network))

/-- The image has to be downloaded. -/
def isRemote (url : String) : Bool :=
  ["http://", "https://"].any fun lead => (Text.afterLead lead url.toList).isSome

/-- The fetcher for images of at most `limit` bytes. -/
def fetch (network : Http.Network) (limit : Nat) : Fetcher := fun url =>
  match Text.afterLead "data:" url.toList with
  | some rest => Inline.ofDataUrl limit rest
  | none =>
    if isRemote url then download network limit url
    else .error (.unsupportedScheme (String.ofList (Text.before ':' url.toList)))

end ChatGateway.Image
