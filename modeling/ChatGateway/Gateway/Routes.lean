import ChatGateway.Gateway.Completions
import ChatGateway.Gateway.Health
import ChatGateway.Settings.Basic
import ChatGateway.Text.Cut
import ChatGateway.Text.Digits

/-!
# Routes

Two paths are known, each with its methods. Around them stand the limit on the body, the headers
for browsers of any origin, and the serial of the request.
-/
namespace ChatGateway.Gateway

/-- The answer to a request with all it asked for. -/
structure Handled where
  effects : List Effect := []
  answer : Answer

namespace Handled

def map (f : Answer → Answer) (handled : Handled) : Handled :=
  { handled with answer := f handled.answer }

def ofTraced (work : Traced Effect Answer) : Handled :=
  ⟨work.effects,
    match work.result with
    | .ok answer => answer
    | .error failure => .ofFailure failure⟩

end Handled

/-! ## The body -/

/-- The length that a request declares, if it is a number of 64 bits. -/
def declaredLength (inbound : Inbound) : Option Nat := do
  let value ← inbound.header? "content-length"
  (Text.unsigned? value.toList).filter (· < UInt64.size)

/-- No body longer than this is put together, whatever the settings allow. -/
def bufferLimit : Nat := 2097152

/-- The limit that applies to a body when it is read. -/
def effectiveLimit (limit : Nat) (inbound : Inbound) : Nat :=
  min bufferLimit (((declaredLength inbound).map (min limit)).getD limit)

def isDeclaredTooLong (limit : Nat) (inbound : Inbound) : Bool :=
  (declaredLength inbound).any (limit < ·)

/-- The body as text, or why it cannot be read. -/
def textOf (limit : Nat) (inbound : Inbound) : Except Answer String :=
  if effectiveLimit limit inbound < inbound.body.length then
    .error (.plain 413 "Failed to buffer the request body: length limit exceeded")
  else
    match Text.Utf8.decode? inbound.body with
    | .ok chars => .ok (String.ofList chars)
    | .error fault =>
      .error (.plain 400 ("Request body didn't contain valid UTF-8: " ++ fault.message))

/-! ## The paths -/

inductive Route where
  | health
  | completions
  deriving DecidableEq, Repr

namespace Route

def path : Route → String
  | health => "/health"
  | completions => "/v1/chat/completions"

/-- What the `allow` header says. -/
def methods : Route → List String
  | health => ["GET", "HEAD"]
  | completions => ["POST"]

/-- The route of a path; a query and a fragment do not count. -/
def ofPath? (path : String) : Option Route :=
  let path := String.ofList (Text.before '?' (Text.before '#' path.toList))
  [health, completions].find? (·.path = path)

def allow (route : Route) (answer : Answer) : Answer :=
  answer.withHeader "allow" (",".intercalate route.methods)

end Route

/-- The provider that the settings name. -/
def providerOf (settings : Settings) : Provider where
  baseUrl := settings.claude.apiBaseUrl
  apiKey := settings.claude.apiKey
  version := settings.claude.anthropicVersion

def health (settings : Settings) (world : World) : Answer :=
  .json 200 (HealthReport.ofSettings settings.claude.apiKey settings.claude.apiBaseUrl
    world.timestamp).toJson

/-- What a route makes of a request whose method it takes. -/
def serve (settings : Settings) (world : World) (inbound : Inbound) : Route → Handled
  | .health => { answer := health settings world }
  | .completions =>
    match textOf settings.server.maxBodyBytes.toNat inbound with
    | .ok body => .ofTraced (complete (providerOf settings) world body)
    | .error answer => { answer }

/-- Within the limit on the body, `handled` is the answer. -/
def limited (settings : Settings) (inbound : Inbound) (handled : Handled) : Handled :=
  if isDeclaredTooLong settings.server.maxBodyBytes.toNat inbound then
    { answer := .plain 413 "length limit exceeded" }
  else handled

/-- Browsers may call from any origin. Their question in advance is answered before anything else
is looked at. -/
def shared (inbound : Inbound) (handled : Handled) : Handled :=
  if inbound.method = "OPTIONS" then
    { answer := ⟨200, [
        ⟨"access-control-allow-origin", "*"⟩,
        ⟨"access-control-allow-methods", "GET,POST,OPTIONS"⟩,
        ⟨"access-control-allow-headers", "content-type,authorization"⟩], ""⟩ }
  else handled.map (·.withHeader "access-control-allow-origin" "*")

/-- A request keeps the serial it comes with. -/
def numbered (serial : String) (inbound : Inbound) (answer : Answer) : Answer :=
  answer.withHeader "x-request-id" ((inbound.header? "x-request-id").getD serial)

/-- The answer of the route, or that there is none, or none for the method. -/
def routed (settings : Settings) (world : World) (inbound : Inbound) : Handled :=
  let around (handled : Handled) : Handled := shared inbound (limited settings inbound handled)
  match Route.ofPath? inbound.path with
  | none => around { answer := { status := 404 } }
  | some route =>
    if inbound.method ∈ route.methods then around (serve settings world inbound route)
    else (around { answer := { status := 405 } }).map route.allow

/-- Answers a request. The answer to a question for the head alone has no body. -/
def respond (settings : Settings) (world : World) (serial : String) (inbound : Inbound) :
    Handled :=
  (routed settings world inbound).map fun answer =>
    let answer := numbered serial inbound answer
    if inbound.method = "HEAD" then answer.withoutBody else answer

end ChatGateway.Gateway
