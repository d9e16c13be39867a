import ChatGateway.Chat.OfMessages
import ChatGateway.Gateway.Answer
import ChatGateway.Gateway.EventStream
import ChatGateway.Messages.OfChat
import ChatGateway.Provider

/-!
# Answering a chat request

A request is read, its images are fetched, and the provider is called once. What that asks of the
outside world is recorded as effects, in order.
-/
namespace ChatGateway.Gateway

/-- What answering a request asks for. -/
inductive Effect where
  | fetch (url : String)
  | post (request : Http.Request)

/-- What a request meets outside the gateway: the images, the network, the clock and the serials of
its chunks. -/
structure World where
  fetch : Image.Fetcher
  network : Http.Network
  created : Int64
  timestamp : String
  stamps : Stream.Stamps

/-- Sends a request to the provider and reads the reply. A request that cannot be built is not
sent. -/
def call {α : Type} (world : World) (request : Except Failure Http.Request)
    (read : Http.Reply → Except Failure α) : Traced Effect α := do
  let request ← Traced.ofExcept request
  Traced.ask (.post request) (Provider.exchange world.network read request)

/-- The messages request of a chat request. -/
def asked (world : World) (request : Chat.Request) : Traced Effect Messages.Request :=
  (Messages.Request.ofChat world.fetch request).mapEffects .fetch

/-- A completion in one piece. -/
def whole (provider : Provider) (world : World) (request : Chat.Request) :
    Traced Effect Answer := do
  let messages ← asked world request
  let response ← call world (provider.post false messages) Provider.responseOf
  let outcome := Chat.Completion.ofResponse world.created request.model response {}
  let completion ← Traced.ofExcept outcome.1
  pure (.json 200 completion.toJson)

/-- The answer that carries an event stream. -/
def streamAnswer (signals : List Stream.Signal) : Answer where
  status := 200
  headers := [
    ⟨"content-type", "text/event-stream; charset=utf-8"⟩,
    ⟨"cache-control", "no-cache"⟩,
    ⟨"connection", "keep-alive"⟩,
    ⟨"x-accel-buffering", "no"⟩]
  body := eventStream signals

/-- A completion in chunks, for a client that receives all of them. -/
def streamed (provider : Provider) (world : World) (request : Chat.Request) :
    Traced Effect Answer := do
  let messages ← asked world request
  let items ← call world (provider.post true { messages with stream := true }) Provider.linesOf
  pure (streamAnswer (Stream.signals world.stamps request.model 0 .fresh {} items))

/-- Reads the body of a chat request. -/
def chatRequest (body : String) : Except Failure Chat.Request :=
  (Json.decodeText Chat.Request.decoder body).mapError fun error =>
    .invalidRequest ("JSON deserialization error: " ++ error.message)

/-- Answers the text of a chat request. -/
def complete (provider : Provider) (world : World) (body : String) : Traced Effect Answer := do
  let request ← Traced.ofExcept (chatRequest body)
  if request.stream then streamed provider world request else whole provider world request

end ChatGateway.Gateway
