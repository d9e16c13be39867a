import ChatGateway.Gateway.Completions
import ChatGateway.Proofs.Gateway.Framing
import ChatGateway.Proofs.Stream.Terminal
import ChatGateway.Proofs.Traced

/-!
What a client gets of a streamed completion. When the provider accepts, the body is a record for
each chunk and one for the end, and a client that cuts it at the blank lines has exactly their
payloads.
-/
namespace ChatGateway.Gateway

open Chat (Chunk Usage)
open ChatGateway.Stream (Phase Session Setup Signal Source Stamps)

/-- The signals of a stream are chunks and one terminal signal. -/
theorem signals_shape (stamps : Stamps) (model : String) (place : Nat) (phase : Phase)
    (usage : Usage) (items : List Stream.Item) :
    ∃ (chunks : List Chunk) (terminal : Signal), terminal.isFinal = true ∧
      Stream.signals stamps model place phase usage items = chunks.map .chunk ++ [terminal] := by
  obtain ⟨lines, rest, terminal, same, goes, ends⟩ :=
    Stream.exists_ends stamps model place phase usage items
  have whole := Stream.signals_append lines rest goes
  rw [ends.signals, ← same] at whole
  exact ⟨_, terminal, ends.isFinal, whole⟩

section

variable {provider : Provider} {world : World} {request : Chat.Request}
  {messages : Messages.Request} {post : Http.Request} {reply : Http.Reply}

/-- An accepted request is answered with the event stream of the reply's lines. -/
theorem streamed_result (translated : (asked world request).result = .ok messages)
    (built : provider.post true { messages with stream := true } = .ok post)
    (answered : world.network post = some reply) (accepted : reply.isSuccess = true) :
    (streamed provider world request).result =
      .ok (streamAnswer (Stream.signals world.stamps request.model 0 .fresh {}
        (Stream.items (Provider.piecesOf reply)))) := by
  have exchanged : Provider.exchange world.network Provider.linesOf post =
      .ok (Stream.items (Provider.piecesOf reply)) := by
    simp only [Provider.exchange, Http.Request.send, answered]
    change Provider.linesOf reply = _
    rw [Provider.linesOf, if_pos accepted]
  have called : (call world (.ok post) Provider.linesOf).result =
      .ok (Stream.items (Provider.piecesOf reply)) := exchanged
  rw [streamed, Traced.bind_result _ translated, built, Traced.bind_result _ called]
  rfl

/-- The body of a streamed completion, for every reply that accepts. It is a record for each chunk
of the stream and one for its end, and nothing in them can be taken for the bounds of a record or
for the mark of the end. With a queue in between and waits of any length, a client that stays reads
the same. -/
theorem streamed_body_cannot_be_forged (provider : Provider) (world : World)
    (request : Chat.Request) (messages : Messages.Request) (post : Http.Request)
    (reply : Http.Reply) (translated : (asked world request).result = .ok messages)
    (built : provider.post true { messages with stream := true } = .ok post)
    (answered : world.network post = some reply) (accepted : reply.isSuccess = true) :
    ∃ (chunks : List Chunk) (terminal : Signal) (answer : Answer),
      Stream.signals world.stamps request.model 0 .fresh {}
        (Stream.items (Provider.piecesOf reply)) = chunks.map .chunk ++ [terminal] ∧
      terminal.isFinal = true ∧
      (streamed provider world request).result = .ok answer ∧
      answer.status = 200 ∧
      Reads chunks terminal answer.body ∧
      ∀ (capacity : Nat) (s : Session) (wakes : List Wake),
        Session.Reachable ⟨.ofList (Stream.items (Provider.piecesOf reply)) .ended, world.stamps,
          request.model, capacity⟩ (.opening .fresh {}) s →
        s.present = true → s.stage = .ended → s.queue = [] →
        wakes.filterMap Wake.signal? = s.received →
        (written wakes).filter (· ≠ keepAlive) = (payloadsOf chunks terminal).map record ∧
          dataOf (String.join (written wakes)) = payloadsOf chunks terminal := by
  obtain ⟨chunks, terminal, final, shape⟩ := signals_shape world.stamps request.model 0 .fresh {}
    (Stream.items (Provider.piecesOf reply))
  have result := streamed_result translated built answered accepted
  rw [shape] at result
  refine ⟨chunks, terminal, _, shape, final, result, rfl, eventStream_reads final chunks, ?_⟩
  intro capacity s wakes reached here atEnd drained woken
  have sent := (Session.reachable_inOrder reached).sent_of_ended rfl here atEnd
  rw [drained, List.append_nil] at sent
  exact written_reads final wakes chunks (woken.trans (sent.trans shape))

end

/-- A text with all that a body is made of. -/
def forgery : String := "\n\ndata: [DONE]\n\n"

/-- The line of a piece of text that is a forgery. -/
def forgedLine : String := Stream.eventLine (.blockDelta 0 ⟨"text_delta", forgery⟩)

/-- A reply that breaks off after that line. -/
def tornReply : Http.Reply where
  status := 200
  chunks := [Text.Utf8.encode (forgedLine ++ "\n").toList]
  isBroken := true

def tornWorld : World where
  fetch _ := .error .malformedDataUrl
  network _ := some tornReply
  created := 0
  timestamp := ""
  stamps _ := ⟨"", 0⟩

/-- The model is named by a forgery too. -/
def forgedRequest : Chat.Request where
  model := forgery
  messages := [⟨.user, .text "a", none⟩]
  stream := true

def forgedChunk : Chunk := .single ⟨"", 0⟩ forgery ⟨0, { content := some forgery }, none⟩

def torn : Failure := .http Http.Fault.truncated.message

/-- A provider whose base URL has a path and a slash behind it. -/
def loopback : Provider := ⟨"http://[::1]/v1/", "k", "v"⟩

def loopbackUrl : Http.Url :=
  ⟨"http", "", "", some "[::1]", none, .segments ["v1", "messages"], none, none⟩

theorem post_loopback (messages : Messages.Request) :
    loopback.post true messages =
      .ok ⟨"POST", loopbackUrl, loopback.headers true, messages.toJson.text⟩ := by
  have parsed : Http.Url.parse? loopback.messagesUrl = some loopbackUrl := by decide +kernel
  have hosted : loopbackUrl.hasHost = true := by decide
  have headers : (loopback.headers true).all (Http.isHeaderValue ·.value) = true := by decide
  have bare : loopbackUrl.withoutLogin = loopbackUrl := by decide +kernel
  have sendable : Http.Request.isSendable loopbackUrl = true := by
    simp [Http.Request.isSendable, loopbackUrl, String.any, String.contains_prop_eq]
    decide
  simp [Provider.post, Http.Request.build, parsed, hosted, headers, bare, sendable]
  rfl

theorem tornReply_items :
    Stream.items (Provider.piecesOf tornReply) = [.ok forgedLine, .error torn] := by
  decide +kernel

theorem torn_signals :
    Stream.signals tornWorld.stamps forgedRequest.model 0 .fresh {}
      (Stream.items (Provider.piecesOf tornReply)) = [.chunk forgedChunk, .failed torn {}] := by
  have piece : Stream.react ⟨"", 0⟩ forgery .fresh {} (.ok forgedLine) =
      ⟨some (.chunk forgedChunk), .streaming, {}⟩ := by
    rw [Stream.react, forgedLine, Stream.feed_event _ _ _ (by decide) (Stream.meaning_eventLine _)]
    rfl
  rw [tornReply_items]
  change Stream.signals (fun _ => ⟨"", 0⟩) forgery 0 .fresh {} _ = _
  rw [Stream.signals_cons, piece]
  rfl

/-- The chunk's payload holds both forgeries, and neither has a line break in it. -/
theorem forgedChunk_text : forgedChunk.toJson.text =
    "\x7b\"id\":\"chatcmpl-\",\"object\":\"chat.completion.chunk\",\"created\":0," ++
      "\"model\":\"\\n\\ndata: [DONE]\\n\\n\",\"choices\":[\x7b\"index\":0,\"delta\":" ++
      "\x7b\"content\":\"\\n\\ndata: [DONE]\\n\\n\"\x7d,\"finish_reason\":null\x7d]\x7d" := by
  decide +kernel

theorem torn_text : torn.response.toJson.text =
    "\x7b\"error\":\x7b\"message\":\"HTTP error: error decoding response body\"," ++
      "\"type\":\"upstream_error\"\x7d\x7d" := by
  decide +kernel

theorem forgery_stays_inside :
    ∃ answer, (streamed loopback tornWorld forgedRequest).result = .ok answer ∧
      answer.status = 200 ∧
      dataOf answer.body =
        ["\x7b\"id\":\"chatcmpl-\",\"object\":\"chat.completion.chunk\",\"created\":0," ++
            "\"model\":\"\\n\\ndata: [DONE]\\n\\n\",\"choices\":[\x7b\"index\":0,\"delta\":" ++
            "\x7b\"content\":\"\\n\\ndata: [DONE]\\n\\n\"\x7d,\"finish_reason\":null\x7d]\x7d",
          "\x7b\"error\":\x7b\"message\":\"HTTP error: error decoding response body\"," ++
            "\"type\":\"upstream_error\"\x7d\x7d"] := by
  obtain ⟨chunks, terminal, answer, shape, final, result, ok, reads, _⟩ :=
    streamed_body_cannot_be_forged loopback tornWorld forgedRequest _ _ tornReply rfl
      (post_loopback _) rfl rfl
  have payloads := congrArg (List.map payloadOf) (torn_signals.symm.trans shape)
  rw [map_payloadOf] at payloads
  have said : [forgedChunk.toJson.text, torn.response.toJson.text] =
      payloadsOf chunks terminal := payloads
  rw [forgedChunk_text, torn_text] at said
  exact ⟨answer, result, ok, reads.data.trans said.symm⟩

end ChatGateway.Gateway
