import ChatGateway.Proofs.Chat.CompletionText
import ChatGateway.Proofs.Chat.RequestText
import ChatGateway.Proofs.Gateway.Stages
import ChatGateway.Proofs.Gateway.Streamed
import ChatGateway.Proofs.Messages.RequestText
import ChatGateway.Proofs.Settings.SettingsText

/-!
Everything the gateway writes is read back as it was. In particular the provider reads, in what it
is sent, just the request that the client's request was translated to.
-/
namespace ChatGateway

theorem Http.Request.build_body {method url body : String} {headers : List Http.Header}
    {request : Http.Request} (built : build method url headers body = .ok request) :
    request.body = body := by
  unfold build at built
  cases parsed : Url.parse? url with
  | none =>
    rw [parsed] at built
    cases built
  | some url =>
    by_cases hosted : url.hasHost <;> by_cases legal : headers.all (isHeaderValue ·.value) <;>
      by_cases sendable : isSendable url.withoutLogin <;>
      simp only [parsed, hosted, legal, sendable] at built <;> cases built
    rfl

theorem Provider.post_body {provider : Provider} {streamed : Bool} {request : Messages.Request}
    {sent : Http.Request} (built : provider.post streamed request = .ok sent) :
    sent.body = request.toJson.text := by
  rw [post] at built
  cases made : Http.Request.build "POST" provider.messagesUrl (provider.headers streamed)
      request.toJson.text with
  | error fault =>
    rw [made] at built
    cases built
  | ok request =>
    rw [made] at built
    cases built
    exact Http.Request.build_body made

namespace Gateway

open Json (ReadsBack)

/-- A call sends its request, if that can be built. -/
theorem mem_call {α : Type} {world : World} {request : Except Failure Http.Request}
    {read : Http.Reply → Except Failure α} {sent : Http.Request} :
    Effect.post sent ∈ (call world request read).effects ↔ request = .ok sent := by
  constructor
  · intro asks
    rcases Traced.mem_bind_effects.mp asks with never | ⟨made, built, asked⟩
    · cases never
    · cases asked with
      | head => exact built
      | tail _ none => cases none
  · rintro rfl
    exact Traced.mem_bind_effects.mpr (.inr ⟨sent, rfl, .head _⟩)

/-- A stream asks the provider as soon as the request is translated. -/
theorem streamed_posts {provider : Provider} {world : World} {request : Chat.Request}
    {messages : Messages.Request} {sent : Http.Request}
    (translated : (asked world request).result = .ok messages)
    (built : provider.post true { messages with stream := true } = .ok sent) :
    Effect.post sent ∈ (streamed provider world request).effects := by
  refine Traced.mem_bind_effects.mpr (.inr ⟨messages, translated, ?_⟩)
  exact Traced.mem_bind_effects.mpr (.inl (mem_call.mpr built))

/-- Whichever way a request is answered, what is sent is the request it is translated to. -/
theorem complete_sends {provider : Provider} {world : World} {body : String} {chat : Chat.Request}
    {sent : Http.Request} (read : chatRequest body = .ok chat)
    (asks : Effect.post sent ∈ (complete provider world body).effects) :
    ∃ messages, (Messages.Request.ofChat world.fetch chat).result = .ok messages ∧
      sent.body = messages.toJson.text := by
  obtain ⟨_, messages, same, translated, built, _⟩ :=
    (complete_course provider world body).of_post_mem asks
  cases read.symm.trans same
  exact ⟨messages, translated, Provider.post_body built⟩

/-- What is written as JSON is read back from its text as the same value: requests in both
protocols, as far as their floats have texts of their own, completions, chunks, error envelopes and
settings. So whatever request a client sends and however it is answered, what is sent to the provider
denotes the request that it was translated to, the whole of it and nothing else. -/
theorem wire_texts_read_back :
    (∀ request : Chat.Request, (∀ x ∈ request.floats, ReadsBack x) →
      Json.decodeText Chat.Request.decoder request.toJson.text = .ok request) ∧
    (∀ request : Messages.Request, (∀ x ∈ request.floats, ReadsBack x) →
      Json.decodeText Messages.Request.decoder request.toJson.text = .ok request) ∧
    (∀ completion : Chat.Completion,
      Json.decodeText Chat.Completion.decoder completion.toJson.text = .ok completion) ∧
    (∀ chunk : Chat.Chunk, Json.decodeText Chat.Chunk.decoder chunk.toJson.text = .ok chunk) ∧
    (∀ response : Chat.ErrorResponse,
      Json.decodeText Chat.ErrorResponse.decoder response.toJson.text = .ok response) ∧
    (∀ (apiKey : String) (settings : Settings),
      Json.decodeText (Settings.decoder apiKey) settings.toJson.text = .ok settings) ∧
    ∀ (provider : Provider) (world : World) (body : String) (chat : Chat.Request)
      (sent : Http.Request), chatRequest body = .ok chat → (∀ x ∈ chat.floats, ReadsBack x) →
      Effect.post sent ∈ (complete provider world body).effects →
      ∃ messages, (Messages.Request.ofChat world.fetch chat).result = .ok messages ∧
        Json.decodeText Messages.Request.decoder sent.body = .ok messages := by
  refine ⟨Chat.Request.decodeText_toJson, Messages.Request.decodeText_toJson,
    Chat.Completion.decodeText_toJson, Chat.Chunk.decodeText_toJson,
    Chat.ErrorResponse.decodeText_toJson, Settings.decodeText_toJson, ?_⟩
  intro provider world body chat sent read written asks
  obtain ⟨messages, translated, carried⟩ := complete_sends read asks
  obtain ⟨_, _, passes⟩ := (Messages.ofChat_meets world.fetch chat).of_ok translated
  have floats : messages.floats = chat.floats := by
    rw [Messages.Request.floats, Chat.Request.floats, passes.temperature, passes.topP]
  refine ⟨messages, translated, ?_⟩
  rw [carried, Messages.Request.decodeText_toJson messages (by rw [floats]; exact written)]

/-- The 32-bit float nearest to 0.7. -/
def mild : Number.Floating := .finite false ⟨11744051, -24⟩

/-- A request with a float, parts and stop texts. -/
def question : Chat.Request where
  model := "m"
  messages := [⟨.system, .text "Be brief.\n", none⟩, ⟨.user, .parts [.text "\"a\""], some "b"⟩]
  temperature := some mild
  stop := some (.many ["x", ""])
  stream := true

theorem mild_readsBack : ReadsBack mild := ⟨rfl, by decide +kernel⟩

theorem question_reaches_provider :
    ∃ messages sent, Effect.post sent ∈
        (complete loopback tornWorld question.toJson.text).effects ∧
      (Messages.Request.ofChat tornWorld.fetch question).result = .ok messages ∧
      Json.decodeText Messages.Request.decoder sent.body = .ok messages := by
  have floats : ∀ x ∈ question.floats, ReadsBack x := by
    intro x found
    rw [List.mem_singleton.mp found]
    exact mild_readsBack
  obtain ⟨requests, _, _, _, _, _, upstream⟩ := wire_texts_read_back
  have read : chatRequest question.toJson.text = .ok question := by
    rw [chatRequest, requests question floats]
    rfl
  obtain ⟨messages, translated⟩ : ∃ messages, (asked tornWorld question).result = .ok messages :=
    ⟨_, rfl⟩
  have asks := streamed_posts translated (post_loopback _)
  have same : (complete loopback tornWorld question.toJson.text).effects =
      (streamed loopback tornWorld question).effects := by
    rw [complete, read]
    rfl
  rw [← same] at asks
  obtain ⟨messages, translated, decoded⟩ := upstream _ _ _ _ _ read floats asks
  exact ⟨messages, _, asks, translated, decoded⟩

end Gateway

end ChatGateway
