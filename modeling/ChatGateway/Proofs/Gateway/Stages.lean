import ChatGateway.Gateway.Completions
import ChatGateway.Proofs.Messages.Conversation

/-!
Answering a chat request goes through stages: the text is read, the conversation is translated, a
call is made of it, and the call is sent. Each stage either ends the work with its failure or hands
on to the next, and only the last one calls the provider.
-/
namespace ChatGateway.Gateway

variable {provider : Provider} {world : World} {text : String} {chat : Chat.Request}
  {messages : Messages.Request} {post : Http.Request} {failure : Failure}

/-- The images of a conversation that are fetched, in order. -/
def fetched (world : World) (chat : Chat.Request) : List Effect :=
  (Messages.Request.ofChat world.fetch chat).effects.map .fetch

/-- What becomes of a call that is sent for a completion in one piece. -/
def wholeOutcome (world : World) (chat : Chat.Request) (post : Http.Request) :
    Except Failure Answer := do
  let response ← Provider.exchange world.network Provider.responseOf post
  let completion ← (Chat.Completion.ofResponse world.created chat.model response {}).1
  pure (.json 200 completion.toJson)

/-- What becomes of a call that is sent for a stream. -/
def streamedOutcome (world : World) (chat : Chat.Request) (post : Http.Request) :
    Except Failure Answer := do
  let items ← Provider.exchange world.network Provider.linesOf post
  pure (streamAnswer (Stream.signals world.stamps chat.model 0 .fresh {} items))

/-- What becomes of a call that is sent. -/
def outcome (world : World) (chat : Chat.Request) (post : Http.Request) : Except Failure Answer :=
  if chat.stream then streamedOutcome world chat post else wholeOutcome world chat post

theorem complete_unread (read : chatRequest text = .error failure) :
    complete provider world text = ⟨[], .error failure⟩ := by
  rw [complete, read]
  rfl

theorem complete_read (read : chatRequest text = .ok chat) :
    complete provider world text =
      if chat.stream then streamed provider world chat else whole provider world chat := by
  rw [complete, read]
  rfl

theorem complete_untranslated (read : chatRequest text = .ok chat)
    (refused : (Messages.Request.ofChat world.fetch chat).result = .error failure) :
    complete provider world text = ⟨fetched world chat, .error failure⟩ := by
  have stopped : (asked world chat).result = .error failure := refused
  rw [complete_read read]
  split
  · exact Traced.bind_failed _ stopped
  · exact Traced.bind_failed _ stopped

/-- The wish for a stream is passed on. -/
theorem stream_of_translated
    (translated : (Messages.Request.ofChat world.fetch chat).result = .ok messages) :
    messages.stream = chat.stream :=
  ((Messages.ofChat_meets world.fetch chat).of_ok translated).2.2.stream

/-- A stream asks for what it is already asked for. -/
theorem withStream_eq (stream : messages.stream = true) :
    { messages with stream := true } = messages := by
  rw [← stream]

theorem complete_unbuilt (read : chatRequest text = .ok chat)
    (translated : (Messages.Request.ofChat world.fetch chat).result = .ok messages)
    (unbuilt : provider.post chat.stream messages = .error failure) :
    complete provider world text = ⟨fetched world chat, .error failure⟩ := by
  have done : (asked world chat).result = .ok messages := translated
  have wish := stream_of_translated translated
  rw [complete_read read]
  cases stream : chat.stream with
  | true =>
    rw [stream] at unbuilt wish
    rw [if_pos rfl, streamed, Traced.bind_succeeded _ done, withStream_eq wish, unbuilt]
    exact congrArg (Traced.mk · _) (List.append_nil _)
  | false =>
    rw [stream] at unbuilt
    rw [if_neg Bool.false_ne_true, whole, Traced.bind_succeeded _ done, unbuilt]
    exact congrArg (Traced.mk · _) (List.append_nil _)

/-- The provider is called once, and after that nothing more is asked for. -/
theorem complete_called (read : chatRequest text = .ok chat)
    (translated : (Messages.Request.ofChat world.fetch chat).result = .ok messages)
    (built : provider.post chat.stream messages = .ok post) :
    complete provider world text =
      ⟨fetched world chat ++ [.post post], outcome world chat post⟩ := by
  have done : (asked world chat).result = .ok messages := translated
  have wish := stream_of_translated translated
  rw [complete_read read]
  cases stream : chat.stream with
  | true =>
    rw [stream] at built wish
    -- After the call its answer is only looked at.
    have called := Traced.ask_bind (Effect.post post)
      (Provider.exchange world.network Provider.linesOf post) fun items =>
        pure (streamAnswer (Stream.signals world.stamps chat.model 0 .fresh {} items))
    rw [if_pos rfl, streamed, Traced.bind_succeeded _ done, withStream_eq wish, built]
    rw [outcome, if_pos stream]
    exact congrArg (fun work : Traced Effect Answer => Traced.mk (_ ++ work.effects) work.result)
      called
  | false =>
    rw [stream] at built
    have called := Traced.ask_bind (Effect.post post)
      (Provider.exchange world.network Provider.responseOf post) fun response => do
        let completion ← (Chat.Completion.ofResponse world.created chat.model response {}).1
        pure (Answer.json 200 completion.toJson)
    simp only [← Traced.ofExcept_bind] at called
    rw [if_neg Bool.false_ne_true, whole, Traced.bind_succeeded _ done, built]
    rw [outcome, if_neg (by rw [stream]; decide)]
    exact congrArg (fun work : Traced Effect Answer => Traced.mk (_ ++ work.effects) work.result)
      called

theorem post_mem_complete (read : chatRequest text = .ok chat)
    (translated : (Messages.Request.ofChat world.fetch chat).result = .ok messages)
    (built : provider.post chat.stream messages = .ok post) :
    Effect.post post ∈ (complete provider world text).effects := by
  rw [complete_called read translated built]
  exact List.mem_append_right _ (List.mem_singleton_self _)

theorem post_not_mem_fetched : Effect.post post ∉ fetched world chat := by
  intro found
  obtain ⟨url, _, same⟩ := List.mem_map.mp found
  cases same

/-- The courses that the work on a text can take, one for each stage where it can end. -/
inductive Course (provider : Provider) (world : World) (text : String) :
    Traced Effect Answer → Prop where
  | unread {failure : Failure} (read : chatRequest text = .error failure) :
      Course provider world text ⟨[], .error failure⟩
  | untranslated {chat : Chat.Request} {failure : Failure} (read : chatRequest text = .ok chat)
      (refused : (Messages.Request.ofChat world.fetch chat).result = .error failure) :
      Course provider world text ⟨fetched world chat, .error failure⟩
  | unbuilt {chat : Chat.Request} {messages : Messages.Request} {failure : Failure}
      (read : chatRequest text = .ok chat)
      (translated : (Messages.Request.ofChat world.fetch chat).result = .ok messages)
      (unbuilt : provider.post chat.stream messages = .error failure) :
      Course provider world text ⟨fetched world chat, .error failure⟩
  | called {chat : Chat.Request} {messages : Messages.Request} {post : Http.Request}
      (read : chatRequest text = .ok chat)
      (translated : (Messages.Request.ofChat world.fetch chat).result = .ok messages)
      (built : provider.post chat.stream messages = .ok post) :
      Course provider world text ⟨fetched world chat ++ [.post post], outcome world chat post⟩

/-- The work takes one of the courses. -/
theorem complete_course (provider : Provider) (world : World) (text : String) :
    Course provider world text (complete provider world text) := by
  cases read : chatRequest text with
  | error failure =>
    rw [complete_unread read]
    exact .unread read
  | ok chat =>
    cases translated : (Messages.Request.ofChat world.fetch chat).result with
    | error failure =>
      rw [complete_untranslated read translated]
      exact .untranslated read translated
    | ok messages =>
      cases built : provider.post chat.stream messages with
      | error failure =>
        rw [complete_unbuilt read translated built]
        exact .unbuilt read translated built
      | ok post =>
        rw [complete_called read translated built]
        exact .called read translated built

/-- A call is only sent at the last stage. It carries the translated request, and its outcome is that
of the whole work. -/
theorem Course.of_post_mem {work : Traced Effect Answer} (course : Course provider world text work)
    (sent : Effect.post post ∈ work.effects) :
    ∃ chat messages, chatRequest text = .ok chat ∧
      (Messages.Request.ofChat world.fetch chat).result = .ok messages ∧
      provider.post chat.stream messages = .ok post ∧
      work = ⟨fetched world chat ++ [.post post], outcome world chat post⟩ := by
  cases course with
  | unread read => cases sent
  | untranslated read refused => exact absurd sent post_not_mem_fetched
  | unbuilt read translated unbuilt => exact absurd sent post_not_mem_fetched
  | called read translated built =>
    rcases List.mem_append.mp sent with early | last
    · exact absurd early post_not_mem_fetched
    · cases List.mem_singleton.mp last
      exact ⟨_, _, read, translated, built, rfl⟩

theorem exchange_answered {α : Type} {reply : Http.Reply}
    (answered : world.network post = some reply) (read : Http.Reply → Except Failure α) :
    Provider.exchange world.network read post = read reply := by
  simp only [Provider.exchange, Http.Request.send, answered]
  rfl

end ChatGateway.Gateway
