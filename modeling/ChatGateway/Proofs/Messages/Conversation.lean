import ChatGateway.Messages.OfChat
import ChatGateway.Proofs.Traced

/-!
A conversation is passed on part by part. `needsOf` lists in reading order what has to go well: each
image of a user or an assistant has to be fetched, and a system prompt has to be plain text. The
first need that fails is the failure of the request and the last image that is asked for; when none
fails, `PassesOn` relates the two requests part by part.
-/
namespace ChatGateway.Messages

/-- What has to go well for a conversation to be passed on. -/
inductive Need where
  | plainPrompt (content : Chat.Content)
  | image (url : String)
  deriving DecidableEq, Repr

namespace Need

/-- Only images are asked for. -/
def url? : Need → Option String
  | plainPrompt _ => none
  | image url => some url

def failure? (fetch : Image.Fetcher) : Need → Option Failure
  | plainPrompt (.text _) => none
  | plainPrompt (.parts _) =>
    some (.invalidRequest "System message content must be a string")
  | image url =>
    match fetch url with
    | .ok _ => none
    | .error error => some (.invalidImage error.message)

def ofPart : Chat.Part → List Need
  | .text _ => []
  | .image reference => [image reference.url]

def ofContent : Chat.Content → List Need
  | .text _ => []
  | .parts parts => parts.flatMap ofPart

/-- The parts of a system prompt are not looked at. -/
def ofMessage (message : Chat.Message) : List Need :=
  match message.role with
  | .system => [plainPrompt message.content]
  | .user | .assistant => ofContent message.content

end Need

/-- The needs of a conversation in reading order. -/
def needsOf (messages : List Chat.Message) : List Need := messages.flatMap Need.ofMessage

/-- A part and the block that shows it. -/
inductive ShowsPart (fetch : Image.Fetcher) : Chat.Part → Block → Prop where
  | text (text : String) : ShowsPart fetch (.text text) (.text text)
  | image (reference : Chat.ImageUrl) (inline : Image.Inline)
      (fetched : fetch reference.url = .ok inline) :
      ShowsPart fetch (.image reference) (.image (.base64 inline.mediaType inline.data))

/-- A content and its blocks, one for each part. -/
inductive ShowsContent (fetch : Image.Fetcher) : Chat.Content → List Block → Prop where
  | text (text : String) : ShowsContent fetch (.text text) [.text text]
  | parts {parts : List Chat.Part} {blocks : List Block}
      (each : List.Forall₂ (ShowsPart fetch) parts blocks) :
      ShowsContent fetch (.parts parts) blocks

/-- The two roles that are passed on. -/
inductive SameRole : Chat.Role → Role → Prop where
  | user : SameRole .user .user
  | assistant : SameRole .assistant .assistant

structure ShowsMessage (fetch : Image.Fetcher) (said : Chat.Message) (passed : Message) : Prop where
  sameRole : SameRole said.role passed.role
  content : ShowsContent fetch said.content passed.content

/-- The text of a system prompt. -/
def promptText? (message : Chat.Message) : Option String :=
  match message.role, message.content with
  | .system, .text text => some text
  | _, _ => none

/-- The messages that keep their place. -/
def turnsOf (messages : List Chat.Message) : List Chat.Message :=
  messages.filter (·.role ≠ .system)

/-- The stop sequences for the stop of a chat request: one string is a list of one, a list stays as
it is, and where there is nothing to stop at there is no list. -/
inductive StopsAt : Option Chat.Stop → Option (List String) → Prop where
  | single (text : String) : StopsAt (some (.single text)) (some [text])
  | many {texts : List String} (stated : texts ≠ []) : StopsAt (some (.many texts)) (some texts)
  | empty : StopsAt (some (.many [])) none
  | unset : StopsAt none none

/-- What the messages request has of the chat request. -/
structure PassesOn (fetch : Image.Fetcher) (request : Chat.Request) (asked : Request) : Prop where
  messages : List.Forall₂ (ShowsMessage fetch) (turnsOf request.messages) asked.messages
  lastPrompt : asked.system = (request.messages.filterMap promptText?).getLast?
  model : asked.model = request.model
  limitGiven : ∀ n, request.maxTokens = some n → 0 < n → asked.maxTokens = n
  limitDefault : request.maxTokens = none ∨ request.maxTokens = some 0 → asked.maxTokens = 4096
  stops : StopsAt request.stop asked.stopSequences
  temperature : asked.temperature = request.temperature
  topP : asked.topP = request.topP
  stream : asked.stream = request.stream

open Traced (Meets)

theorem Block.ofPart_meets (fetch : Image.Fetcher) (part : Chat.Part) :
    Meets Need.url? (Need.failure? fetch) (Need.ofPart part) (ShowsPart fetch part)
      (Block.ofPart fetch part) := by
  cases part with
  | text s => exact .succeed (.text s)
  | image reference =>
    rw [Block.ofPart]
    cases fetched : fetch reference.url with
    | ok inline =>
      have fine : Need.failure? fetch (.image reference.url) = none := by
        rw [Need.failure?, fetched]
      exact Meets.one (Need.image reference.url) fine (.image reference inline fetched)
    | error error =>
      have fails : Need.failure? fetch (.image reference.url) =
          some (.invalidImage error.message) := by
        rw [Need.failure?, fetched]
      exact Meets.oneFails (Need.image reference.url) fails

theorem Block.ofContent_meets (fetch : Image.Fetcher) (content : Chat.Content) :
    Meets Need.url? (Need.failure? fetch) (Need.ofContent content) (ShowsContent fetch content)
      (Block.ofContent fetch content) := by
  cases content with
  | text s => exact .succeed (.text s)
  | parts parts =>
    have each := Meets.forEach Need.ofPart parts (Block.ofPart_meets fetch)
    exact each.mono fun blocks shown => .parts shown

theorem systemText_meets (fetch : Image.Fetcher) (content : Chat.Content) :
    Meets Need.url? (Need.failure? fetch) [.plainPrompt content] (fun text => content = .text text)
      (Traced.ofExcept (systemText content)) := by
  cases content with
  | text s => exact Meets.one (Need.plainPrompt (.text s)) rfl rfl
  | parts parts => exact Meets.oneFails (Need.plainPrompt (.parts parts)) rfl

/-- What messages lead to when the prompt before them is `system`. -/
def Continues (fetch : Image.Fetcher) (system : Option String) (messages : List Chat.Message)
    (read : Option String × List Message) : Prop :=
  List.Forall₂ (ShowsMessage fetch) (turnsOf messages) read.2 ∧
    read.1 = ((messages.filterMap promptText?).getLast?).or system

/-- A message that is no system prompt keeps its place and its needs are those of its content. -/
theorem read_turn {message : Chat.Message} (turn : message.role ≠ .system)
    (rest : List Chat.Message) :
    needsOf (message :: rest) = Need.ofContent message.content ++ needsOf rest ∧
      turnsOf (message :: rest) = message :: turnsOf rest ∧
      (message :: rest).filterMap promptText? = rest.filterMap promptText? := by
  have noPrompt : promptText? message = none := by
    unfold promptText?
    cases role : message.role with
    | system => exact absurd role turn
    | user | assistant => rfl
  have needs : Need.ofMessage message = Need.ofContent message.content := by
    unfold Need.ofMessage
    cases role : message.role with
    | system => exact absurd role turn
    | user | assistant => rfl
  refine ⟨?_, ?_, ?_⟩
  · rw [needsOf, List.flatMap_cons, needs]
    rfl
  · exact List.filter_cons_of_pos (decide_eq_true turn)
  · exact List.filterMap_cons_none noPrompt

theorem turn_meets {fetch : Image.Fetcher} {system : Option String} {message : Chat.Message}
    {rest : List Chat.Message} {role : Role} {later : Traced String (Option String × List Message)}
    (turn : message.role ≠ .system) (sameRole : SameRole message.role role)
    (meets : Meets Need.url? (Need.failure? fetch) (needsOf rest) (Continues fetch system rest)
      later) :
    Meets Need.url? (Need.failure? fetch) (needsOf (message :: rest))
      (Continues fetch system (message :: rest)) (do
        let blocks ← Block.ofContent fetch message.content
        let (system, messages) ← later
        pure (system, ⟨role, blocks⟩ :: messages)) := by
  obtain ⟨needs, turns, prompts⟩ := read_turn turn rest
  rw [needs]
  refine (Block.ofContent_meets fetch message.content).andThen fun blocks shown => ?_
  refine meets.andReturn fun read continues => ?_
  obtain ⟨related, prompt⟩ := continues
  rw [Continues, turns, prompts]
  exact ⟨.cons ⟨sameRole, shown⟩ related, prompt⟩

/-- A system prompt takes the place of the one before it. -/
theorem prompt_meets {fetch : Image.Fetcher} {system : Option String} {message : Chat.Message}
    {rest : List Chat.Message} {later : String → Traced String (Option String × List Message)}
    (prompts : message.role = .system)
    (meets : ∀ text, Meets Need.url? (Need.failure? fetch) (needsOf rest)
      (Continues fetch (some text) rest) (later text)) :
    Meets Need.url? (Need.failure? fetch) (needsOf (message :: rest))
      (Continues fetch system (message :: rest)) (do
        let text ← Traced.ofExcept (systemText message.content)
        later text) := by
  have needs : needsOf (message :: rest) = [.plainPrompt message.content] ++ needsOf rest := by
    rw [needsOf, List.flatMap_cons, Need.ofMessage, prompts]
    rfl
  have turns : turnsOf (message :: rest) = turnsOf rest :=
    List.filter_cons_of_neg (by simp [prompts])
  rw [needs]
  refine (systemText_meets fetch message.content).andThen fun text plain => ?_
  refine (meets text).mono fun read continues => ?_
  obtain ⟨related, prompt⟩ := continues
  have said : promptText? message = some text := by rw [promptText?, prompts, plain]
  rw [Continues, turns, List.filterMap_cons_some said, List.getLast?_cons, prompt, Option.or_some]
  exact ⟨related, rfl⟩

theorem ofConversation_meets (fetch : Image.Fetcher) (system : Option String)
    (messages : List Chat.Message) :
    Meets Need.url? (Need.failure? fetch) (needsOf messages) (Continues fetch system messages)
      (ofConversation fetch system messages) := by
  induction messages generalizing system with
  | nil => exact .succeed ⟨.nil, rfl⟩
  | cons message rest ih =>
    rw [ofConversation]
    cases role : message.role with
    | system => exact prompt_meets role fun text => ih (some text)
    | user => exact turn_meets (by simp [role]) (role ▸ .user) (ih system)
    | assistant => exact turn_meets (by simp [role]) (role ▸ .assistant) (ih system)

theorem maxTokensOf_given {n : UInt32} (positive : 0 < n) : maxTokensOf (some n) = n :=
  if_pos positive

theorem stopSequencesOf_stopsAt (stop : Option Chat.Stop) :
    StopsAt stop (stopSequencesOf stop) := by
  cases stop with
  | none => exact .unset
  | some given =>
    cases given with
    | single text => exact .single text
    | many texts =>
      cases texts with
      | nil => exact .empty
      | cons text texts => exact .many (List.cons_ne_nil text texts)

theorem ofChat_meets (fetch : Image.Fetcher) (request : Chat.Request) :
    Meets Need.url? (Need.failure? fetch) (needsOf request.messages) (PassesOn fetch request)
      (Request.ofChat fetch request) := by
  refine (ofConversation_meets fetch none request.messages).andReturn fun read continues => ?_
  obtain ⟨related, prompt⟩ := continues
  exact {
    messages := related
    lastPrompt := by rw [prompt, Option.or_none]
    model := rfl
    limitGiven := fun n given positive => by
      rw [given]
      exact maxTokensOf_given positive
    limitDefault := fun unset => by
      rcases unset with unset | unset <;> rw [unset] <;> rfl
    stops := stopSequencesOf_stopsAt request.stop
    temperature := rfl
    topP := rfl
    stream := rfl }

/-- A chat request is read from front to back. It is refused exactly if a need of its conversation
fails, with the failure of the first such need, and the images asked for are those read up to there.
Otherwise every image is asked for as often as it is read, and all that the request holds is passed
on in its order. -/
theorem ofChat_reads_in_order (fetch : Image.Fetcher) (request : Chat.Request) :
    let needs := needsOf request.messages
    let work := Request.ofChat fetch request
    ((∃ failure, work.result = .error failure) ↔
      ∃ need ∈ needs, (need.failure? fetch).isSome) ∧
    (∀ failure, work.result = .error failure →
      ∃ before need after, needs = before ++ need :: after ∧
        (∀ earlier ∈ before, earlier.failure? fetch = none) ∧
        need.failure? fetch = some failure ∧
        work.effects = (before ++ [need]).filterMap Need.url?) ∧
    ∀ asked, work.result = .ok asked →
      (∀ need ∈ needs, need.failure? fetch = none) ∧
      work.effects = needs.filterMap Need.url? ∧ PassesOn fetch request asked := by
  have meets := ofChat_meets fetch request
  exact ⟨meets.fails_iff, fun _ failed => meets.of_error failed, fun _ read => meets.of_ok read⟩

def onlyFirst : Image.Fetcher := fun url =>
  if url = "a" then .ok ⟨"image/png", "iVBORw0KGgo="⟩ else .error (.status 404)

/-- Two images of which the second is not found, and a system prompt in parts after them. -/
def faulty : Chat.Request where
  model := "m"
  messages := [
    ⟨.user, .parts [.image ⟨"a", none⟩, .text "and", .image ⟨"b", none⟩], none⟩,
    ⟨.system, .parts [], none⟩]

/-- Two system prompts around an image, and one string to stop at. -/
def sound : Chat.Request where
  model := "m"
  messages := [⟨.system, .text "first", none⟩,
    ⟨.user, .parts [.image ⟨"a", none⟩, .text "and"], none⟩, ⟨.system, .text "second", none⟩]
  stop := some (.single "END")

theorem faulty_refused_sound_passed :
    ((Request.ofChat onlyFirst faulty).result =
        .error (.invalidImage "image download returned HTTP 404") ∧
      (Request.ofChat onlyFirst faulty).effects = ["a", "b"]) ∧
      ∃ asked, (Request.ofChat onlyFirst sound).result = .ok asked ∧
        (Request.ofChat onlyFirst sound).effects = ["a"] ∧
        asked.messages = [⟨.user, [.image (.base64 "image/png" "iVBORw0KGgo="), .text "and"]⟩] ∧
        asked.system = some "second" ∧ asked.stopSequences = some ["END"] ∧
        asked.maxTokens = 4096 := by
  constructor
  · obtain ⟨refused, told, _⟩ := ofChat_reads_in_order onlyFirst faulty
    have needs : needsOf faulty.messages = [.image "a", .image "b", .plainPrompt (.parts [])] := rfl
    rw [needs] at refused told
    obtain ⟨failure, failed⟩ := refused.mpr ⟨.image "b", by simp, rfl⟩
    obtain ⟨before, need, after, split, fine, own, effects⟩ := told failure failed
    -- The first need is met and the second is not.
    rcases before with _ | ⟨first, _ | ⟨second, later⟩⟩
    · cases split
      cases own
    · cases split
      cases own
      exact ⟨failed, effects⟩
    · rw [List.cons_append, List.cons_append, List.cons.injEq, List.cons.injEq] at split
      obtain ⟨_, rfl, _⟩ := split
      cases fine (.image "b") (by simp)
  · obtain ⟨asked, read⟩ : ∃ asked, (Request.ofChat onlyFirst sound).result = .ok asked := ⟨_, rfl⟩
    obtain ⟨_, _, passed⟩ := ofChat_reads_in_order onlyFirst sound
    obtain ⟨_, effects, passes⟩ := passed asked read
    have stops : StopsAt (some (.single "END")) asked.stopSequences := passes.stops
    have stopped : asked.stopSequences = some ["END"] := by
      generalize asked.stopSequences = texts at stops
      cases stops
      rfl
    have messages : asked.messages =
        [⟨.user, [.image (.base64 "image/png" "iVBORw0KGgo="), .text "and"]⟩] := by
      cases read
      rfl
    exact ⟨asked, read, effects, messages, passes.lastPrompt, stopped,
      passes.limitDefault (.inl rfl)⟩

end ChatGateway.Messages
