import ChatGateway.Proofs.Stream.Rendition

/-!
The two ways of answering tell the same. Fed to a fresh relay, the lines that tell a response give
a completion in chunks with the role, the texts, the reason and the count of the completion that
the response gives in one piece.
-/
namespace ChatGateway.Chat

/-- What a chunk adds to the choice of the given index. -/
def Chunk.pieces (index : UInt32) (chunk : Chunk) : List String :=
  (chunk.choices.filter (·.index = index)).filterMap (·.delta.content)

/-- The content that a client puts together for the choice of the given index. -/
def Chunk.contentAt (index : UInt32) (chunks : List Chunk) : String :=
  String.join (chunks.flatMap (Chunk.pieces index))

namespace Chunk

theorem contentAt_cons (index : UInt32) (chunk : Chunk) (chunks : List Chunk) :
    contentAt index (chunk :: chunks) =
      String.join (chunk.pieces index) ++ contentAt index chunks := by
  simp only [contentAt, List.flatMap_cons, String.join_append]

theorem contentAt_append (index : UInt32) (chunks more : List Chunk) :
    contentAt index (chunks ++ more) = contentAt index chunks ++ contentAt index more := by
  simp only [contentAt, List.flatMap_append, String.join_append]

theorem pieces_single (index : UInt32) (stamp : Stamp) (model : String) (choice : ChunkChoice) :
    (single stamp model choice).pieces index =
      if choice.index = index then choice.delta.content.toList else [] := by
  unfold pieces single
  by_cases same : choice.index = index
  · cases given : choice.delta.content <;> simp [same, given]
  · simp [same]

end Chunk

end ChatGateway.Chat

namespace ChatGateway.Stream

open Chat (Chunk Completion FinishReason Stamp)
open Messages (BlockDelta Ending EndingUsage Event MessageStart Response ResponseBlock)

/-- The text of the block at a place, if it is a text block. -/
def textAt (blocks : List ResponseBlock) (place : Nat) : String :=
  match blocks[place]? with
  | some block => if block.IsText then block.text else ""
  | none => ""

theorem completionText_suits {block : ResponseBlock} {delta : BlockDelta}
    (suits : Suits block delta) :
    String.join delta.completionText.toList = if block.IsText then delta.text else "" := by
  unfold BlockDelta.completionText
  cases suits with
  | text isText kind =>
    by_cases empty : delta.text = ""
    · simp [empty]
    · simp [kind, empty, isText]
  | other noText typed kind => simp [typed, kind, noText]

/-- Neither role nor reason, as in every chunk of a delta. -/
def ContentOnly (chunk : Chunk) : Prop :=
  ∀ choice ∈ chunk.choices, choice.delta.role = none ∧ choice.finishReason = none

variable {stamps : Stamps} {model : String} {usage : Chat.Usage}

/-- What a streaming relay makes of lines: one chunk of each, which together have the content
`content`, and no change of its own state. -/
structure Relays (stamps : Stamps) (model : String) (usage : Chat.Usage) (place : Nat)
    (lines : List String) (chunks : List Chunk) (content : UInt32 → String) : Prop where
  steps : (feedAll stamps model place .streaming usage lines).map Outcome.step =
    chunks.map fun chunk => .ok (.chunk chunk)
  phase : phaseAfter .streaming (feedAll stamps model place .streaming usage lines) = .streaming
  usage : usageAfter usage (feedAll stamps model place .streaming usage lines) = usage
  plain : ∀ chunk ∈ chunks, ContentOnly chunk
  content : ∀ index, Chunk.contentAt index chunks = content index

theorem Relays.append {place : Nat} {lines more : List String} {chunks others : List Chunk}
    {content further : UInt32 → String}
    (first : Relays stamps model usage place lines chunks content)
    (second : Relays stamps model usage (place + lines.length) more others further) :
    Relays stamps model usage place (lines ++ more) (chunks ++ others)
      (fun index => content index ++ further index) where
  steps := by
    rw [feedAll_append, first.phase, first.usage, List.map_append, first.steps, second.steps,
      List.map_append]
  phase := by rw [feedAll_append, first.phase, first.usage, phaseAfter_append, first.phase,
    second.phase]
  usage := by rw [feedAll_append, first.phase, first.usage, usageAfter_append, first.usage,
    second.usage]
  plain chunk member := by
    rcases List.mem_append.mp member with member | member
    · exact first.plain chunk member
    · exact second.plain chunk member
  content index := by rw [Chunk.contentAt_append, first.content, second.content]

theorem relays_nil (stamps : Stamps) (model : String) (usage : Chat.Usage) (place : Nat) :
    Relays stamps model usage place [] [] (fun _ => "") where
  steps := rfl
  phase := rfl
  usage := rfl
  plain _ member := absurd member List.not_mem_nil
  content _ := rfl

/-- The lines of one block: what they add goes to the block's own index and nowhere else. -/
theorem deltaLines_relay (stamps : Stamps) (model : String) (usage : Chat.Usage) {k : Nat}
    {block : ResponseBlock} {deltas : List BlockDelta} {lines : List String}
    (carried : DeltaLines k block deltas lines) (place : Nat) :
    ∃ chunks, Relays stamps model usage place lines chunks fun index =>
      if index.toNat = k ∧ block.IsText then String.join (deltas.map BlockDelta.text)
      else "" := by
  induction carried generalizing place with
  | nil =>
    refine ⟨[], ?_⟩
    simp only [List.map_nil, String.join_nil, ite_self]
    exact relays_nil stamps model usage place
  | @cons line index delta deltas lines means placed suits later ih =>
    obtain ⟨chunks, rest⟩ := ih (place + 1)
    have isOpen : Phase.streaming ≠ .closed := by decide
    have fed := feed_event (stamps place) model usage isOpen means
    refine ⟨.single (stamps place) model
      ⟨index, { content := delta.completionText }, none⟩ :: chunks, ?_, ?_, ?_, ?_, ?_⟩
    · simp only [feedAll, fed, ofEvent, chunkOf, List.map_cons, rest.steps]
    · simp only [feedAll, fed, ofEvent, phaseAfter, rest.phase]
    · simp only [feedAll, fed, ofEvent, usageAfter, rest.usage]
    · intro chunk member
      rcases List.mem_cons.mp member with rfl | member
      · intro choice member
        cases List.mem_singleton.mp member
        exact ⟨rfl, rfl⟩
      · exact rest.plain chunk member
    · intro asked
      rw [Chunk.contentAt_cons, Chunk.pieces_single, rest.content asked]
      have own : index = asked ↔ asked.toNat = k := by
        rw [← placed, eq_comm]
        exact UInt32.toNat_inj.symm
      by_cases here : index = asked
      · simp only [if_pos here, completionText_suits suits, own.mp here, true_and]
        split <;> simp
      · simp [here, mt own.mpr here]

/-- The lines of all blocks give each text block its text, under the index of its place. -/
theorem blockLines_relay (stamps : Stamps) (model : String) (usage : Chat.Usage) {k : Nat}
    {blocks : List ResponseBlock} {lines : List String}
    (told : BlockLines k blocks lines) (place : Nat) :
    ∃ chunks, Relays stamps model usage place lines chunks fun index =>
      if k ≤ index.toNat then textAt blocks (index.toNat - k) else "" := by
  induction told generalizing place with
  | nil k =>
    refine ⟨[], ?_⟩
    simp only [textAt, List.getElem?_nil, ite_self]
    exact relays_nil stamps model usage place
  | @cons k block deltas blocks lines more carried whole later ih =>
    obtain ⟨chunks, first⟩ := deltaLines_relay stamps model usage carried place
    obtain ⟨others, second⟩ := ih (place + lines.length)
    have same : (fun index : UInt32 =>
          if k ≤ index.toNat then textAt (block :: blocks) (index.toNat - k) else "") =
        fun index =>
          (if index.toNat = k ∧ block.IsText then
            String.join (deltas.map BlockDelta.text) else "") ++
          if k + 1 ≤ index.toNat then textAt blocks (index.toNat - (k + 1)) else "" := by
      funext index
      -- the index is that of an earlier block, of this one or of a later one
      rcases Nat.lt_trichotomy index.toNat k with before | here | after
      · simp [Nat.not_le.mpr before, Nat.ne_of_lt before,
          Nat.not_le.mpr (Nat.lt_succ_of_lt before)]
      · subst here
        rw [if_pos (Nat.le_refl _), if_neg (Nat.not_succ_le_self _), Nat.sub_self,
          String.append_empty]
        by_cases isText : block.IsText
        · simp [textAt, isText, whole isText]
        · simp [textAt, isText]
      · have next : index.toNat - k = (index.toNat - (k + 1)) + 1 := by omega
        simp [Nat.le_of_lt after, Nat.ne_of_gt after, Nat.succ_le_of_lt after, next, textAt]
    rw [same]
    exact ⟨chunks ++ others, first.append second⟩

/-- The completion that a response without a failure gives in one piece. -/
theorem ofResponse_success (created : Int64) (model : String) (response : Response)
    (usage : Chat.Usage) (sound : ∀ fault, response.error = some fault → fault.isEmpty = true) :
    Completion.ofResponse created model response usage =
      (.ok {
        id := response.id
        kind := "chat.completion"
        created
        model
        choices := [⟨0, ⟨response.role, Chat.contentOf response.content⟩,
          response.stopReason.map FinishReason.ofStopReason⟩]
        usage := some (.ofCounts response.usage.inputTokens response.usage.outputTokens) },
        .ofCounts response.usage.inputTokens response.usage.outputTokens) := by
  have none : ProviderFailure.ofFault? response.error = none := by
    cases reported : response.error with
    | none => rfl
    | some fault => simp [ProviderFailure.ofFault?, sound fault reported]
  simp only [Completion.ofResponse, none]

theorem textAt_first {earlier : List ResponseBlock} {block : ResponseBlock}
    (isText : block.IsText) (later : List ResponseBlock) :
    textAt (earlier ++ block :: later) earlier.length = block.text := by
  simp [textAt, isText]

/-- The chunks of a stream say what a choice of a completion says: the first chunk alone has its
role and the last alone its reason, every text block arrives whole under the index of its place and
nothing else arrives, and the first text block, without its lead, is its content. -/
structure SaysSame (answer : Chat.Choice) (blocks : List ResponseBlock) (first : Chunk)
    (middle : List Chunk) (last : Chunk) : Prop where
  opening : first.choices =
    [⟨0, ⟨if answer.message.role = "" then none else some answer.message.role, none⟩, none⟩]
  plain : ∀ chunk ∈ middle, ContentOnly chunk
  closing : last.choices = [⟨0, {}, answer.finishReason⟩]
  texts : ∀ index, Chunk.contentAt index (first :: middle ++ [last]) = textAt blocks index.toNat
  content : ∀ (index : UInt32) (earlier : List ResponseBlock) (block : ResponseBlock) later,
    blocks = earlier ++ block :: later → earlier.length = index.toNat →
    (∀ other ∈ earlier, ¬ other.IsText) → block.IsText →
    Chat.Unspaced (Chunk.contentAt index (first :: middle ++ [last])) answer.message.content
  noContent : (∀ block ∈ blocks, ¬ block.IsText) → answer.message.content = ""

/-- A chunk without content adds nothing for any index. -/
theorem pieces_bare {index : UInt32} {stamp : Stamp} {role : Option String}
    {reason : Option FinishReason} :
    (Chunk.single stamp model ⟨0, ⟨role, none⟩, reason⟩).pieces index = [] := by
  rw [Chunk.pieces_single]
  split <;> rfl

theorem saysSame_of_relays {response : Response} {lines : List String} {middle : List Chunk}
    {place : Nat} (before after : Stamp)
    (relayed : Relays stamps model usage place lines middle fun index =>
      if 0 ≤ index.toNat then textAt response.content (index.toNat - 0) else "") :
    SaysSame
      ⟨0, ⟨response.role, Chat.contentOf response.content⟩,
        response.stopReason.map FinishReason.ofStopReason⟩ response.content
      (.single before model
        ⟨0, ⟨if response.role = "" then none else some response.role, none⟩, none⟩)
      middle
      (.single after model ⟨0, {}, response.stopReason.map FinishReason.ofStopReason⟩) := by
  have texts (index : UInt32) : Chunk.contentAt index
      (.single before model
        ⟨0, ⟨if response.role = "" then none else some response.role, none⟩, none⟩ :: middle ++
        [.single after model ⟨0, {}, response.stopReason.map FinishReason.ofStopReason⟩]) =
      textAt response.content index.toNat := by
    have own := relayed.content index
    rw [if_pos (Nat.zero_le _), Nat.sub_zero] at own
    rw [Chunk.contentAt_append, Chunk.contentAt_cons, pieces_bare, own, Chunk.contentAt_cons,
      pieces_bare]
    simp [Chunk.contentAt]
  refine ⟨rfl, relayed.plain, rfl, texts, ?_, ?_⟩
  · rintro index earlier block later split place noText isText
    rw [texts, split, ← place, textAt_first isText, Chat.contentOf_of_first noText isText]
    exact Chat.unspaced_withoutLead block.text
  · exact Chat.contentOf_of_noText

/-- The last two lines of a rendition make one chunk, set the counts and close the relay. -/
theorem feedAll_ending {ending stop : String} {reason : Ending} {output : EndingUsage}
    (finishes : meaning ending = .event (.messageDelta reason output))
    (stops : meaning stop = .event .messageStop) (place : Nat) :
    feedAll stamps model place .streaming usage [ending, stop] =
      [⟨.ok (.chunk (.single (stamps place) model
          ⟨0, {}, reason.stopReason.map FinishReason.ofStopReason⟩)), .streaming,
          .ofCounts usage.promptTokens output.outputTokens⟩,
        ⟨.ok .done, .closed, .ofCounts usage.promptTokens output.outputTokens⟩] := by
  have isOpen : Phase.streaming ≠ .closed := by decide
  have finished := feed_event (stamps place) model usage isOpen finishes
  have stopped := feed_event (stamps (place + 1)) model
    (.ofCounts usage.promptTokens output.outputTokens) isOpen stops
  simp only [feedAll, finished, ofEvent, chunkOf]
  exact congrArg (List.cons _) (congrArg (List.cons · []) stopped)

/-- Told in lines or given in one piece, a response is the same completion: the relay makes a chunk
of every line but the last, is done with that one, ends with the same token count, and its chunks
say the same. -/
theorem rendition_agrees (stamps : Stamps) (created : Int64) (model : String) (usage : Chat.Usage)
    (response : Response) (lines : List String)
    (sound : ∀ fault, response.error = some fault → fault.isEmpty = true)
    (told : Rendition response lines) :
    ∃ (completion : Completion) (answer : Chat.Choice) (counted : Chat.Usage)
      (first last : Chunk) (middle : List Chunk),
      Completion.ofResponse created model response usage = (.ok completion, counted) ∧
      completion.choices = [answer] ∧
      (feedAll stamps model 0 .fresh usage lines).map Outcome.step =
        (first :: middle ++ [last]).map (fun chunk => .ok (.chunk chunk)) ++ [.ok .done] ∧
      phaseAfter .fresh (feedAll stamps model 0 .fresh usage lines) = .closed ∧
      usageAfter usage (feedAll stamps model 0 .fresh usage lines) = counted ∧
      SaysSame answer response.content first middle last := by
  cases told with
  | @mk start ending stop lines message reason output starts role input blocks finishes stopReason
      counts stops =>
    obtain ⟨middle, relayed⟩ := blockLines_relay stamps model
      { usage with promptTokens := message.usage.inputTokens } blocks 1
    have isOpen : Phase.fresh ≠ .closed := by decide
    have begun := feed_event (stamps 0) model usage isOpen starts
    have fed : feedAll stamps model 0 .fresh usage (start :: lines ++ [ending, stop]) =
        ofEvent (stamps 0) model .fresh usage (.messageStart message) ::
          (feedAll stamps model 1 .streaming
              { usage with promptTokens := message.usage.inputTokens } lines ++
            feedAll stamps model (1 + lines.length) .streaming
              { usage with promptTokens := message.usage.inputTokens } [ending, stop]) := by
      rw [List.cons_append, feedAll, begun]
      simp only [ofEvent, feedAll_append, relayed.phase, relayed.usage]
    rw [feedAll_ending finishes stops, stopReason, counts, input] at fed
    refine ⟨_, _, _, _, _, middle, ofResponse_success created model response usage sound, rfl, ?_,
      ?_, ?_, saysSame_of_relays (stamps 0) (stamps (1 + lines.length)) relayed⟩
    · rw [fed, ← input]
      simp only [List.map_cons, List.map_append, relayed.steps, ofEvent, chunkOf, role]
      simp
    · rw [fed]
      simp only [phaseAfter, phaseAfter_append]
    · rw [fed]
      simp only [usageAfter, usageAfter_append]

/-- A thought and a text with a space in front. -/
def greeting : Response where
  id := "msg_1"
  role := "assistant"
  content := [⟨"thinking", ""⟩, ⟨"text", " Hi there"⟩]
  stopReason := some .endTurn
  usage := ⟨7, 3⟩

/-- The lines of `greeting` with its text in two pieces, one of them without a type. -/
def greetingLines : List String :=
  (events greeting
    [[⟨"thinking_delta", ""⟩], [⟨"text_delta", " Hi"⟩, ⟨"", " there"⟩]]).map eventLine

theorem greeting_rendition : Rendition greeting greetingLines := by
  have thought : ¬ ResponseBlock.IsText ⟨"thinking", ""⟩ := by decide
  have text : ResponseBlock.IsText ⟨"text", " Hi there"⟩ := by decide
  refine rendition_of_cuts greeting _ (.cons ?_ ?_ (.cons ?_ ?_ .nil)) (by decide)
  · simp [Suits.other thought]
  · exact fun isText => absurd isText thought
  · simp [Suits.text text]
  · intro
    decide

theorem greeting_agrees :
    ∃ (completion : Completion) (first last : Chunk) (middle : List Chunk),
      Completion.ofResponse 0 "m" greeting {} = (.ok completion, ⟨7, 3, 10⟩) ∧
      completion.choices = [⟨0, ⟨"assistant", "Hi there"⟩, some .stop⟩] ∧
      (feedAll (fun _ => ⟨"", 0⟩) "m" 0 .fresh {} greetingLines).map Outcome.step =
        (first :: middle ++ [last]).map (fun chunk => .ok (.chunk chunk)) ++ [.ok .done] ∧
      phaseAfter .fresh (feedAll (fun _ => ⟨"", 0⟩) "m" 0 .fresh {} greetingLines) = .closed ∧
      usageAfter {} (feedAll (fun _ => ⟨"", 0⟩) "m" 0 .fresh {} greetingLines) = ⟨7, 3, 10⟩ ∧
      first.choices = [⟨0, ⟨some "assistant", none⟩, none⟩] ∧
      (∀ chunk ∈ middle, ContentOnly chunk) ∧
      last.choices = [⟨0, {}, some .stop⟩] ∧
      Chunk.contentAt 0 (first :: middle ++ [last]) = "" ∧
      Chunk.contentAt 1 (first :: middle ++ [last]) = " Hi there" := by
  obtain ⟨completion, answer, counted, first, last, middle, whole, only, steps, phase, usage,
      same⟩ :=
    rendition_agrees (fun _ => ⟨"", 0⟩) 0 "m" {} greeting greetingLines
      (fun _ reported => by cases reported) greeting_rendition
  have known : completion.choices = [⟨0, ⟨"assistant", "Hi there"⟩, some .stop⟩] := by
    cases whole
    decide
  have counts : counted = ⟨7, 3, 10⟩ := by
    cases whole
    decide
  cases only.symm.trans known
  subst counts
  exact ⟨completion, first, last, middle, whole, known, steps, phase, usage, same.opening,
    same.plain, same.closing, same.texts 0, same.texts 1⟩

end ChatGateway.Stream
