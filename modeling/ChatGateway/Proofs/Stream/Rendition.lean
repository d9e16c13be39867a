import ChatGateway.Proofs.Chat.Content
import ChatGateway.Proofs.Stream.Meaning

/-!
How a response is told as event lines: block by block, and each text in as many deltas as one
likes. `Rendition` says which lines tell a response, in whatever way they spell their events. Every
way of cutting the texts has such lines.
-/
namespace ChatGateway.Stream

open Messages (BlockDelta Ending EndingUsage Event MessageStart Response ResponseBlock)

/-- A text block is told in text deltas or in deltas without a type, another block in deltas of
other types. -/
inductive Suits (block : ResponseBlock) (delta : BlockDelta) : Prop where
  | text (isText : block.IsText) (kind : delta.kind = "" ∨ delta.kind = "text_delta")
  | other (noText : ¬ block.IsText) (typed : delta.kind ≠ "") (kind : delta.kind ≠ "text_delta")

/-- The lines that carry some deltas of the block at place `k`, one each. -/
inductive DeltaLines (k : Nat) (block : ResponseBlock) : List BlockDelta → List String → Prop where
  | nil : DeltaLines k block [] []
  | cons {line : String} {index : UInt32} {delta : BlockDelta} {deltas : List BlockDelta}
      {lines : List String} (means : meaning line = .event (.blockDelta index delta))
      (placed : index.toNat = k) (suits : Suits block delta)
      (later : DeltaLines k block deltas lines) :
      DeltaLines k block (delta :: deltas) (line :: lines)

/-- The lines that tell blocks, the first of them at place `k`. The deltas of a text block make up
its text. -/
inductive BlockLines : Nat → List ResponseBlock → List String → Prop where
  | nil (k : Nat) : BlockLines k [] []
  | cons {k : Nat} {block : ResponseBlock} {deltas : List BlockDelta}
      {blocks : List ResponseBlock} {lines more : List String}
      (carried : DeltaLines k block deltas lines)
      (whole : block.IsText → String.join (deltas.map BlockDelta.text) = block.text)
      (later : BlockLines (k + 1) blocks more) :
      BlockLines k (block :: blocks) (lines ++ more)

/-- The lines that tell a response: its start, its blocks, its ending and the stop. -/
inductive Rendition (response : Response) : List String → Prop where
  | mk {start ending stop : String} {lines : List String} {message : MessageStart}
      {reason : Ending} {counted : EndingUsage}
      (starts : meaning start = .event (.messageStart message))
      (role : message.role = response.role)
      (input : message.usage.inputTokens = response.usage.inputTokens)
      (blocks : BlockLines 0 response.content lines)
      (finishes : meaning ending = .event (.messageDelta reason counted))
      (stopReason : reason.stopReason = response.stopReason)
      (output : counted.outputTokens = response.usage.outputTokens)
      (stops : meaning stop = .event .messageStop) :
      Rendition response (start :: lines ++ [ending, stop])

/-- How the texts of blocks may be cut into deltas. -/
inductive Cuts : List ResponseBlock → List (List BlockDelta) → Prop where
  | nil : Cuts [] []
  | cons {block : ResponseBlock} {deltas : List BlockDelta} {blocks : List ResponseBlock}
      {cuts : List (List BlockDelta)} (suits : ∀ delta ∈ deltas, Suits block delta)
      (whole : block.IsText → String.join (deltas.map BlockDelta.text) = block.text)
      (later : Cuts blocks cuts) : Cuts (block :: blocks) (deltas :: cuts)

/-- The events that carry the deltas of blocks, the first of them at place `k`. -/
def blockEvents (k : Nat) : List (List BlockDelta) → List Event
  | [] => []
  | deltas :: cuts => deltas.map (.blockDelta (UInt32.ofNat k)) ++ blockEvents (k + 1) cuts

/-- The events that tell a response with its texts cut in the given way. -/
def events (response : Response) (cuts : List (List BlockDelta)) : List Event :=
  .messageStart ⟨response.role, response.usage⟩ :: blockEvents 0 cuts ++
    [.messageDelta ⟨response.stopReason, none⟩ ⟨response.usage.outputTokens⟩, .messageStop]

theorem deltaLines_of_suits {k : Nat} (inRange : k < UInt32.size) {block : ResponseBlock}
    (deltas : List BlockDelta) (suits : ∀ delta ∈ deltas, Suits block delta) :
    DeltaLines k block deltas
      ((deltas.map (Event.blockDelta (UInt32.ofNat k))).map eventLine) := by
  induction deltas with
  | nil => exact .nil
  | cons delta deltas ih =>
    refine .cons (meaning_eventLine _) ?_ (suits delta (List.mem_cons_self ..)) (ih ?_)
    · exact UInt32.toNat_ofNat_of_lt inRange
    · exact fun later found => suits later (List.mem_cons_of_mem _ found)

theorem blockLines_of_cuts {blocks : List ResponseBlock} {cuts : List (List BlockDelta)}
    (cut : Cuts blocks cuts) (k : Nat) (inRange : k + blocks.length ≤ UInt32.size) :
    BlockLines k blocks ((blockEvents k cuts).map eventLine) := by
  induction cut generalizing k with
  | nil => exact .nil k
  | @cons block deltas blocks cuts suits whole later ih =>
    rw [List.length_cons] at inRange
    rw [blockEvents, List.map_append]
    exact .cons (deltaLines_of_suits (by omega) deltas suits) whole (ih (k + 1) (by omega))

/-- However its texts are cut, a response has lines that tell it, as far as 32-bit indices reach. -/
theorem rendition_of_cuts (response : Response) (cuts : List (List BlockDelta))
    (cut : Cuts response.content cuts) (inRange : response.content.length ≤ UInt32.size) :
    Rendition response ((events response cuts).map eventLine) := by
  rw [events, List.map_append, List.map_cons]
  exact .mk (meaning_eventLine _) rfl rfl (blockLines_of_cuts cut 0 (by omega))
    (meaning_eventLine _) rfl rfl (meaning_eventLine _)

end ChatGateway.Stream
