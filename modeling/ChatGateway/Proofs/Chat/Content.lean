import ChatGateway.Chat.OfMessages

/-!
The content of a completion is the text of the first text block, less the one space that a text may
begin with. Both are said here without the search and the pattern that compute them.
-/
namespace ChatGateway

namespace Messages.ResponseBlock

/-- A block has no type or is of the type of texts. -/
def IsText (block : ResponseBlock) : Prop := block.kind = "" ∨ block.kind = "text"

instance (block : ResponseBlock) : Decidable block.IsText :=
  inferInstanceAs (Decidable (_ ∨ _))

theorem isText_iff {block : ResponseBlock} : block.isText = true ↔ block.IsText := by
  simp [isText, IsText]

theorem find?_isText_eq_none {blocks : List ResponseBlock} :
    blocks.find? isText = none ↔ ∀ block ∈ blocks, ¬ block.IsText := by
  simp only [List.find?_eq_none, isText_iff]

end Messages.ResponseBlock

namespace Chat

open Messages (ResponseBlock)

/-- The text without the space it may begin with. -/
inductive Unspaced : String → String → Prop where
  | spaced (text : String) : Unspaced (" " ++ text) text
  | plain {text : String} (noSpace : ∀ rest, text ≠ " " ++ rest) : Unspaced text text

/-- The content of a message made from blocks: that of the first text block. -/
inductive ContentOf (blocks : List ResponseBlock) : String → Prop where
  | none (noText : ∀ block ∈ blocks, ¬ block.IsText) : ContentOf blocks ""
  | first {earlier later : List ResponseBlock} {block : ResponseBlock} {content : String}
      (split : blocks = earlier ++ block :: later) (noText : ∀ block ∈ earlier, ¬ block.IsText)
      (isText : block.IsText) (unspaced : Unspaced block.text content) : ContentOf blocks content

theorem unspaced_withoutLead (text : String) : Unspaced text (withoutLead text) := by
  unfold withoutLead
  split
  · next rest spelt =>
    have whole : text = " " ++ String.ofList rest := by
      rw [← String.toList_inj, spelt]
      simp
    conv => arg 1; rw [whole]
    exact .spaced _
  · next other =>
    refine .plain ?_
    rintro rest rfl
    exact other rest.toList (by simp)

theorem contentOf_of_noText {blocks : List ResponseBlock}
    (noText : ∀ block ∈ blocks, ¬ block.IsText) : contentOf blocks = "" := by
  rw [contentOf, ResponseBlock.find?_isText_eq_none.mpr noText]

theorem contentOf_of_first {earlier : List ResponseBlock} {block : ResponseBlock}
    (noText : ∀ block ∈ earlier, ¬ block.IsText) (isText : block.IsText)
    (later : List ResponseBlock) :
    contentOf (earlier ++ block :: later) = withoutLead block.text := by
  rw [contentOf, List.find?_append, ResponseBlock.find?_isText_eq_none.mpr noText, Option.none_or,
    List.find?_cons_of_pos (ResponseBlock.isText_iff.mpr isText)]

theorem contentOf_first (blocks : List ResponseBlock) : ContentOf blocks (contentOf blocks) := by
  cases found : blocks.find? ResponseBlock.isText with
  | none =>
    have noText := ResponseBlock.find?_isText_eq_none.mp found
    rw [contentOf_of_noText noText]
    exact .none noText
  | some block =>
    obtain ⟨isText, earlier, later, rfl, before⟩ := List.find?_eq_some_iff_append.mp found
    have noText : ∀ other ∈ earlier, ¬ other.IsText := by
      intro other member
      rw [← ResponseBlock.isText_iff]
      simpa using before other member
    rw [contentOf_of_first noText (ResponseBlock.isText_iff.mp isText)]
    exact .first rfl noText (ResponseBlock.isText_iff.mp isText) (unspaced_withoutLead block.text)

end Chat

end ChatGateway
