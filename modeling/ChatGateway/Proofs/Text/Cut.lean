import ChatGateway.Text.Blank
import ChatGateway.Text.Cut
import Mathlib.Data.List.TakeWhile

/-!
Cutting undoes putting together: a text is cut at a mark, a lead, a tail or its outer white space
exactly when it was put together from the parts that the cut gives.
-/
namespace ChatGateway.Text

theorem splitFirst_append {mark : Char} {left : List Char} (absent : mark ∉ left)
    (right : List Char) : splitFirst mark (left ++ mark :: right) = some (left, right) := by
  have other : ∀ c ∈ left, decide (c ≠ mark) = true := by
    intro c found
    exact decide_eq_true fun same => absent (same ▸ found)
  rw [splitFirst, List.dropWhile_append_of_pos other, List.takeWhile_append_of_pos other]
  simp

theorem splitFirst_eq_some {mark : Char} {text left right : List Char}
    (split : splitFirst mark text = some (left, right)) :
    text = left ++ mark :: right ∧ mark ∉ left := by
  rw [splitFirst] at split
  cases ends : text.dropWhile (· ≠ mark) with
  | nil =>
    rw [ends] at split
    cases split
  | cons c rest =>
    rw [ends] at split
    cases split
    have first := List.head?_dropWhile_not (· ≠ mark) text
    rw [ends] at first
    have same : c = mark := by simpa using first
    subst same
    refine ⟨?_, fun found => ?_⟩
    · rw [← ends, List.takeWhile_append_dropWhile]
    · simpa using List.mem_takeWhile_imp found

theorem afterLead_eq_some_iff {lead : String} {text rest : List Char} :
    afterLead lead text = some rest ↔ text = lead.toList ++ rest := by
  rw [afterLead]
  constructor
  · intro cut
    split at cut
    · next starts =>
      obtain ⟨more, rfl⟩ := List.isPrefixOf_iff_prefix.mp starts
      simpa using cut
    · cases cut
  · rintro rfl
    simp

theorem beforeTail_eq_some_iff {tail : String} {text front : List Char} :
    beforeTail tail text = some front ↔ text = front ++ tail.toList := by
  rw [beforeTail]
  constructor
  · intro cut
    split at cut
    · next ends =>
      obtain ⟨more, rfl⟩ := List.isSuffixOf_iff_suffix.mp ends
      simpa using cut
    · cases cut
  · rintro rfl
    simp

/-- The core of a text, with white space around it and none at its own ends. -/
structure Trimmed (text core : List Char) : Prop where
  around : ∃ left right, text = left ++ (core ++ right) ∧ (∀ c ∈ left, isBlank c = true) ∧
    ∀ c ∈ right, isBlank c = true
  starts : ∀ c, core.head? = some c → isBlank c = false
  ends : ∀ c, core.getLast? = some c → isBlank c = false

theorem trimmed_trim (text : List Char) : Trimmed text (trim text) := by
  have front := List.takeWhile_append_dropWhile (p := isBlank) (l := text)
  have back := List.takeWhile_append_dropWhile (p := isBlank)
    (l := (text.dropWhile isBlank).reverse)
  have cut : text.dropWhile isBlank = trim text ++
      ((text.dropWhile isBlank).reverse.takeWhile isBlank).reverse := by
    rw [trim, ← List.reverse_append, back, List.reverse_reverse]
  refine ⟨⟨_, _, (cut ▸ front).symm, ?_, ?_⟩, ?_, ?_⟩
  · exact fun c member => List.mem_takeWhile_imp member
  · exact fun c member => List.mem_takeWhile_imp (List.mem_reverse.mp member)
  · intro c first
    have kept : (text.dropWhile isBlank).head? = some c := by
      rw [cut, List.head?_append, first, Option.some_or]
    have stops := List.head?_dropWhile_not isBlank text
    simpa [kept] using stops
  · intro c last
    rw [trim, List.getLast?_reverse] at last
    have stops := List.head?_dropWhile_not isBlank (text.dropWhile isBlank).reverse
    simpa [last] using stops

theorem Trimmed.trim_eq {text core : List Char} (trimmed : Trimmed text core) :
    trim text = core := by
  obtain ⟨⟨left, right, rfl, leftBlank, rightBlank⟩, starts, ends⟩ := trimmed
  have backBlank : ∀ c ∈ right.reverse, isBlank c = true :=
    fun c member => rightBlank c (List.mem_reverse.mp member)
  rw [trim, List.dropWhile_append_of_pos leftBlank]
  cases core with
  | nil =>
    have dropped := List.dropWhile_eq_nil_iff.mpr rightBlank
    simp [dropped]
  | cons c rest =>
    have kept : ((c :: rest) ++ right).dropWhile isBlank = (c :: rest) ++ right := by
      simp [starts c rfl]
    have keptBack : (c :: rest).reverse.dropWhile isBlank = (c :: rest).reverse := by
      cases back : (c :: rest).reverse with
      | nil => rfl
      | cons d more =>
        have last : (c :: rest).getLast? = some d := by
          rw [← List.head?_reverse, back]
          rfl
        simp [ends d last]
    rw [kept, List.reverse_append, List.dropWhile_append_of_pos backBlank, keptBack,
      List.reverse_reverse]

/-- White space around a text has no influence on its core. -/
theorem trim_surrounded {left right : List Char} (leftBlank : ∀ c ∈ left, isBlank c = true)
    (rightBlank : ∀ c ∈ right, isBlank c = true) (text : List Char) :
    trim (left ++ (text ++ right)) = trim text := by
  obtain ⟨⟨inner, outer, whole, innerBlank, outerBlank⟩, starts, ends⟩ := trimmed_trim text
  apply Trimmed.trim_eq
  refine ⟨⟨left ++ inner, outer ++ right, ?_, ?_, ?_⟩, starts, ends⟩
  · rw [List.append_assoc, ← List.append_assoc _ outer, ← List.append_assoc inner, ← whole]
  · exact fun c member => (List.mem_append.mp member).elim (leftBlank c) (innerBlank c)
  · exact fun c member => (List.mem_append.mp member).elim (outerBlank c) (rightBlank c)

end ChatGateway.Text
