import ChatGateway.Http.Url.Parser
import Mathlib.Data.List.DropRight

/-!
The last segment of a path. What is put behind the text of a path, after the slashes at its end, is
a segment of its own. Unless it is a dot segment it stays the last one when the dots are resolved,
and what comes before it is the folder that the text names, whatever the segment is.
-/
namespace ChatGateway

namespace Text

variable {isMark : Char → Bool} {c : Char}

theorem exists_pieces (isMark : Char → Bool) (text : List Char) :
    ∃ piece others, pieces isMark text = piece :: others := by
  cases text with
  | nil => exact ⟨[], [], rfl⟩
  | cons c rest =>
    rw [pieces, List.foldr_cons]
    split
    · split
      · exact ⟨_, _, rfl⟩
      · exact ⟨_, _, rfl⟩
    · exact ⟨_, _, rfl⟩

theorem pieces_cons_mark (mark : isMark c = true) (rest : List Char) :
    pieces isMark (c :: rest) = [] :: pieces isMark rest := by
  obtain ⟨piece, others, later⟩ := exists_pieces isMark rest
  rw [later]
  rw [pieces] at later
  rw [pieces, List.foldr_cons, later]
  exact if_pos mark

/-- Any other character belongs to the first piece. -/
theorem pieces_cons_other (other : isMark c = false) (rest : List Char) :
    pieces isMark (c :: rest) = (pieces isMark rest).modifyHead (c :: ·) := by
  obtain ⟨piece, others, later⟩ := exists_pieces isMark rest
  rw [later]
  rw [pieces] at later
  rw [pieces, List.foldr_cons, later]
  exact if_neg (by simp [other])

/-- A mark parts a text whatever is before and after it. -/
theorem pieces_append_mark (mark : isMark c = true) (left right : List Char) :
    pieces isMark (left ++ c :: right) = pieces isMark left ++ pieces isMark right := by
  induction left with
  | nil => exact pieces_cons_mark mark right
  | cons d left ih =>
    rw [List.cons_append]
    by_cases parts : isMark d = true
    · rw [pieces_cons_mark parts, pieces_cons_mark parts, ih, List.cons_append]
    · have other : isMark d = false := Bool.eq_false_iff.mpr parts
      obtain ⟨piece, others, first⟩ := exists_pieces isMark left
      rw [pieces_cons_other other, pieces_cons_other other, ih, first]
      rfl

theorem pieces_whole {text : List Char} (clean : ∀ c ∈ text, isMark c = false) :
    pieces isMark text = [text] := by
  induction text with
  | nil => rfl
  | cons c rest ih =>
    obtain ⟨other, later⟩ := List.forall_mem_cons.mp clean
    rw [pieces_cons_other other, ih later]
    rfl

end Text

namespace Http.Url

/-- A text that stands in a path as it is, as a segment of its own. -/
structure IsSegment (name : String) : Prop where
  clean : ∀ c ∈ name.toList, 0x20 < c.toNat ∧ isSlash c = false ∧ c ≠ '?' ∧ c ≠ '#'
  written : encode pathSet name.toList = name
  noDot : isDot name = false
  noDoubleDot : isDoubleDot name = false

/-- What follows a slash at the end of a path. -/
theorem isSegment_empty : IsSegment "" where
  clean := nofun
  written := rfl
  noDot := by decide +kernel
  noDoubleDot := by decide +kernel

theorem isSegment_messages : IsSegment "messages" where
  clean := by
    change ∀ c ∈ ['m', 'e', 's', 's', 'a', 'g', 'e', 's'], _
    simp [isSlash]
  written := rfl
  noDot := by decide +kernel
  noDoubleDot := by decide +kernel

/-- The text of a base without the slashes at its end, and the name behind it. -/
def below (name : String) (text : List Char) : List Char :=
  text.rdropWhile (· = '/') ++ '/' :: name.toList

theorem rawSegments_last {name : String} (segment : IsSegment name) (front : List Char) :
    rawSegments isSlash (front ++ '/' :: name.toList) = rawSegments isSlash front ++ [name] := by
  have whole := Text.pieces_whole fun c found => (segment.clean c found).2.1
  rw [rawSegments, Text.pieces_append_mark rfl, whole, List.map_append, List.map_singleton,
    segment.written, rawSegments]

/-- Dots before the last segment do not reach it. -/
theorem resolveDots_last (segments : List String) :
    ∃ folder, ∀ name, IsSegment name →
      resolveDots false (segments ++ [name]) = folder ++ [name] := by
  refine ⟨(resolveDots false (segments ++ [""])).dropLast, fun name segment => ?_⟩
  simp only [resolveDots, List.foldl_append, List.foldl_cons, List.foldl_nil, segment.noDot,
    segment.noDoubleDot, isSegment_empty.noDot, isSegment_empty.noDoubleDot,
    List.getLast?_concat, Option.any_some, Bool.or_false, Bool.false_eq_true, if_false,
    List.reverse_cons, List.dropLast_concat]

/-- The folder is a matter of the text alone. -/
theorem pathOf_below (text : List Char) :
    ∃ folder, ∀ name, IsSegment name →
      pathOf isSlash (below name text) = .segments (folder ++ [name]) := by
  have raw : ∃ segments, ∀ name, IsSegment name →
      rawSegments isSlash (dropMark isSlash (below name text)) = segments ++ [name] := by
    cases kept : text.rdropWhile (· = '/') with
    | nil =>
      refine ⟨[], fun name segment => ?_⟩
      have whole := Text.pieces_whole fun c found => (segment.clean c found).2.1
      have slash : isSlash '/' = true := rfl
      rw [below, kept, List.nil_append, dropMark, if_pos slash, rawSegments, whole,
        List.map_singleton, segment.written, List.nil_append]
    | cons c front =>
      refine ⟨rawSegments isSlash (dropMark isSlash (c :: front)), fun name segment => ?_⟩
      rw [below, kept, List.cons_append, dropMark, dropMark]
      split
      · exact rawSegments_last segment front
      · exact rawSegments_last segment (c :: front)
  obtain ⟨segments, raw⟩ := raw
  obtain ⟨folder, resolved⟩ := resolveDots_last segments
  refine ⟨folder, fun name segment => ?_⟩
  rw [pathOf, raw name segment, resolved name segment]

end Http.Url

end ChatGateway
