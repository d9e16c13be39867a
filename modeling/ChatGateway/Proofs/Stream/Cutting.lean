import ChatGateway.Stream.Lines

/-!
Lines do not depend on the pieces in which their bytes arrive. `endedLines` and `openLine` cut the
bytes as a whole; the splitter keeps no LF in its carry, so with the bytes to come the carry is what
follows the last LF, and every list of pieces gives the lines of its bytes.
-/
namespace ChatGateway.Stream

/-- The bytes of a line without a CR at their end. -/
def withoutReturn (bytes : List UInt8) : List UInt8 :=
  if bytes.getLast? = some carriageReturn then bytes.dropLast else bytes

/-- What the bytes of a line say, its LF taken off. -/
def textOf (bytes : List UInt8) : String :=
  String.ofList (Text.Utf8.decodeLossy (withoutReturn bytes))

/-- The lines that an LF ends. -/
def endedLines (bytes : List UInt8) : List String :=
  (bytes.splitOn lineFeed).dropLast.map textOf

/-- What follows the last LF. -/
def openBytes (bytes : List UInt8) : List UInt8 :=
  (bytes.splitOn lineFeed).getLast (List.splitOn_ne_nil lineFeed bytes)

/-- A line that no LF ends, unless nothing is left for it. -/
def openLine (bytes : List UInt8) : List String :=
  if (openBytes bytes).isEmpty then [] else [textOf (openBytes bytes)]

theorem lineText_reverse (bytes : List UInt8) : lineText bytes.reverse = textOf bytes := by
  cases back : bytes.reverse with
  | nil =>
    rw [List.reverse_eq_nil_iff.mp back]
    rfl
  | cons last rest =>
    have whole : bytes = rest.reverse ++ [last] := by
      rw [← List.reverse_reverse bytes, back, List.reverse_cons]
    rw [whole, lineText, textOf, withoutReturn]
    by_cases isReturn : last = carriageReturn
    · simp [isReturn]
    · simp [isReturn]

/-- Bytes without an LF are no line yet. -/
theorem cut_unended {bytes : List UInt8} (clean : lineFeed ∉ bytes) :
    endedLines bytes = [] ∧ openBytes bytes = bytes := by
  have single : bytes.splitOn lineFeed = [bytes] := by
    rw [List.splitOn_eq_splitOnP]
    apply List.splitOnP_eq_singleton
    intro b member
    exact beq_false_of_ne fun same => clean (same ▸ member)
  simp [endedLines, openBytes, single]

/-- The first LF ends the first line. -/
theorem cut_ended {bytes : List UInt8} (clean : lineFeed ∉ bytes) (rest : List UInt8) :
    endedLines (bytes ++ lineFeed :: rest) = textOf bytes :: endedLines rest ∧
      openBytes (bytes ++ lineFeed :: rest) = openBytes rest := by
  have first : (bytes ++ lineFeed :: rest).splitOn lineFeed = bytes :: rest.splitOn lineFeed := by
    simp only [List.splitOn_eq_splitOnP]
    apply List.splitOnP_append_cons_of_forall_mem
    · intro b member
      exact beq_false_of_ne fun same => clean (same ▸ member)
    · exact beq_self_eq_true lineFeed
  have given : rest.splitOn lineFeed ≠ [] := List.splitOn_ne_nil lineFeed rest
  constructor
  · rw [endedLines, first, List.dropLast_cons_of_ne_nil given]
    rfl
  · simp only [openBytes, first, List.getLast_cons given]

namespace Splitter

/-- With no LF in the carry, the splitter has cut the carry and the bytes as a whole. -/
theorem foldl_push (s : Splitter) (clean : lineFeed ∉ s.carry) (bytes : List UInt8) :
    bytes.foldl push s =
      ⟨(endedLines (s.carry.reverse ++ bytes)).reverse ++ s.lines,
        (openBytes (s.carry.reverse ++ bytes)).reverse⟩ := by
  induction bytes generalizing s with
  | nil =>
    obtain ⟨none, all⟩ := cut_unended (mt List.mem_reverse.mp clean)
    simp [none, all]
  | cons b rest ih =>
    rw [List.foldl_cons]
    by_cases ends : b = lineFeed
    · obtain ⟨line, left⟩ := cut_ended (mt List.mem_reverse.mp clean) rest
      have cut : s.push b = ⟨lineText s.carry :: s.lines, []⟩ := if_pos ends
      rw [cut, ih _ List.not_mem_nil, ends, line, left, ← lineText_reverse, List.reverse_reverse]
      simp
    · have kept : s.push b = ⟨s.lines, b :: s.carry⟩ := if_neg ends
      have stillClean : lineFeed ∉ b :: s.carry := by
        rw [List.mem_cons, not_or]
        exact ⟨fun same => ends same.symm, clean⟩
      rw [kept, ih _ stillClean]
      simp

end Splitter

/-- Pieces without a failure are read as one. -/
theorem itemsFrom_ok (finish : Splitter → List Item) (s : Splitter)
    (chunks : List (List UInt8)) :
    itemsFrom finish s (chunks.map .ok) = finish (chunks.flatten.foldl Splitter.push s) := by
  induction chunks generalizing s with
  | nil => rfl
  | cons bytes chunks ih =>
    rw [List.map_cons, itemsFrom, ih, List.flatten_cons, List.foldl_append]

/-- A failure leaves the lines that are complete. -/
theorem itemsFrom_error (finish : Splitter → List Item) (s : Splitter)
    (chunks : List (List UInt8)) (failure : Failure)
    (later : List (Except Failure (List UInt8))) :
    itemsFrom finish s (chunks.map .ok ++ .error failure :: later) =
      (chunks.flatten.foldl Splitter.push s).complete ++ [.error failure] := by
  induction chunks generalizing s with
  | nil => rfl
  | cons bytes chunks ih =>
    rw [List.map_cons, List.cons_append, itemsFrom, ih, List.flatten_cons, List.foldl_append]

/-- What the splitter holds when all bytes have been pushed. -/
theorem pushed_whole (bytes : List UInt8) :
    bytes.foldl Splitter.push {} = ⟨(endedLines bytes).reverse, (openBytes bytes).reverse⟩ := by
  simpa using Splitter.foldl_push {} List.not_mem_nil bytes

theorem items_ok (chunks : List (List UInt8)) :
    items (chunks.map .ok) =
      (endedLines chunks.flatten ++ openLine chunks.flatten).map .ok := by
  rw [items, itemsFrom_ok, pushed_whole, Splitter.all, Splitter.complete, openLine]
  by_cases nothing : (openBytes chunks.flatten).isEmpty
  · simp [nothing]
  · simp [nothing, lineText_reverse]

theorem itemsSoFar_ok (chunks : List (List UInt8)) :
    itemsSoFar (chunks.map .ok) = (endedLines chunks.flatten).map .ok := by
  rw [itemsSoFar, itemsFrom_ok, pushed_whole, Splitter.complete]
  simp

theorem items_error (chunks : List (List UInt8)) (failure : Failure)
    (later : List (Except Failure (List UInt8))) :
    items (chunks.map .ok ++ .error failure :: later) =
      (endedLines chunks.flatten).map .ok ++ [.error failure] := by
  rw [items, itemsFrom_error, pushed_whole, Splitter.complete]
  simp

/-- Pieces that hold the same bytes give the same lines: those that an LF ends, each without one CR,
and at the end of the stream what is left over if it is not empty. A failure comes after the ended
lines and is the last item, whatever was left over and whatever follows it. -/
theorem lines_independent_of_pieces (chunks : List (List UInt8)) :
    items (chunks.map .ok) =
      (endedLines chunks.flatten ++ openLine chunks.flatten).map .ok ∧
    itemsSoFar (chunks.map .ok) = (endedLines chunks.flatten).map .ok ∧
    (∀ failure later, items (chunks.map .ok ++ .error failure :: later) =
      (endedLines chunks.flatten).map .ok ++ [.error failure]) ∧
    ∀ others : List (List UInt8), others.flatten = chunks.flatten →
      items (others.map .ok) = items (chunks.map .ok) ∧
      ∀ failure later more, items (others.map .ok ++ .error failure :: later) =
        items (chunks.map .ok ++ .error failure :: more) := by
  refine ⟨items_ok chunks, itemsSoFar_ok chunks, items_error chunks, ?_⟩
  intro others same
  rw [items_ok, items_ok, same]
  refine ⟨rfl, ?_⟩
  intro failure later more
  rw [items_error, items_error, same]

/-- A character in two pieces, then a CR and its LF in two. -/
def scattered : List (List UInt8) := [[0xC3], [0xA9, 0x0D], [], [0x0A, 0x61]]

theorem scattered_lines :
    scattered.flatten = [[0xC3, 0xA9, 0x0D, 0x0A, 0x61]].flatten ∧
      items (scattered.map .ok) = [.ok "é", .ok "a"] := by
  have same : scattered.flatten = [[0xC3, 0xA9, 0x0D, 0x0A, 0x61]].flatten := rfl
  obtain ⟨_, _, _, merged⟩ := lines_independent_of_pieces [[0xC3, 0xA9, 0x0D, 0x0A, 0x61]]
  refine ⟨same, (merged scattered same).1.trans ?_⟩
  rfl

end ChatGateway.Stream
