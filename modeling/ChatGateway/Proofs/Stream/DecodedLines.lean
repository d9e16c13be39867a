import ChatGateway.Proofs.Stream.Cutting
import ChatGateway.Proofs.Text.Utf8.Single

/-!
Cutting bytes into lines and then reading each line gives the lines of the text that the bytes are
as a whole. A newline and a carriage return are spelt by one byte each, so reading goes on afresh
after them, and no other bytes are read as one of them.
-/
namespace ChatGateway.Stream

open Text.Utf8

/-- A line of text without a carriage return at its end. -/
def withoutReturnMark (line : List Char) : List Char :=
  if line.getLast? = some '\r' then line.dropLast else line

/-- The pieces of a text between newlines. An empty one at its end is none. -/
def textPieces (text : List Char) : List (List Char) :=
  let pieces := text.splitOn '\n'
  if pieces.getLast? = some [] then pieces.dropLast else pieces

/-- The lines of a text. -/
def textLines (text : List Char) : List String :=
  (textPieces text).map fun piece => String.ofList (withoutReturnMark piece)

theorem newline_spelt : String.utf8EncodeChar '\n' = [lineFeed] := rfl

theorem return_spelt : String.utf8EncodeChar '\r' = [carriageReturn] := rfl

section

variable {α : Type} [BEq α]

/-- A piece has no mark in it and stands in the whole as it is. -/
theorem mem_splitOn [LawfulBEq α] {mark : α} {xs piece : List α}
    (member : piece ∈ xs.splitOn mark) : mark ∉ piece ∧ piece <:+: xs := by
  by_cases marked : mark ∈ xs
  · obtain ⟨left, right, rfl⟩ := List.append_of_mem marked
    rw [List.splitOn_append_cons_self, List.mem_append] at member
    obtain inLeft | inRight := member
    · obtain ⟨clean, inside⟩ := mem_splitOn inLeft
      exact ⟨clean, inside.trans (List.prefix_append ..).isInfix⟩
    · obtain ⟨clean, inside⟩ := mem_splitOn inRight
      refine ⟨clean, inside.trans ?_⟩
      exact ((List.suffix_cons ..).trans (List.suffix_append ..)).isInfix
  · rw [List.splitOn_eq_singleton marked, List.mem_singleton] at member
    subst member
    exact ⟨marked, List.infix_rfl⟩
termination_by xs.length

theorem length_splitOn (mark : α) (xs : List α) :
    (xs.splitOn mark).length = xs.count mark + 1 := by
  induction xs with
  | nil => simp
  | cons x rest ih =>
    rw [List.splitOn_cons_eq_if_modifyHead, List.count_cons]
    split
    · simp [ih]
    · simp [ih]

end

/-- The text between newlines is what the bytes between LFs are read as. -/
theorem splitOn_decodeLossy (bytes : List UInt8) :
    (decodeLossy bytes).splitOn '\n' = (bytes.splitOn lineFeed).map decodeLossy := by
  by_cases ended : lineFeed ∈ bytes
  · obtain ⟨left, right, rfl⟩ := List.append_of_mem ended
    rw [decodeLossy_append_single newline_spelt, List.splitOn_append_cons_self,
      List.splitOn_append_cons_self, List.map_append, splitOn_decodeLossy left,
      splitOn_decodeLossy right]
  · have clean : '\n' ∉ decodeLossy bytes := mt (mem_of_mem_decodeLossy newline_spelt) ended
    rw [List.splitOn_eq_singleton clean, List.splitOn_eq_singleton ended, List.map_singleton]
termination_by bytes.length

/-- The carriage return may be taken off before reading or after it. -/
theorem decodeLossy_withoutReturn (bytes : List UInt8) :
    decodeLossy (withoutReturn bytes) = withoutReturnMark (decodeLossy bytes) := by
  rw [withoutReturn, withoutReturnMark]
  by_cases ends : bytes.getLast? = some carriageReturn
  · rw [if_pos ends, if_pos ((getLast?_decodeLossy return_spelt).mpr ends)]
    obtain ⟨front, rfl⟩ := List.getLast?_eq_some_iff.mp ends
    rw [decodeLossy_append_single return_spelt, List.dropLast_concat]
    exact (List.dropLast_concat ..).symm
  · rw [if_neg ends, if_neg (mt (getLast?_decodeLossy return_spelt).mp ends)]

/-- What is said by a line of bytes and by what they are read as. -/
theorem map_textOf (pieces : List (List UInt8)) :
    (pieces.map decodeLossy).map (fun piece => String.ofList (withoutReturnMark piece)) =
      pieces.map textOf := by
  rw [List.map_map]
  apply List.map_congr_left
  intro piece _
  rw [textOf, decodeLossy_withoutReturn]
  rfl

theorem textLines_decodeLossy (bytes : List UInt8) :
    textLines (decodeLossy bytes) = endedLines bytes ++ openLine bytes := by
  obtain none | ⟨front, last, split⟩ := List.eq_nil_or_concat (bytes.splitOn lineFeed)
  · exact absurd none (List.splitOn_ne_nil lineFeed bytes)
  rw [List.concat_eq_append] at split
  have ended : endedLines bytes = front.map textOf := by rw [endedLines, split, List.dropLast_concat]
  have left : openBytes bytes = last := by simp only [openBytes, split, List.getLast_concat]
  have pieces : (decodeLossy bytes).splitOn '\n' = front.map decodeLossy ++ [decodeLossy last] := by
    rw [splitOn_decodeLossy, split, List.map_append, List.map_singleton]
  simp only [textLines, textPieces, pieces, List.getLast?_concat, Option.some.injEq,
    decodeLossy_eq_nil_iff, ended, openLine, left, List.isEmpty_iff]
  split
  · rw [List.dropLast_concat, map_textOf, List.append_nil]
  · rw [← List.map_singleton, ← List.map_append, map_textOf, List.map_append, List.map_singleton]

theorem items_decoded (chunks : List (List UInt8)) :
    items (chunks.map .ok) = (textLines (decodeLossy chunks.flatten)).map .ok := by
  rw [items_ok, textLines_decodeLossy]

theorem textPieces_nil : textPieces [] = [] := rfl

theorem textPieces_append (left right : List Char) :
    textPieces (left ++ '\n' :: right) = left.splitOn '\n' ++ textPieces right := by
  have given := List.splitOn_ne_nil '\n' right
  have last : (left.splitOn '\n' ++ right.splitOn '\n').getLast? =
      (right.splitOn '\n').getLast? := by
    rw [List.getLast?_append, List.getLast?_eq_some_getLast given, Option.some_or]
  simp only [textPieces, List.splitOn_append_cons_self, last]
  split
  · rw [List.dropLast_append_of_ne_nil given]
  · rfl

/-- A newline ends its line whatever is before it. -/
theorem textLines_append (left right : List Char) :
    textLines (left ++ '\n' :: right) = textLines (left ++ ['\n']) ++ textLines right := by
  simp only [textLines, textPieces_append, textPieces_nil, List.append_nil, List.map_append]

theorem mem_textLines {text : List Char} {line : String} (member : line ∈ textLines text) :
    '\n' ∉ line.toList ∧ line.toList <:+: text := by
  obtain ⟨piece, found, rfl⟩ := List.mem_map.mp member
  have inSplit : piece ∈ text.splitOn '\n' := by
    simp only [textPieces] at found
    split at found
    · exact List.dropLast_subset _ found
    · exact found
  obtain ⟨clean, inside⟩ := mem_splitOn inSplit
  have front : withoutReturnMark piece <+: piece := by
    rw [withoutReturnMark]
    split
    · exact List.dropLast_prefix piece
    · exact List.prefix_rfl
  rw [String.toList_ofList]
  exact ⟨fun marked => clean (front.subset marked), front.isInfix.trans inside⟩

/-- How the end of a line is written. -/
inductive LineEnd where
  | lf
  | crlf
  deriving DecidableEq, Repr

def LineEnd.chars : LineEnd → List Char
  | .lf => ['\n']
  | .crlf => ['\r', '\n']

/-- Lines as they are written, each with its end, and one more without an end. -/
def writtenLines (ended : List (String × LineEnd)) (last : String) : String :=
  String.ofList (ended.flatMap (fun line => line.1.toList ++ line.2.chars) ++ last.toList)

/-- A string that can stand on a line: the end of the line is no part of it. -/
structure IsLine (line : String) : Prop where
  noNewline : '\n' ∉ line.toList
  noReturn : line.toList.getLast? ≠ some '\r'

/-- A newline ends a line that has none in it. -/
theorem textLines_single {piece : List Char} (clean : '\n' ∉ piece) :
    textLines (piece ++ ['\n']) = [String.ofList (withoutReturnMark piece)] := by
  rw [textLines, textPieces_append, textPieces_nil, List.splitOn_eq_singleton clean]
  rfl

namespace IsLine

variable {line : String}

theorem withoutReturnMark_self (isLine : IsLine line) :
    String.ofList (withoutReturnMark line.toList) = line := by
  rw [withoutReturnMark, if_neg isLine.noReturn, String.ofList_toList]

theorem textLines_ended (isLine : IsLine line) (ending : LineEnd) :
    textLines (line.toList ++ ending.chars) = [line] := by
  cases ending with
  | lf => rw [LineEnd.chars, textLines_single isLine.noNewline, isLine.withoutReturnMark_self]
  | crlf =>
    have clean : '\n' ∉ line.toList ++ ['\r'] := by simp [isLine.noNewline]
    have apart : line.toList ++ LineEnd.crlf.chars = (line.toList ++ ['\r']) ++ ['\n'] := by
      simp [LineEnd.chars]
    rw [apart, textLines_single clean, withoutReturnMark, if_pos List.getLast?_concat,
      List.dropLast_concat, String.ofList_toList]

theorem textLines_open (isLine : IsLine line) :
    textLines line.toList = if line = "" then [] else [line] := by
  have single :
      (if [line.toList].getLast? = some [] then [line.toList].dropLast else [line.toList]) =
        if line = "" then [] else [line.toList] := by
    simp only [List.getLast?_singleton, Option.some.injEq, String.toList_eq_nil_iff,
      List.dropLast_singleton]
  simp only [textLines, textPieces, List.splitOn_eq_singleton isLine.noNewline, single]
  split
  · rfl
  · rw [List.map_singleton, isLine.withoutReturnMark_self]

end IsLine

theorem LineEnd.ends (ending : LineEnd) : ∃ front, ending.chars = front ++ ['\n'] := by
  cases ending with
  | lf => exact ⟨[], rfl⟩
  | crlf => exact ⟨['\r'], rfl⟩

theorem textLines_written (ended : List (String × LineEnd)) {last : String}
    (areLines : ∀ line ∈ ended, IsLine line.1) (isLine : IsLine last) :
    textLines (writtenLines ended last).toList =
      ended.map Prod.fst ++ if last = "" then [] else [last] := by
  rw [writtenLines, String.toList_ofList]
  induction ended with
  | nil => exact isLine.textLines_open
  | cons line rest ih =>
    obtain ⟨first, later⟩ := List.forall_mem_cons.mp areLines
    obtain ⟨front, ends⟩ := line.2.ends
    have own := first.textLines_ended line.2
    rw [ends, ← List.append_assoc] at own
    rw [List.flatMap_cons, ends, List.append_assoc, ← List.append_assoc line.1.toList,
      List.append_assoc _ ['\n'], List.singleton_append, textLines_append, own, ih later,
      List.map_cons]
    rfl

/-- As many lines are ended as there are LFs. -/
theorem length_textLines (bytes : List UInt8) :
    (textLines (decodeLossy bytes ++ ['\n'])).length = bytes.count lineFeed + 1 := by
  rw [textLines, textPieces_append, textPieces_nil, List.append_nil, List.length_map,
    splitOn_decodeLossy, List.length_map, length_splitOn]

theorem items_single (bytes : List UInt8) :
    items [.ok bytes] = (textLines (decodeLossy bytes)).map .ok := by
  have decoded := items_decoded [bytes]
  rwa [List.flatten_singleton] at decoded

/-- The lines are those of the text that the bytes are read as, all of them at once, whatever the
bytes and the pieces are: cut at every newline, without an empty piece at the end, one carriage
return taken off each. An LF ends a line and nothing but a line, whatever is before it, and the
bytes after it are read as if they were alone. Bytes of a text are read back as they are. -/
theorem lines_are_those_of_decoded_text (chunks : List (List UInt8)) :
    (∀ text, ReadsAs chunks.flatten text ↔ text = decodeLossy chunks.flatten) ∧
    items (chunks.map .ok) = (textLines (decodeLossy chunks.flatten)).map .ok ∧
    (∀ left right, chunks.flatten = left ++ lineFeed :: right →
      items (chunks.map .ok) = items [.ok (left ++ [lineFeed])] ++ items [.ok right] ∧
      (items [.ok (left ++ [lineFeed])]).length = left.count lineFeed + 1) ∧
    (∀ line, .ok line ∈ items (chunks.map .ok) → '\n' ∉ line.toList) ∧
    (∀ text : String, chunks.flatten = text.toByteArray.data.toList →
      decodeLossy chunks.flatten = text.toList ∧
      ∀ line, .ok line ∈ items (chunks.map .ok) → line.toList <:+: text.toList) ∧
    ∀ ended last, (∀ line ∈ ended, IsLine line.1) → IsLine last →
      chunks.flatten = (writtenLines ended last).toByteArray.data.toList →
      items (chunks.map .ok) =
        (ended.map Prod.fst ++ if last = "" then [] else [last]).map .ok := by
  have isLine {line : String} (found : .ok line ∈ items (chunks.map .ok)) :
      line ∈ textLines (decodeLossy chunks.flatten) := by
    rw [items_decoded] at found
    simpa using found
  refine ⟨fun _ => readsAs_iff, items_decoded chunks, ?_, ?_, ?_, ?_⟩
  · intro left right split
    have before : decodeLossy (left ++ [lineFeed]) = decodeLossy left ++ ['\n'] :=
      decodeLossy_append_single newline_spelt left []
    rw [items_decoded, items_single, items_single, split, before,
      decodeLossy_append_single newline_spelt, textLines_append, List.map_append, List.length_map]
    exact ⟨rfl, length_textLines left⟩
  · intro line found
    exact (mem_textLines (isLine found)).1
  · intro text valid
    have decoded : decodeLossy chunks.flatten = text.toList := by
      rw [valid, decodeLossy_toByteArray]
    refine ⟨decoded, fun line found => ?_⟩
    rw [← decoded]
    exact (mem_textLines (isLine found)).2
  · intro ended last areLines lastIsLine valid
    rw [items_decoded, valid, decodeLossy_toByteArray, textLines_written ended areLines lastIsLine]

/-- A character that the end of its line cuts off, and one that the end of the stream does. -/
def cutOff : List (List UInt8) := [[0xE2], [0x82, 0x0D], [0x0A, 0x61, 0xC3]]

/-- Characters cut between the pieces, and lines with either end. -/
def couplet : List (List UInt8) := [[0xC3], [0xA9, 0x0D], [0x0A, 0x0A, 0xEF, 0xBF], [0xBD]]

theorem cutOff_and_couplet_lines :
    (cutOff.flatten = [0xE2, 0x82, 0x0D] ++ lineFeed :: [0x61, 0xC3] ∧
      items (cutOff.map .ok) = [.ok "\uFFFD", .ok "a\uFFFD"]) ∧
    (∀ line ∈ [("é", LineEnd.crlf), ("", .lf)], IsLine line.1) ∧ IsLine "\uFFFD" ∧
    couplet.flatten =
      (writtenLines [("é", .crlf), ("", .lf)] "\uFFFD").toByteArray.data.toList ∧
    items (couplet.map .ok) = [.ok "é", .ok "", .ok "\uFFFD"] := by
  have areLines : ∀ line ∈ [("é", LineEnd.crlf), ("", .lf)], IsLine line.1 := by
    simp only [List.forall_mem_cons]
    exact ⟨⟨by decide, by decide⟩, ⟨by decide, by decide⟩, by simp⟩
  have isLine : IsLine "\uFFFD" := ⟨by decide, by decide⟩
  have bytes : couplet.flatten =
      (writtenLines [("é", .crlf), ("", .lf)] "\uFFFD").toByteArray.data.toList := by
    decide
  obtain ⟨-, -, parted, -⟩ := lines_are_those_of_decoded_text cutOff
  obtain ⟨-, -, -, -, -, kept⟩ := lines_are_those_of_decoded_text couplet
  refine ⟨⟨rfl, (parted [0xE2, 0x82, 0x0D] [0x61, 0xC3] rfl).1.trans ?_⟩, areLines, isLine, bytes,
    (kept _ _ areLines isLine bytes).trans ?_⟩
  · rfl
  · rfl

end ChatGateway.Stream
