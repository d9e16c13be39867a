import ChatGateway.Gateway.EventStream
import ChatGateway.Proofs.Chat.CompletionText
import ChatGateway.Proofs.Json.Visible
import ChatGateway.Text.Cut

/-!
Records are told apart by blank lines. Every payload is a single line whatever strings it holds, so
cutting a body at its blank lines gives back one line for each thing that was written, and the data
among them are the payloads of the signals up to the first final one.
-/
namespace ChatGateway.Gateway

open Chat (Chunk ErrorResponse Usage)
open ChatGateway.Stream (Signal)

/-- The parts of a text between its blank lines, which are found from left to right. -/
def betweenBlanks : List Char → List (List Char)
  | [] => [[]]
  | '\n' :: '\n' :: rest => [] :: betweenBlanks rest
  | c :: rest => (betweenBlanks rest).modifyHead (c :: ·)

/-- The parts of a body between its blank lines. -/
def partsOf (body : String) : List String := (betweenBlanks body.toList).map String.ofList

/-- What the parts of a body hold that are marked as data. -/
def dataOf (body : String) : List String :=
  (betweenBlanks body.toList).filterMap fun part =>
    (Text.afterLead "data: " part).map String.ofList

/-- A line of its own ends at the first blank line. -/
theorem betweenBlanks_line {line : List Char} (single : '\n' ∉ line) (rest : List Char) :
    betweenBlanks (line ++ '\n' :: '\n' :: rest) = line :: betweenBlanks rest := by
  induction line with
  | nil => rfl
  | cons c line ih =>
    rw [List.mem_cons, not_or] at single
    have other : ¬ c = '\n' := fun same => single.1 same.symm
    rw [List.cons_append, betweenBlanks, ih single.2]
    · rfl
    · intro later same
      exact absurd same other

theorem betweenBlanks_lines (lines : List String) (single : ∀ line ∈ lines, '\n' ∉ line.toList) :
    betweenBlanks (String.join (lines.map (· ++ "\n\n"))).toList =
      lines.map String.toList ++ [[]] := by
  induction lines with
  | nil => rfl
  | cons line lines ih =>
    have first := betweenBlanks_line (single line (List.mem_cons_self ..))
      (String.join (lines.map (· ++ "\n\n"))).toList
    have rest := ih fun other found => single other (List.mem_cons_of_mem _ found)
    rw [rest] at first
    rw [List.map_cons, List.map_cons, List.cons_append, ← first]
    simp

/-- The line that is written, without its end. -/
def Wake.line : Wake → String
  | .signal s => "data: " ++ payloadOf s
  | .idle => ": keep-alive"

/-- What the writer wakes up for; a final signal is the last. -/
def heard : List Wake → List Wake
  | [] => []
  | .idle :: rest => .idle :: heard rest
  | .signal signal :: rest => .signal signal :: if signal.isFinal then [] else heard rest

theorem written_eq (wakes : List Wake) :
    written wakes = (heard wakes).map fun wake => wake.line ++ "\n\n" := by
  induction wakes with
  | nil => rfl
  | cons wake rest ih =>
    cases wake with
    | idle =>
      rw [written, heard, List.map_cons, ← ih]
      rfl
    | signal signal =>
      rw [written, heard, List.map_cons]
      cases signal.isFinal with
      | true => rfl
      | false =>
        rw [if_neg Bool.false_ne_true, if_neg Bool.false_ne_true, ih]
        rfl

theorem payload_visible (signal : Signal) : Visible (payloadOf signal).toList := by
  cases signal with
  | chunk chunk =>
    rw [payloadOf, Json.text, String.toList_ofList]
    exact Json.chars_visible _
  | closed usage => simp [payloadOf]
  | failed failure usage =>
    rw [payloadOf, Json.text, String.toList_ofList]
    exact Json.chars_visible _

theorem Wake.line_single (wake : Wake) : '\n' ∉ wake.line.toList := by
  cases wake with
  | idle => decide
  | signal s =>
    have clean := (payload_visible s).not_mem_newline
    simp [line, clean]

theorem Wake.afterLead_line (wake : Wake) :
    (Text.afterLead "data: " wake.line.toList).map String.ofList = wake.signal?.map payloadOf := by
  cases wake with
  | idle => rfl
  | signal s => simp [line, signal?, Text.afterLead]

/-- Cutting what is written gives one part for each thing written, and an empty one at the end. -/
theorem betweenBlanks_written (wakes : List Wake) :
    betweenBlanks (String.join (written wakes)).toList =
      (heard wakes).map (fun wake => wake.line.toList) ++ [[]] := by
  have single : ∀ line ∈ (heard wakes).map Wake.line, '\n' ∉ line.toList := by
    intro line found
    obtain ⟨wake, _, rfl⟩ := List.mem_map.mp found
    exact wake.line_single
  have cut := betweenBlanks_lines _ single
  rw [List.map_map, List.map_map] at cut
  rw [written_eq]
  exact cut

/-- Comments are no data. -/
theorem dataOf_written (wakes : List Wake) :
    dataOf (String.join (written wakes)) =
      ((heard wakes).filterMap Wake.signal?).map payloadOf := by
  rw [dataOf, betweenBlanks_written, List.filterMap_append, List.filterMap_map,
    List.map_filterMap]
  simp only [Function.comp_def, Wake.afterLead_line]
  exact List.append_nil _

theorem record_ne_keepAlive (payload : String) : record payload ≠ keepAlive := by
  intro same
  have first := congrArg (fun body => body.toList.head?) same
  simp [record, keepAlive] at first

/-- Comments aside, what is written are the records of the signals that are heard. -/
theorem written_records (wakes : List Wake) :
    (written wakes).filter (· ≠ keepAlive) =
      ((heard wakes).filterMap Wake.signal?).map (record ∘ payloadOf) := by
  rw [written_eq]
  induction heard wakes with
  | nil => rfl
  | cons wake rest ih =>
    cases wake with
    | idle =>
      have comment : Wake.idle.line ++ "\n\n" = keepAlive := by decide
      rw [List.map_cons, comment, List.filterMap_cons_none rfl, ← ih]
      exact List.filter_cons_of_neg (by simp)
    | signal s =>
      have noComment := record_ne_keepAlive (payloadOf s)
      have line : (Wake.signal s).line ++ "\n\n" = record (payloadOf s) := rfl
      simpa [line, noComment, Wake.signal?] using ih

/-- The payloads of some chunks and of the signal that ends them. -/
def payloadsOf (chunks : List Chunk) (terminal : Signal) : List String :=
  chunks.map (·.toJson.text) ++ [payloadOf terminal]

theorem map_payloadOf (chunks : List Chunk) (terminal : Signal) :
    (chunks.map Signal.chunk ++ [terminal]).map payloadOf = payloadsOf chunks terminal := by
  rw [List.map_append, List.map_map]
  rfl

/-- All signals up to a final one are heard, whenever they come. -/
theorem heard_signals {terminal : Signal} (final : terminal.isFinal = true) (wakes : List Wake)
    (chunks : List Chunk) (come : wakes.filterMap Wake.signal? = chunks.map .chunk ++ [terminal]) :
    (heard wakes).filterMap Wake.signal? = chunks.map .chunk ++ [terminal] := by
  induction wakes generalizing chunks with
  | nil => simp at come
  | cons wake rest ih =>
    cases wake with
    | idle => exact ih chunks come
    | signal s =>
      have split : s :: rest.filterMap Wake.signal? = chunks.map .chunk ++ [terminal] := come
      cases chunks with
      | nil =>
        obtain ⟨rfl, _⟩ := List.cons.inj split
        simp [heard, final, Wake.signal?]
      | cons chunk chunks =>
        obtain ⟨rfl, later⟩ := List.cons.inj split
        have heardRest := ih chunks later
        simp [heard, Signal.isFinal, Wake.signal?, heardRest]

theorem heard_all (chunks : List Chunk) (terminal : Signal) :
    heard ((chunks.map Signal.chunk ++ [terminal]).map .signal) =
      (chunks.map Signal.chunk ++ [terminal]).map .signal := by
  induction chunks with
  | nil => simp [heard]
  | cons chunk chunks ih =>
    rw [List.map_cons, List.cons_append, List.map_cons, heard, ih]
    rfl

theorem eventStream_eq (chunks : List Chunk) (terminal : Signal) :
    eventStream (chunks.map .chunk ++ [terminal]) =
      String.join ((payloadsOf chunks terminal).map record) := by
  rw [eventStream, written_eq, heard_all, ← map_payloadOf, List.map_map, List.map_map]
  rfl

/-- Every part but the last is a record with one payload, and the last one is empty. -/
theorem partsOf_eventStream (chunks : List Chunk) (terminal : Signal) :
    partsOf (eventStream (chunks.map .chunk ++ [terminal])) =
      (payloadsOf chunks terminal).map ("data: " ++ ·) ++ [""] := by
  rw [partsOf, eventStream, betweenBlanks_written, heard_all, ← map_payloadOf, List.map_append]
  simp only [List.map_map, Function.comp_def, String.ofList_toList]
  rfl

theorem dataOf_eventStream (chunks : List Chunk) (terminal : Signal) :
    dataOf (eventStream (chunks.map .chunk ++ [terminal])) = payloadsOf chunks terminal := by
  rw [eventStream, dataOf_written, heard_all, List.filterMap_map, ← map_payloadOf]
  exact congrArg (List.map payloadOf) List.filterMap_some

/-- What a terminal signal is written as: the mark if the message was complete, and else an envelope
that is not the mark and says the failure. -/
inductive Closing : Signal → String → Prop where
  | complete (usage : Usage) : Closing (.closed usage) "[DONE]"
  | failed (failure : Failure) (usage : Usage) {payload : String}
      (envelope : payload = failure.response.toJson.text) (noMark : payload ≠ "[DONE]")
      (read : Json.decodeText ErrorResponse.decoder payload = .ok failure.response) :
      Closing (.failed failure usage) payload

theorem text_object_ne_mark (members : List (String × Json)) :
    (Json.object members).text ≠ "[DONE]" :=
  Json.text_object_ne members (by decide)

theorem payloadOf_closing {terminal : Signal} (final : terminal.isFinal = true) :
    Closing terminal (payloadOf terminal) := by
  cases terminal with
  | chunk chunk => cases final
  | closed usage => exact .complete usage
  | failed failure usage =>
    exact .failed failure usage rfl (text_object_ne_mark _) failure.response.decodeText_toJson

theorem chunk_text_inj {chunk other : Chunk} (same : chunk.toJson.text = other.toJson.text) :
    chunk = other := by
  have read := chunk.decodeText_toJson
  rw [same, other.decodeText_toJson] at read
  exact (Except.ok.inj read).symm

/-- No two streams with different chunks or different ends are written alike. -/
theorem eventStream_inj {chunks others : List Chunk} {terminal last : Signal}
    (same : eventStream (chunks.map .chunk ++ [terminal]) =
      eventStream (others.map .chunk ++ [last])) :
    chunks = others ∧ payloadOf terminal = payloadOf last := by
  have payloads := congrArg dataOf same
  rw [dataOf_eventStream, dataOf_eventStream, payloadsOf, payloadsOf] at payloads
  obtain ⟨texts, ends⟩ := List.append_inj' payloads rfl
  exact ⟨(List.map_inj_right fun _ _ => chunk_text_inj).mp texts, List.singleton_inj.mp ends⟩

/-- What is written for chunks and their end, as a client reads it. -/
structure Reads (chunks : List Chunk) (terminal : Signal) (body : String) : Prop where
  records : body = String.join ((payloadsOf chunks terminal).map record)
  parts : partsOf body = (payloadsOf chunks terminal).map ("data: " ++ ·) ++ [""]
  data : dataOf body = payloadsOf chunks terminal
  noMark : ∀ chunk ∈ chunks, chunk.toJson.text ≠ "[DONE]"
  sameChunk : ∀ chunk ∈ chunks, Json.decodeText Chunk.decoder chunk.toJson.text = .ok chunk
  closing : Closing terminal (payloadOf terminal)
  unique : ∀ (others : List Chunk) (last : Signal),
    body = eventStream (others.map .chunk ++ [last]) →
      chunks = others ∧ payloadOf terminal = payloadOf last

/-- Whatever texts the chunks and the failure hold. -/
theorem eventStream_reads {terminal : Signal} (final : terminal.isFinal = true)
    (chunks : List Chunk) :
    Reads chunks terminal (eventStream (chunks.map .chunk ++ [terminal])) where
  records := eventStream_eq chunks terminal
  parts := partsOf_eventStream chunks terminal
  data := dataOf_eventStream chunks terminal
  noMark _ _ := text_object_ne_mark _
  sameChunk chunk _ := chunk.decodeText_toJson
  closing := payloadOf_closing final
  unique _ _ := eventStream_inj

/-- However long the writer has to wait in between, there are only comments more. -/
theorem written_reads {terminal : Signal} (final : terminal.isFinal = true) (wakes : List Wake)
    (chunks : List Chunk) (come : wakes.filterMap Wake.signal? = chunks.map .chunk ++ [terminal]) :
    (written wakes).filter (· ≠ keepAlive) = (payloadsOf chunks terminal).map record ∧
      dataOf (String.join (written wakes)) = payloadsOf chunks terminal := by
  have heardAll := heard_signals final wakes chunks come
  rw [written_records, dataOf_written, heardAll, ← List.map_map, map_payloadOf]
  exact ⟨rfl, rfl⟩

end ChatGateway.Gateway
