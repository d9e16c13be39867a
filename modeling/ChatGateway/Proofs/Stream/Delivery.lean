import ChatGateway.Proofs.Stream.Drain
import ChatGateway.Proofs.Stream.Meaning
import ChatGateway.Proofs.Stream.Order

/-!
The queue neither loses nor repeats nor reorders. What the invariant says of a session at rest, of
one that is still running and of one whose client has left, put together.
-/
namespace ChatGateway.Stream

open Chat (Chunk Usage)

namespace Session

variable {setup : Setup} {phase : Phase} {usage : Usage} {s : Session}

theorem InOrder.delivered_queued (order : InOrder setup phase usage s) (more : Nat) :
    s.received ++ s.queue <+: setup.sequential (s.handled + (more + 1)) 0 phase usage := by
  cases here : s.present with
  | false =>
    rw [order.emptied here, List.append_nil]
    exact order.delivered more
  | true => exact ⟨_, (order.accounted here more).symm⟩

/-- What a client has or will find in the queue when a producer over finitely many items is over. -/
theorem InOrder.sent_of_ended {items : List Item} (order : InOrder setup phase usage s)
    (finite : setup.source = .ofList items .ended) (here : s.present = true)
    (atEnd : s.stage = .ended) :
    s.received ++ s.queue = signals setup.stamps setup.model 0 phase usage items := by
  have all := order.accounted here items.length
  rw [setup.sequential_ofList items _ 0 phase usage (fun i => by rw [finite, Nat.zero_add])
    (by omega)] at all
  simpa only [ahead, atEnd, List.append_nil] using all.symm

theorem InOrder.whole (order : InOrder setup phase usage s) (here : s.present = true)
    (atEnd : s.stage = .ended) (drained : s.queue = []) (more : Nat) :
    setup.sequential (s.handled + (more + 1)) 0 phase usage = s.received := by
  have all := order.accounted here more
  simpa only [drained, ahead, atEnd, List.append_nil] using all

theorem InOrder.ends_terminal (order : InOrder setup phase usage s) (here : s.present = true)
    (atEnd : s.stage = .ended) (drained : s.queue = []) :
    ∃ (chunks : List Chunk) (terminal : Signal),
      s.received = chunks.map .chunk ++ [terminal] ∧ terminal.isFinal = true := by
  obtain ⟨chunks, rest, shape, tail⟩ :=
    setup.sequential_shape (s.handled + (0 + 1)) 0 phase usage
  obtain ⟨earlier, last, ends, final⟩ := order.terminated here atEnd
  rw [order.whole here atEnd drained] at shape
  rw [drained, List.append_nil] at ends
  rcases tail with rfl | ⟨terminal, rfl, closing⟩
  · have member : last ∈ chunks.map Signal.chunk := by
      rw [← List.append_nil (chunks.map _), ← shape, ends]
      simp
    obtain ⟨chunk, _, rfl⟩ := List.mem_map.mp member
    cases final
  · exact ⟨chunks, terminal, shape, closing⟩

/-- Whatever the producer and the client do in whatever order, the client gets the signals of the
stream as they come one after another, from the first on. `sequential` covers endless and silent
streams too; a client that stays until the producer has ended has the whole sequence, with the one
signal that ends it. For a stream of finitely many items the sequence is `signals`. -/
theorem session_delivers_in_order (setup : Setup) (phase : Phase) (usage : Usage) (s : Session)
    (reached : Reachable setup (opening phase usage) s) :
    (∃ polls, s.received ++ s.queue <+: setup.sequential polls 0 phase usage) ∧
    s.queue.length ≤ max setup.capacity 1 ∧
    (s.present = true →
      s.chunksMade setup phase usage ≤ s.received.length + max setup.capacity 1 + 1) ∧
    (s.present = true → s.stage = .ended → s.queue = [] →
      (∃ polls, ∀ more, setup.sequential (polls + more) 0 phase usage = s.received) ∧
      ∃ (chunks : List Chunk) (terminal : Signal),
        s.received = chunks.map .chunk ++ [terminal] ∧ terminal.isFinal = true) ∧
    ∀ items, setup.source = .ofList items .ended →
      s.received ++ s.queue <+: signals setup.stamps setup.model 0 phase usage items ∧
      s.received = (signals setup.stamps setup.model 0 phase usage items).take s.received.length ∧
      (s.present = true → s.stage = .ended → s.queue = [] →
        s.received = signals setup.stamps setup.model 0 phase usage items) ∧
      (s.present = true → ¬ (s.stage = .ended ∧ s.queue = []) →
        (s.produce? setup).isSome = true ∨ s.receive?.isSome = true) := by
  have order := reachable_inOrder reached
  have partOf := order.delivered_queued
  refine ⟨⟨_, partOf 0⟩, order.bounded, ?_, ?_, ?_⟩
  · intro here
    have counted := order.produced here
    have full : s.queue.length ≤ max setup.capacity 1 := order.bounded
    have single : s.inHand.length ≤ 1 := by
      unfold inHand
      split <;> simp
    omega
  · intro here atEnd drained
    have whole := order.whole here atEnd drained
    refine ⟨⟨s.handled + 1, fun more => ?_⟩, order.ends_terminal here atEnd drained⟩
    rw [Nat.add_assoc, Nat.add_comm 1 more]
    exact whole more
  · intro items finite
    have same := setup.sequential_ofList items
      (s.handled + (items.length + 1)) 0 phase usage (fun i => by rw [finite, Nat.zero_add])
      (by omega)
    have partOf := partOf items.length
    have delivered := order.delivered items.length
    rw [same] at partOf delivered
    refine ⟨partOf, List.prefix_iff_eq_take.mp delivered, ?_, progress finite⟩
    intro here atEnd drained
    have all := order.sent_of_ended finite here atEnd
    rwa [drained, List.append_nil] at all

/-- A piece of text and the end of the message. -/
def briefItems : List Item :=
  [.ok (eventLine (.blockDelta 0 ⟨"text_delta", "a"⟩)), .ok (eventLine .messageStop)]

/-- A queue without capacity, which still has room for one signal. -/
def cramped : Setup := ⟨.ofList briefItems .ended, fun _ => ⟨"", 0⟩, "m", 0⟩

/-- The producer cannot send the end before the client has taken the piece. -/
def crampedMoves : List Move :=
  [.produce, .produce, .produce, .produce, .produce, .receive, .produce, .receive]

def crampedEnd : Session where
  stage := .ended
  place := 2
  phase := .closed
  received := [.chunk (.single ⟨"", 0⟩ "m" ⟨0, { content := some "a" }, none⟩), .closed {}]

theorem cramped_follow : follow? cramped crampedMoves (opening .fresh {}) = some crampedEnd := by
  have piece : react ⟨"", 0⟩ "m" .fresh {} (.ok (eventLine (.blockDelta 0 ⟨"text_delta", "a"⟩))) =
      ⟨some (.chunk (.single ⟨"", 0⟩ "m" ⟨0, { content := some "a" }, none⟩)), .streaming, {}⟩ := by
    rw [react, feed_event _ _ _ (by decide) (meaning_eventLine _)]
    rfl
  have stop : react ⟨"", 0⟩ "m" .streaming {} (.ok (eventLine .messageStop)) =
      ⟨some (.closed {}), .closed, {}⟩ := by
    rw [react, feed_event _ _ _ (by decide) (meaning_eventLine _)]
    rfl
  simp [crampedMoves, follow?, next?, produce?, receive?, opening, cramped, briefItems, crampedEnd,
    Source.ofList, Setup.room, Signal.isFinal, piece, stop]

theorem cramped_delivers :
    Reachable cramped (opening .fresh {}) crampedEnd ∧
      crampedEnd.received = signals cramped.stamps cramped.model 0 .fresh {} briefItems := by
  have reached : Reachable cramped (opening .fresh {}) crampedEnd :=
    reachable_of_follow? crampedMoves .start cramped_follow
  obtain ⟨_, _, _, _, finite⟩ := session_delivers_in_order cramped .fresh {} crampedEnd reached
  obtain ⟨_, _, whole, _⟩ := finite briefItems rfl
  exact ⟨reached, whole rfl rfl rfl⟩

end Session

end ChatGateway.Stream
