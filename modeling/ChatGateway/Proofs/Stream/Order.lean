import ChatGateway.Proofs.Stream.Sequence
import ChatGateway.Proofs.Stream.Steps

/-!
The order of the signals, as an invariant. `InOrder` ties a session to the sequence of its stream:
what was received, what is queued and what is still ahead make up that sequence, wherever the
producer stands. Every move keeps it, one lemma for each kind of step that has work to do.
-/
namespace ChatGateway.Stream

open Chat (Usage)

namespace Session

/-- How many items the relay has been fed; the item in hand is not among them. -/
def handled (s : Session) : Nat :=
  match s.stage with
  | .holding _ => s.place - 1
  | _ => s.place

def inHand (s : Session) : List Signal :=
  match s.stage with
  | .sending signal => [signal]
  | _ => []

/-- How many chunks the relay has made of the items it was fed. -/
def chunksMade (setup : Setup) (phase : Phase) (usage : Usage) (s : Session) : Nat :=
  (setup.sequential s.handled 0 phase usage).countP (!·.isFinal)

/-- What the next `polls` polls would still bring, the signal in hand first. -/
def ahead (setup : Setup) (s : Session) (polls : Nat) : List Signal :=
  match s.stage with
  | .waiting => setup.sequential polls s.place s.phase s.usage
  | .holding _ => setup.sequential polls (s.place - 1) s.phase s.usage
  | .sending signal =>
    signal :: if signal.isFinal then [] else setup.sequential polls s.place s.phase s.usage
  | .ended => []

/-- The sequence of the stream from the opening on, compared with a session. `accounted` needs one
poll more than were handled, because the poll that finds the end of the stream takes no item. -/
structure InOrder (setup : Setup) (phase : Phase) (usage : Usage) (s : Session) : Prop where
  held : ∀ item, s.stage = .holding item →
    0 < s.place ∧ setup.source (s.place - 1) = .item item
  accounted : s.present = true → ∀ polls,
    setup.sequential (s.handled + (polls + 1)) 0 phase usage =
      s.received ++ s.queue ++ s.ahead setup (polls + 1)
  produced : s.present = true → s.chunksMade setup phase usage ≤
    s.received.length + s.queue.length + s.inHand.length
  delivered : ∀ more, s.received <+: setup.sequential (s.handled + (more + 1)) 0 phase usage
  bounded : s.queue.length ≤ setup.room
  emptied : s.present = false → s.queue = []
  terminated : s.present = true → s.stage = .ended →
    ∃ earlier terminal, s.received ++ s.queue = earlier ++ [terminal] ∧ terminal.isFinal = true

variable {setup : Setup} {phase : Phase} {usage : Usage} {s t : Session}

theorem opening_inOrder (setup : Setup) (phase : Phase) (usage : Usage) :
    InOrder setup phase usage (opening phase usage) where
  held _ holding := by cases holding
  accounted _ polls := by simp [opening, handled, ahead]
  produced _ := by simp [opening, chunksMade, handled, Setup.sequential]
  delivered _ := List.nil_prefix
  bounded := Nat.zero_le _
  emptied _ := rfl
  terminated _ atEnd := by cases atEnd

/-- The item in hand is the next one of the sequence, and what it leads to comes next in it. -/
theorem ahead_holding {item : Item} (holding : s.stage = .holding item) (positive : 0 < s.place)
    (polled : setup.source (s.place - 1) = .item item) (polls : Nat) :
    s.ahead setup (polls + 1) = (s.reaction setup item).lead
      (setup.sequential polls s.place (s.reaction setup item).phase
        (s.reaction setup item).usage) := by
  simp only [ahead, holding, Setup.sequential_item polled, reaction]
  rw [Nat.sub_add_cancel positive]

/-- Translating an item moves what it leads to into the hand and leaves what is ahead as it is. -/
theorem translated_inOrder {item : Item} (before : InOrder setup phase usage s)
    (holding : s.stage = .holding item) :
    InOrder setup phase usage { s with
      stage := ((s.reaction setup item).signal.map Stage.sending).getD .waiting
      phase := (s.reaction setup item).phase
      usage := (s.reaction setup item).usage } := by
  obtain ⟨positive, polled⟩ := before.held item holding
  have fed : s.handled + 1 = s.place := by
    simp only [handled, holding]
    omega
  have counted : s.present = true → (setup.sequential s.place 0 phase usage).countP (!·.isFinal) ≤
      s.received.length + s.queue.length + ((s.reaction setup item).lead []).length := by
    intro here
    have next := before.accounted here 0
    rw [Nat.zero_add, fed, ahead_holding holding positive polled] at next
    rw [next]
    refine Nat.le_trans List.countP_le_length ?_
    simp only [List.length_append, Setup.sequential, Nat.le_refl]
  have account : s.present = true → ∀ polls,
      setup.sequential (s.place + (polls + 1)) 0 phase usage = s.received ++ s.queue ++
        (s.reaction setup item).lead (setup.sequential (polls + 1) s.place
          (s.reaction setup item).phase (s.reaction setup item).usage) := by
    intro here polls
    rw [← ahead_holding holding positive polled, ← before.accounted here (polls + 1)]
    congr 1
    omega
  have reached : ∀ more, s.received <+: setup.sequential (s.place + (more + 1)) 0 phase usage := by
    intro more
    have earlier := before.delivered (more + 1)
    rwa [show s.handled + (more + 1 + 1) = s.place + (more + 1) by omega] at earlier
  -- what the item leads to has left the sequence; it is in hand exactly if it is a signal
  cases sends : (s.reaction setup item).signal with
  | none =>
    simp only [Reaction.lead, sends] at account counted
    exact ⟨(fun _ h => by cases h), account, counted, reached, before.bounded, before.emptied,
      (fun _ h => by cases h)⟩
  | some signal =>
    simp only [Reaction.lead, sends, ite_self] at account counted
    exact ⟨(fun _ h => by cases h), account, counted, reached, before.bounded, before.emptied,
      (fun _ h => by cases h)⟩

/-- Sending moves the signal in hand to the end of the queue; a final one ends the producer. -/
theorem sent_inOrder {signal : Signal} (before : InOrder setup phase usage s)
    (sending : s.stage = .sending signal) (here : s.present = true)
    (room : s.queue.length < setup.room) :
    InOrder setup phase usage { s with
      stage := if signal.isFinal then .ended else .waiting
      queue := s.queue ++ [signal] } := by
  have account := before.accounted here
  have counted := before.produced here
  have reached := before.delivered
  simp only [chunksMade, handled, ahead, inHand, sending] at account counted reached
  have counted : (setup.sequential s.place 0 phase usage).countP (!·.isFinal) ≤
      s.received.length + (s.queue ++ [signal]).length + 0 := by
    simpa only [List.length_append, List.length_singleton, Nat.add_assoc, Nat.add_zero]
      using counted
  have full : (s.queue ++ [signal]).length ≤ setup.room := by
    rw [List.length_append, List.length_singleton]
    exact room
  have kept : s.present = false → s.queue ++ [signal] = [] := fun gone =>
    absurd (gone.symm.trans here) (by decide)
  cases final : signal.isFinal with
  | true =>
    refine ⟨(fun _ h => by cases h), fun _ polls => ?_, fun _ => counted, reached, full, kept,
      fun _ _ => ⟨s.received ++ s.queue, signal, (List.append_assoc ..).symm, final⟩⟩
    simpa only [handled, ahead, final, if_true, List.append_nil, List.append_assoc]
      using account polls
  | false =>
    refine ⟨(fun _ h => by cases h), fun _ polls => ?_, fun _ => counted, reached, full, kept,
      (fun _ h => by cases h)⟩
    simpa [handled, ahead, final] using account polls

/-- Once the client is gone only what it got is compared, and the producer may stop. -/
theorem stopped_inOrder (before : InOrder setup phase usage s) (gone : s.present = false)
    (fed : s.handled = s.place) : InOrder setup phase usage { s with stage := .ended } := by
  have reached := before.delivered
  rw [fed] at reached
  have absent : ¬ s.present = true := by
    rw [gone]
    decide
  exact ⟨(fun _ h => by cases h), fun here => absurd here absent, fun here => absurd here absent,
    reached, before.bounded, before.emptied, fun here => absurd here absent⟩

/-- One step of the producer keeps the order. -/
theorem produces_inOrder (before : InOrder setup phase usage s) (step : Produces setup s t) :
    InOrder setup phase usage t := by
  cases step with
  | noticed waiting gone =>
    exact stopped_inOrder before gone (by simp only [handled, waiting])
  | read waiting here polled =>
    have account := before.accounted
    have counted := before.produced
    have reached := before.delivered
    simp only [chunksMade, handled, ahead, inHand, waiting] at account counted reached
    refine ⟨?_, account, counted, reached, before.bounded, before.emptied, (fun _ h => by cases h)⟩
    intro item holding
    cases holding
    exact ⟨Nat.succ_pos _, polled⟩
  | exhausted waiting here polled =>
    have account := before.accounted
    have counted := before.produced
    have reached := before.delivered
    simp only [chunksMade, handled, ahead, inHand, waiting] at account counted reached
    refine ⟨(fun _ h => by cases h), ?_, fun here => Nat.le_succ_of_le (counted here), reached,
      before.bounded, before.emptied, (fun _ h => by cases h)⟩
    intro here polls
    have next := account here polls
    rw [Setup.sequential_ended polled] at next
    exact next
  | translated holding => exact translated_inOrder before holding
  | refused sending gone =>
    exact stopped_inOrder before gone (by simp only [handled, sending])
  | sent sending here room => exact sent_inOrder before sending here room

theorem receive_inOrder (before : InOrder setup phase usage s) (step : s.receive? = some t) :
    InOrder setup phase usage t := by
  obtain ⟨here, signal, rest, queued, rfl⟩ := receive?_success step
  have account := before.accounted here
  have counted := before.produced here
  have full := before.bounded
  have atEnd := before.terminated here
  rw [queued] at account counted full atEnd
  have moved : s.received ++ signal :: rest = s.received ++ [signal] ++ rest := by simp
  rw [moved] at account atEnd
  refine ⟨before.held, fun _ => account, fun _ => ?_, fun more => ?_, Nat.le_of_succ_le full,
    fun gone => absurd (gone.symm.trans here) (by decide), fun _ => atEnd⟩
  · refine Nat.le_trans counted ?_
    simp only [List.length_append, List.length_cons, List.length_nil, inHand]
    omega
  · refine ⟨rest ++ s.ahead setup (more + 1), ?_⟩
    rw [← List.append_assoc]
    exact (account more).symm

theorem leave_inOrder (before : InOrder setup phase usage s) (step : s.leave? = some t) :
    InOrder setup phase usage t := by
  obtain ⟨_, rfl⟩ := leave?_success step
  refine ⟨before.held, ?_, ?_, before.delivered, Nat.zero_le _, fun _ => rfl, ?_⟩
  all_goals
    intro here
    cases here

/-- Every move keeps the order, so every reachable session is in order. -/
theorem reachable_inOrder (reached : Reachable setup (opening phase usage) s) :
    InOrder setup phase usage s := by
  induction reached with
  | start => exact opening_inOrder setup phase usage
  | move m _ step before =>
    cases m with
    | produce => exact produces_inOrder before (produces_of_produce? step)
    | receive => exact receive_inOrder before step
    | leave => exact leave_inOrder before step

end Session

end ChatGateway.Stream
