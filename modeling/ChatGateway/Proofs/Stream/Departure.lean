import ChatGateway.Proofs.Stream.Meaning
import ChatGateway.Proofs.Stream.Steps

/-!
A client that has left stops the producer. From then on no move but the producer's is possible; it
reads no item, sends nothing and is over after one step, or after two when it holds an item. None of
these steps looks at the stream or at the room in the queue, so a stream that is silent for ever
does not keep it.
-/
namespace ChatGateway.Stream

open Chat (Usage)

namespace Session

/-- How many steps the producer has before it, once nobody waits for its signals. -/
def stepsLeft (s : Session) : Nat :=
  match s.stage with
  | .holding _ => 2
  | .waiting | .sending _ => 1
  | .ended => 0

variable {setup : Setup} {s t : Session}

/-- A step that is taken without a client leads one step nearer to the end and leaves what was read
and what was received as it is. -/
theorem produces_departed (gone : s.present = false) (step : Produces setup s t) :
    t.present = false ∧ t.place = s.place ∧ t.received = s.received ∧
      t.stepsLeft + 1 = s.stepsLeft := by
  have absent : ¬ s.present = true := by
    rw [gone]
    decide
  cases step with
  | noticed waiting => exact ⟨gone, rfl, rfl, by simp only [stepsLeft, waiting]⟩
  | read _ here => exact absurd here absent
  | exhausted _ here => exact absurd here absent
  | @translated item holding =>
    refine ⟨gone, rfl, rfl, ?_⟩
    cases (s.reaction setup item).signal <;> simp [stepsLeft, holding]
  | refused sending => exact ⟨gone, rfl, rfl, by simp only [stepsLeft, sending]⟩
  | sent _ here => exact absurd here absent

theorem next?_departed {m : Move} (gone : s.present = false)
    (step : s.next? setup m = some t) : m = .produce ∧ Produces setup s t := by
  have absent : ¬ s.present = true := by
    rw [gone]
    decide
  cases m with
  | produce => exact ⟨rfl, produces_of_produce? step⟩
  | receive => exact absurd (receive?_success step).1 absent
  | leave => exact absurd (leave?_success step).1 absent

/-- Any schedule after the departure: only the producer moves, and every move uses up one of the
steps that were left. -/
theorem follow?_departed (moves : List Move) (gone : s.present = false)
    (followed : follow? setup moves s = some t) :
    (∀ m ∈ moves, m = .produce) ∧ t.place = s.place ∧ t.received = s.received ∧
      moves.length + t.stepsLeft = s.stepsLeft := by
  induction moves generalizing s with
  | nil =>
    cases followed
    exact ⟨fun _ member => absurd member List.not_mem_nil, rfl, rfl, Nat.zero_add _⟩
  | cons m rest ih =>
    obtain ⟨next, step, later⟩ := follow?_cons followed
    obtain ⟨rfl, produced⟩ := next?_departed gone step
    obtain ⟨stillGone, place, received, nearer⟩ := produces_departed gone produced
    obtain ⟨only, restPlace, restReceived, restNearer⟩ := ih stillGone later
    refine ⟨?_, restPlace.trans place, restReceived.trans received, ?_⟩
    · intro m member
      rcases List.mem_cons.mp member with rfl | member
      · rfl
      · exact only m member
    · rw [List.length_cons]
      omega

/-- The step is the same whatever the stream brings and however full the queue may get. -/
theorem produce?_departed (setup : Setup) (gone : s.present = false)
    (running : s.stage ≠ .ended) :
    ∃ t, ∀ source capacity, s.produce? { setup with source, capacity } = some t := by
  cases stands : s.stage with
  | waiting => exact ⟨{ s with stage := .ended }, fun _ _ => by simp [produce?, stands, gone]⟩
  | holding item =>
    refine ⟨{ s with
      stage := ((s.reaction setup item).signal.map Stage.sending).getD .waiting
      phase := (s.reaction setup item).phase
      usage := (s.reaction setup item).usage }, fun _ _ => ?_⟩
    simp only [produce?, stands, reaction]
  | sending signal =>
    exact ⟨{ s with stage := .ended }, fun _ _ => by simp [produce?, stands, gone]⟩
  | ended => exact absurd stands running

theorem ended_of_departed (setup : Setup) (s : Session) (gone : s.present = false) :
    ∃ t, follow? setup (List.replicate s.stepsLeft .produce) s = some t ∧ t.stage = .ended := by
  induction left : s.stepsLeft generalizing s with
  | zero =>
    refine ⟨s, rfl, ?_⟩
    cases stands : s.stage with
    | ended => rfl
    | waiting | holding | sending =>
      simp only [stepsLeft, stands] at left
      cases left
  | succ n ih =>
    have running : s.stage ≠ .ended := by
      intro atEnd
      simp only [stepsLeft, atEnd] at left
      cases left
    obtain ⟨next, same⟩ := produce?_departed setup gone running
    have step : s.produce? setup = some next := same setup.source setup.capacity
    obtain ⟨stillGone, _, _, nearer⟩ := produces_departed gone (produces_of_produce? step)
    obtain ⟨t, later, atEnd⟩ := ih next stillGone (by omega)
    refine ⟨t, ?_, atEnd⟩
    rw [List.replicate_succ, follow?, next?, step]
    exact later

theorem stepsLeft_le_two (s : Session) : s.stepsLeft ≤ 2 := by
  unfold stepsLeft
  split <;> decide

/-- A client that has left stops the producer, whatever the stream is and whatever happens: nothing
more is read or received, the producer is never stuck, and two steps end it at most. A client that
left before the first step leaves every item unread. -/
theorem departed_client_stops_producer (setup : Setup) (s : Session) (gone : s.present = false) :
    (∀ moves t, follow? setup moves s = some t →
      t.place = s.place ∧ t.received = s.received ∧ (∀ m ∈ moves, m = .produce) ∧
        moves.length ≤ 2) ∧
    (s.stage ≠ .ended →
      ∃ t, ∀ source capacity, s.produce? { setup with source, capacity } = some t) ∧
    (∃ steps ≤ 2, ∃ t, follow? setup (List.replicate steps .produce) s = some t ∧
      t.stage = .ended) ∧
    ∀ phase usage, (opening phase usage).leave? = some s →
      ∀ moves t, follow? setup moves s = some t → t.place = 0 ∧ t.received = [] := by
  have few := stepsLeft_le_two s
  refine ⟨?_, produce?_departed setup gone, ⟨_, few, ended_of_departed setup s gone⟩, ?_⟩
  · intro moves t followed
    obtain ⟨only, place, received, used⟩ := follow?_departed moves gone followed
    exact ⟨place, received, only, by omega⟩
  · intro phase usage left moves t followed
    obtain ⟨_, rfl⟩ := leave?_success left
    obtain ⟨_, place, received, _⟩ := follow?_departed moves gone followed
    exact ⟨place, received⟩

/-- One item and then silence. -/
def silenced : Setup where
  source place := if place = 0 then .item (.ok (eventLine .messageStop)) else .silent
  stamps _ := ⟨"", 0⟩
  model := "m"
  capacity := 4

/-- The client has left while the producer holds the item. -/
def abandoned : Session where
  stage := .holding (.ok (eventLine .messageStop))
  place := 1
  present := false

theorem abandoned_stops :
    Reachable silenced (opening .fresh {}) abandoned ∧
      (∀ moves t, follow? silenced moves abandoned = some t → t.place = 1 ∧ t.received = []) ∧
      ∃ steps ≤ 2, ∃ t, follow? silenced (List.replicate steps .produce) abandoned = some t ∧
        t.stage = .ended := by
  obtain ⟨schedules, _, ends, _⟩ := departed_client_stops_producer silenced abandoned rfl
  refine ⟨reachable_of_follow? [.produce, .leave] .start rfl, ?_, ends⟩
  intro moves t followed
  obtain ⟨place, received, _⟩ := schedules moves t followed
  exact ⟨place, received⟩

end Session

end ChatGateway.Stream
