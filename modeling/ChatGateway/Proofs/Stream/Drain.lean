import ChatGateway.Proofs.Stream.Steps

/-!
Sessions over finitely many items come to an end. `weight` bounds the moves that are left; as long
as the client stays and the stream is not delivered, one of the two parties can move.
-/
namespace ChatGateway.Stream

open Chat (Usage)

namespace Session

variable {setup : Setup} {s t : Session}

theorem produces_present (here : s.present = true) (step : Produces setup s t) :
    t.present = true := by
  cases step <;> exact here

/-- With a client, somebody can always move until a finite stream is delivered. -/
theorem progress {items : List Item} (finite : setup.source = .ofList items .ended)
    (here : s.present = true) (unfinished : ¬ (s.stage = .ended ∧ s.queue = [])) :
    (s.produce? setup).isSome = true ∨ s.receive?.isSome = true := by
  cases queued : s.queue with
  | cons signal rest =>
    right
    simp only [receive?, here, queued, Option.isSome_some]
  | nil =>
    left
    unfold produce?
    cases stands : s.stage with
    | waiting =>
      simp only [here, Bool.not_true, Bool.false_eq_true, if_false, finite, Source.ofList]
      cases items[s.place]? <;> rfl
    | holding item => rfl
    | sending signal =>
      have room : s.queue.length < setup.room := by
        rw [queued]
        exact Nat.le_max_right _ _
      simp only [here, Bool.not_true, Bool.false_eq_true, if_false, room, if_true,
        Option.isSome_some]
    | ended => exact absurd ⟨stands, queued⟩ unfinished

/-- A bound on the moves that are left when a stream of `items` many items is read. An item that is
read, translated, sent and received uses up the four that are reserved for it. -/
def weight (items : Nat) (s : Session) : Nat :=
  4 * (items - s.place) + s.queue.length + (if s.present then 1 else 0) +
    match s.stage with
    | .waiting => 3
    | .holding _ => 6
    | .sending signal => if signal.isFinal then 2 else 5
    | .ended => 0

theorem produces_weight {items : List Item} (finite : setup.source = .ofList items .ended)
    (step : Produces setup s t) : t.weight items.length < s.weight items.length := by
  cases step with
  | noticed waiting => simp [weight, waiting]
  | @read item waiting here polled =>
    have inside : s.place < items.length := by
      rw [finite, Source.ofList] at polled
      split at polled
      next found => exact (List.getElem?_eq_some_iff.mp found).1
      · cases polled
    simp only [weight, waiting]
    omega
  | exhausted waiting => simp [weight, waiting, Signal.isFinal]
  | @translated item holding =>
    cases (s.reaction setup item).signal with
    | none => simp [weight, holding]
    | some signal => cases final : signal.isFinal <;> simp [weight, holding, final]
  | @refused signal sending => cases final : signal.isFinal <;> simp [weight, sending, final]
  | @sent signal sending =>
    cases final : signal.isFinal <;> simp [weight, sending, final] <;> omega

/-- Every move of a session over a finite stream uses up weight. -/
theorem next?_weight {items : List Item} (finite : setup.source = .ofList items .ended) {m : Move}
    (step : s.next? setup m = some t) : t.weight items.length < s.weight items.length := by
  cases m with
  | produce => exact produces_weight finite (produces_of_produce? step)
  | receive =>
    obtain ⟨_, signal, rest, queued, rfl⟩ := receive?_success step
    simp only [weight, queued, List.length_cons]
    omega
  | leave =>
    obtain ⟨here, rfl⟩ := leave?_success step
    simp only [weight, here, List.length_nil, if_true, Bool.false_eq_true, if_false]
    omega

/-- A client that stays and takes what comes sees a finite stream to its end. -/
theorem staying_client_drains {items : List Item} (finite : setup.source = .ofList items .ended)
    (s : Session) (here : s.present = true) :
    ∃ moves t, (∀ m ∈ moves, m ≠ .leave) ∧ follow? setup moves s = some t ∧
      t.present = true ∧ t.stage = .ended ∧ t.queue = [] := by
  induction size : s.weight items.length using Nat.strongRecOn generalizing s with
  | ind size ih =>
    by_cases finished : s.stage = .ended ∧ s.queue = []
    · exact ⟨[], s, fun _ member => absurd member List.not_mem_nil, rfl, here, finished⟩
    -- any move but a departure leads on, since it uses up weight
    have onward : ∀ m next, m ≠ .leave → s.next? setup m = some next → next.present = true →
        ∃ moves t, (∀ m ∈ moves, m ≠ .leave) ∧ follow? setup moves s = some t ∧
          t.present = true ∧ t.stage = .ended ∧ t.queue = [] := by
      intro m next stays step nextHere
      have spent := next?_weight finite step
      obtain ⟨moves, t, allStay, followed, done⟩ := ih _ (by omega) next nextHere rfl
      refine ⟨m :: moves, t, ?_, ?_, done⟩
      · intro move member
        rcases List.mem_cons.mp member with rfl | member
        · exact stays
        · exact allStay move member
      · rw [follow?, step]
        exact followed
    rcases progress finite here finished with canProduce | canReceive
    · obtain ⟨next, step⟩ := Option.isSome_iff_exists.mp canProduce
      have stillHere := produces_present here (produces_of_produce? step)
      exact onward .produce next (by decide) step stillHere
    · obtain ⟨next, step⟩ := Option.isSome_iff_exists.mp canReceive
      obtain ⟨_, _, _, _, rfl⟩ := receive?_success step
      exact onward .receive _ (by decide) step here

end Session

end ChatGateway.Stream
