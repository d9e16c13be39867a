import ChatGateway.Stream.Session

/-!
What the producer would send if nobody ever made it wait. `Setup.sequential` is computed poll by
poll and knows no queue and no client; over a list of items it is `signals`.
-/
namespace ChatGateway.Stream

open Chat (Chunk Usage)

/-- What a reaction sends, and `later` after it unless that was final. -/
def Reaction.lead (reaction : Reaction) (later : List Signal) : List Signal :=
  match reaction.signal with
  | none => later
  | some signal => signal :: if signal.isFinal then [] else later

theorem signals_cons (stamps : Stamps) (model : String) (place : Nat) (phase : Phase)
    (usage : Usage) (item : Item) (rest : List Item) :
    signals stamps model place phase usage (item :: rest) =
      (react (stamps place) model phase usage item).lead
        (signals stamps model (place + 1) (react (stamps place) model phase usage item).phase
          (react (stamps place) model phase usage item).usage rest) := by
  simp only [signals, Reaction.lead]
  cases (react (stamps place) model phase usage item).signal with
  | none => rfl
  | some signal =>
    dsimp only
    split <;> rfl

namespace Setup

/-- The signals that come of the first `polls` polls of a stream, from `place` on. -/
def sequential (setup : Setup) : Nat → Nat → Phase → Usage → List Signal
  | 0, _, _, _ => []
  | polls + 1, place, phase, usage =>
    match setup.source place with
    | .silent => []
    | .ended => [.failed endedEarly usage]
    | .item item =>
      let reaction := react (setup.stamps place) setup.model phase usage item
      reaction.lead (setup.sequential polls (place + 1) reaction.phase reaction.usage)

variable {setup : Setup}

theorem sequential_silent {polls place : Nat} {phase : Phase} {usage : Usage}
    (polled : setup.source place = .silent) :
    setup.sequential polls place phase usage = [] := by
  cases polls with
  | zero => rfl
  | succ polls => simp only [sequential, polled]

theorem sequential_ended {polls place : Nat} {phase : Phase} {usage : Usage}
    (polled : setup.source place = .ended) :
    setup.sequential (polls + 1) place phase usage = [.failed endedEarly usage] := by
  simp only [sequential, polled]

theorem sequential_item {polls place : Nat} {phase : Phase} {usage : Usage} {item : Item}
    (polled : setup.source place = .item item) :
    setup.sequential (polls + 1) place phase usage =
      (react (setup.stamps place) setup.model phase usage item).lead
        (setup.sequential polls (place + 1)
          (react (setup.stamps place) setup.model phase usage item).phase
          (react (setup.stamps place) setup.model phase usage item).usage) := by
  simp only [sequential, polled]

/-- A list of items that ends gives the signals of the list, once it is polled past its end. -/
theorem sequential_ofList (setup : Setup) (items : List Item) (polls place : Nat) (phase : Phase)
    (usage : Usage)
    (agrees : ∀ i, setup.source (place + i) = Source.ofList items .ended i)
    (enough : items.length < polls) :
    setup.sequential polls place phase usage =
      signals setup.stamps setup.model place phase usage items := by
  obtain ⟨polls, rfl⟩ : ∃ n, polls = n + 1 := ⟨polls - 1, by omega⟩
  induction items generalizing polls place phase usage with
  | nil => exact sequential_ended (agrees 0)
  | cons item rest ih =>
    have polled : setup.source place = .item item := agrees 0
    obtain ⟨polls, rfl⟩ : ∃ n, polls = n + 1 :=
      ⟨polls - 1, by rw [List.length_cons] at enough; omega⟩
    rw [sequential_item polled, signals_cons]
    congr 1
    apply ih
    · intro i
      have shifted := agrees (i + 1)
      rwa [show place + (i + 1) = place + 1 + i by omega] at shifted
    · rw [List.length_cons] at enough
      omega

/-- Nothing follows a final signal, and there is at most one. -/
theorem sequential_shape (setup : Setup) (polls place : Nat) (phase : Phase) (usage : Usage) :
    ∃ (chunks : List Chunk) (rest : List Signal),
      setup.sequential polls place phase usage = chunks.map .chunk ++ rest ∧
        (rest = [] ∨ ∃ terminal, rest = [terminal] ∧ terminal.isFinal = true) := by
  induction polls generalizing place phase usage with
  | zero => exact ⟨[], [], rfl, .inl rfl⟩
  | succ polls ih =>
    cases polled : setup.source place with
    | silent => exact ⟨[], [], sequential_silent polled, .inl rfl⟩
    | ended => exact ⟨[], _, sequential_ended polled, .inr ⟨_, rfl, rfl⟩⟩
    | item item =>
      rw [sequential_item polled]
      obtain ⟨chunks, rest, same, tail⟩ := ih (place + 1)
        (react (setup.stamps place) setup.model phase usage item).phase
        (react (setup.stamps place) setup.model phase usage item).usage
      unfold Reaction.lead
      split
      · exact ⟨chunks, rest, same, tail⟩
      next signal _ =>
        cases signal with
        | chunk chunk => exact ⟨chunk :: chunks, rest, by simp [Signal.isFinal, same], tail⟩
        | closed counted => exact ⟨[], _, rfl, .inr ⟨_, rfl, rfl⟩⟩
        | failed failure counted => exact ⟨[], _, rfl, .inr ⟨_, rfl, rfl⟩⟩

end Setup

end ChatGateway.Stream
