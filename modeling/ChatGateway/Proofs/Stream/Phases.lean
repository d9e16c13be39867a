import ChatGateway.Proofs.Stream.Terminal

/-!
A relay only moves forward. `Advances` is everything that one line can do to it; what a step keeps
is read off it case by case, and what a run keeps follows by induction on the lines. A run ends at
the first line that does not pass, if there is one, and from there on every line is skipped.
-/
namespace ChatGateway.Stream

open Chat (Chunk Stamp Usage)

namespace Phase

/-- How far a relay has come. -/
def rank : Phase → Nat
  | fresh => 0
  | streaming => 1
  | closed => 2

instance : LE Phase := ⟨fun a b => a.rank ≤ b.rank⟩

instance (a b : Phase) : Decidable (a ≤ b) := inferInstanceAs (Decidable (a.rank ≤ b.rank))

theorem le_refl (phase : Phase) : phase ≤ phase := Nat.le_refl phase.rank

theorem le_trans {a b c : Phase} (first : a ≤ b) (second : b ≤ c) : a ≤ c :=
  Nat.le_trans first second

theorem le_closed (phase : Phase) : phase ≤ closed := by
  cases phase <;> decide

theorem le_streaming {phase : Phase} (isOpen : phase ≠ closed) : phase ≤ streaming := by
  cases phase with
  | fresh | streaming => decide
  | closed => exact absurd rfl isOpen

end Phase

/-- The line ended the stream or failed. -/
def Outcome.Ends (outcome : Outcome) : Prop :=
  outcome.step = .ok .done ∨ ∃ failure, outcome.step = .error failure

theorem Outcome.ends_iff (outcome : Outcome) : outcome.Ends ↔ outcome.goesOn = false := by
  unfold Ends goesOn
  cases outcome.step with
  | error failure => simp
  | ok step => cases step <;> simp

/-- Everything that one line can do to a relay. -/
inductive Advances (phase : Phase) (usage : Usage) : Outcome → Prop where
  | skipped : Advances phase usage ⟨.ok .skip, phase, usage⟩
  | relayed (isOpen : phase ≠ .closed) (chunk : Chunk) (counted : Usage) :
      Advances phase usage ⟨.ok (.chunk chunk), .streaming, counted⟩
  | completed (isOpen : phase ≠ .closed) : Advances phase usage ⟨.ok .done, .closed, usage⟩
  | refused (isOpen : phase ≠ .closed) (failure : Failure) :
      Advances phase usage ⟨.error failure, .closed, usage⟩

theorem feed_advances (stamp : Stamp) (model : String) (phase : Phase) (usage : Usage)
    (line : String) : Advances phase usage (feed stamp model phase usage line) := by
  by_cases isOpen : phase = .closed
  · rw [isOpen, feed_closed]
    exact .skipped
  rw [feed_open isOpen]
  cases meaning line with
  | noise => exact .skipped
  | failure failure => exact .refused isOpen failure
  | event event =>
    cases event with
    | messageStart | blockDelta | messageDelta => exact .relayed isOpen _ _
    | messageStop => exact .completed isOpen
    | error | other => exact .skipped

/-- What holds of every step from `phase` with the count `usage`. -/
structure StepLaw (phase : Phase) (usage : Usage) (outcome : Outcome) : Prop where
  forward : phase ≤ outcome.phase
  silent : phase = .closed → outcome = ⟨.ok .skip, .closed, usage⟩
  closes : phase ≠ .closed → (outcome.phase = .closed ↔ outcome.Ends)
  uncounted : outcome.Ends → outcome.usage = usage
  skipKeeps : outcome.step = .ok .skip → outcome.phase = phase ∧ outcome.usage = usage
  chunkOpens : ∀ chunk, outcome.step = .ok (.chunk chunk) → outcome.phase = .streaming

theorem Advances.lawful {phase : Phase} {usage : Usage} {outcome : Outcome}
    (advances : Advances phase usage outcome) : StepLaw phase usage outcome := by
  cases advances with
  | skipped =>
    exact {
      forward := phase.le_refl
      silent := fun closed => by rw [closed]
      closes := fun isOpen => by simp [isOpen, Outcome.Ends]
      uncounted := fun _ => rfl
      skipKeeps := fun _ => ⟨rfl, rfl⟩
      chunkOpens := fun _ same => by cases same }
  | relayed isOpen chunk counted =>
    exact {
      forward := Phase.le_streaming isOpen
      silent := fun closed => absurd closed isOpen
      closes := fun _ => by simp [Outcome.Ends]
      uncounted := fun ends => by simp [Outcome.Ends] at ends
      skipKeeps := fun same => by cases same
      chunkOpens := fun _ _ => rfl }
  | completed isOpen | refused isOpen failure =>
    exact {
      forward := phase.le_closed
      silent := fun closed => absurd closed isOpen
      closes := fun _ => by simp [Outcome.Ends]
      uncounted := fun _ => rfl
      skipKeeps := fun same => by cases same
      chunkOpens := fun _ same => by cases same }

variable {phase : Phase} {usage : Usage}

theorem feedAll_closed (stamps : Stamps) (model : String) (place : Nat) (usage : Usage)
    (lines : List String) :
    ∀ outcome ∈ feedAll stamps model place .closed usage lines,
      outcome = ⟨.ok .skip, .closed, usage⟩ := by
  induction lines generalizing place with
  | nil => simp [feedAll]
  | cons line lines ih =>
    simp only [feedAll, feed_closed, List.mem_cons, forall_eq_or_imp, true_and]
    exact ih (place + 1)

theorem length_feedAll (stamps : Stamps) (model : String) (place : Nat) (phase : Phase)
    (usage : Usage) (lines : List String) :
    (feedAll stamps model place phase usage lines).length = lines.length := by
  induction lines generalizing place phase usage with
  | nil => rfl
  | cons line lines ih => rw [feedAll, List.length_cons, ih, List.length_cons]

/-- The phases of a run, from the one it starts in, never fall. -/
theorem feedAll_forward (stamps : Stamps) (model : String) (place : Nat) (phase : Phase)
    (usage : Usage) (lines : List String) :
    (phase :: (feedAll stamps model place phase usage lines).map Outcome.phase).Pairwise
      (· ≤ ·) := by
  induction lines generalizing place phase usage with
  | nil => exact List.pairwise_singleton _ _
  | cons line lines ih =>
    have forward := (feed_advances (stamps place) model phase usage line).lawful.forward
    have later := ih (place + 1) (feed (stamps place) model phase usage line).phase
      (feed (stamps place) model phase usage line).usage
    rw [feedAll, List.map_cons, List.pairwise_cons]
    refine ⟨?_, later⟩
    intro reached member
    rcases List.mem_cons.mp member with rfl | member
    · exact forward
    · exact Phase.le_trans forward ((List.pairwise_cons.mp later).1 reached member)

/-- A relay that is closed stays closed. -/
theorem phaseAfter_closed (stamps : Stamps) (model : String) (place : Nat) (usage : Usage)
    (lines : List String) :
    phaseAfter .closed (feedAll stamps model place .closed usage lines) = .closed := by
  induction lines generalizing place with
  | nil => rfl
  | cons line lines ih => exact ih (place + 1)

/-- A run from an open phase closes the relay exactly when one of its steps ends. -/
theorem phaseAfter_closed_iff (stamps : Stamps) (model : String) (place : Nat) (usage : Usage)
    (lines : List String) (isOpen : phase ≠ .closed) :
    phaseAfter phase (feedAll stamps model place phase usage lines) = .closed ↔
      ∃ outcome ∈ feedAll stamps model place phase usage lines, outcome.Ends := by
  induction lines generalizing place phase usage with
  | nil => simp [feedAll, phaseAfter, isOpen]
  | cons line lines ih =>
    have closes := (feed_advances (stamps place) model phase usage line).lawful.closes isOpen
    simp only [feedAll, phaseAfter, List.mem_cons, exists_eq_or_imp, ← closes]
    by_cases closed : (feed (stamps place) model phase usage line).phase = .closed
    · simp only [closed, phaseAfter_closed, true_or]
    · simp only [closed, false_or]
      exact ih _ _ closed

/-- As long as the lines leave the relay open, none of their steps has ended. -/
theorem not_ends_of_open {stamps : Stamps} {model : String} {place : Nat} {lines : List String}
    (stillOpen : phaseAfter phase (feedAll stamps model place phase usage lines) ≠ .closed) :
    ∀ outcome ∈ feedAll stamps model place phase usage lines, ¬ outcome.Ends := by
  intro outcome member ends
  by_cases isOpen : phase = .closed
  · have same := feedAll_closed stamps model place usage lines outcome (isOpen ▸ member)
    simp [same, Outcome.Ends] at ends
  · exact stillOpen ((phaseAfter_closed_iff stamps model place usage lines isOpen).mpr
      ⟨outcome, member, ends⟩)

/-- The step of a line in the middle of a run is the one from where the lines before it lead. -/
theorem feedAll_middle (stamps : Stamps) (model : String) (place : Nat) (phase : Phase)
    (usage : Usage) (earlier : List String) (line : String) (later : List String) :
    feedAll stamps model place phase usage (earlier ++ line :: later) =
      let before := feedAll stamps model place phase usage earlier
      let outcome := feed (stamps (place + earlier.length)) model (phaseAfter phase before)
        (usageAfter usage before) line
      before ++ outcome ::
        feedAll stamps model (place + earlier.length + 1) outcome.phase outcome.usage later := by
  rw [feedAll_append, feedAll]

/-- A step that ends finds the relay open, so none before it has ended. -/
theorem StepLaw.first {outcome : Outcome} (law : StepLaw phase usage outcome)
    (ends : outcome.Ends) : phase ≠ .closed := by
  intro closed
  rw [law.silent closed] at ends
  simp [Outcome.Ends] at ends

/-- Whatever lines a relay is fed, from whatever phase and count: its phases never fall, every step
keeps to `StepLaw`, and a step that ends the stream or fails is the only one that does, with nothing
but skipped lines after it. An open relay is closed by a run exactly when a line does not pass. -/
theorem run_moves_forward_and_ends_once (stamps : Stamps) (model : String) (place : Nat)
    (phase : Phase) (usage : Usage) (lines : List String) :
    let outcomes := feedAll stamps model place phase usage lines
    (phase :: outcomes.map Outcome.phase).Pairwise (· ≤ ·) ∧
    (∀ earlier line later, lines = earlier ++ line :: later →
      let before := feedAll stamps model place phase usage earlier
      let outcome := feed (stamps (place + earlier.length)) model (phaseAfter phase before)
        (usageAfter usage before) line
      ∃ after, outcomes = before ++ outcome :: after ∧ after.length = later.length ∧
        StepLaw (phaseAfter phase before) (usageAfter usage before) outcome ∧
        (outcome.Ends → (∀ other ∈ before, ¬ other.Ends) ∧
          ∀ other ∈ after, other = ⟨.ok .skip, .closed, outcome.usage⟩)) ∧
    (phase ≠ .closed →
      (phaseAfter phase outcomes = .closed ↔ ∃ line ∈ lines, (meaning line).passes = false)) := by
  refine ⟨feedAll_forward stamps model place phase usage lines, ?_, ?_⟩
  · rintro earlier line later rfl before outcome
    have law : StepLaw (phaseAfter phase before) (usageAfter usage before) outcome :=
      (feed_advances ..).lawful
    refine ⟨_, feedAll_middle .., length_feedAll .., law, ?_⟩
    intro ends
    have stillOpen := law.first ends
    have closed := (law.closes stillOpen).mpr ends
    refine ⟨not_ends_of_open stillOpen, ?_⟩
    change ∀ other ∈ feedAll stamps model _ outcome.phase outcome.usage later, _
    rw [closed]
    exact feedAll_closed stamps model _ outcome.usage later
  · intro isOpen
    have passes := (feedAll_goesOn stamps model place usage lines isOpen).1
    rw [phaseAfter_closed_iff stamps model place usage lines isOpen]
    simpa [Outcome.ends_iff] using not_congr passes

/-- The end of the message, and a piece of text that comes too late. -/
def lateLines : List String :=
  [eventLine .messageStop, eventLine (.blockDelta 0 ⟨"text_delta", "a"⟩)]

theorem late_piece_is_skipped :
    (feed ⟨"", 0⟩ "m" .fresh {} (eventLine .messageStop)).Ends ∧
      feedAll (fun _ => ⟨"", 0⟩) "m" 0 .fresh {} lateLines =
        [⟨.ok .done, .closed, {}⟩, ⟨.ok .skip, .closed, {}⟩] := by
  have stop : feed ⟨"", 0⟩ "m" .fresh {} (eventLine .messageStop) = ⟨.ok .done, .closed, {}⟩ :=
    feed_event _ _ _ (by decide) (meaning_eventLine .messageStop)
  have ends : (feed ⟨"", 0⟩ "m" .fresh {} (eventLine .messageStop)).Ends := by
    rw [stop]
    exact .inl rfl
  obtain ⟨_, steps, _⟩ :=
    run_moves_forward_and_ends_once (fun _ => ⟨"", 0⟩) "m" 0 .fresh {} lateLines
  obtain ⟨after, run, count, _, once⟩ := steps [] _ _ rfl
  obtain ⟨last, rfl⟩ := List.length_eq_one_iff.mp count
  have skipped := (once ends).2 last (List.mem_singleton.mpr rfl)
  refine ⟨ends, ?_⟩
  rw [run, skipped]
  simp only [feedAll, phaseAfter, usageAfter, stop, List.nil_append]

end ChatGateway.Stream
