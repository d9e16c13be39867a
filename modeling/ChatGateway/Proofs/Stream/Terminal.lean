import ChatGateway.Proofs.Stream.Delivery

/-!
How a stream of items ends. The items before the end are lines that go on; what comes next is the
end, and `Ends` says which terminal signal it makes. Nothing after it is looked at.
-/
namespace ChatGateway.Stream

open Chat (Chunk Usage)

/-- The terminal signal of items of which the first one ends the stream, or of none. The relay's
own error is passed on as it is, and the count is the one before the item. -/
inductive Ends (stamps : Stamps) (model : String) (place : Nat) (phase : Phase) (usage : Usage) :
    List Item → Signal → Prop where
  | early : Ends stamps model place phase usage []
      (.failed (.decode "stream ended before message_stop") usage)
  | broken (failure : Failure) (rest : List Item) :
      Ends stamps model place phase usage (.error failure :: rest) (.failed failure usage)
  | refused {line : String} {failure : Failure} (rest : List Item)
      (refusal : (feed (stamps place) model phase usage line).step = .error failure) :
      Ends stamps model place phase usage (.ok line :: rest) (.failed failure usage)
  | complete {line : String} (rest : List Item)
      (done : (feed (stamps place) model phase usage line).step = .ok .done) :
      Ends stamps model place phase usage (.ok line :: rest) (.closed usage)

variable {stamps : Stamps} {model : String} {place : Nat} {phase : Phase} {usage : Usage}

/-- Later items do not change how a stream ends. -/
theorem Ends.ignores {item : Item} {rest : List Item} {terminal : Signal}
    (ends : Ends stamps model place phase usage (item :: rest) terminal) (others : List Item) :
    Ends stamps model place phase usage (item :: others) terminal := by
  cases ends with
  | broken failure => exact .broken failure others
  | refused _ refusal => exact .refused others refusal
  | complete _ done => exact .complete others done

theorem Ends.signals {items : List Item} {terminal : Signal}
    (ends : Ends stamps model place phase usage items terminal) :
    signals stamps model place phase usage items = [terminal] := by
  cases ends with
  | early => rfl
  | broken failure => rfl
  | @refused line failure rest refusal =>
    have stops : (feed (stamps place) model phase usage line).goesOn = false := by
      rw [Outcome.goesOn, refusal]
    have kept := feed_usage stops
    simp only [signals_cons, react, refusal, kept]
    rfl
  | @complete line rest done =>
    have stops : (feed (stamps place) model phase usage line).goesOn = false := by
      rw [Outcome.goesOn, done]
    have kept := feed_usage stops
    simp only [signals_cons, react, done, kept]
    rfl

theorem Ends.isFinal {items : List Item} {terminal : Signal}
    (ends : Ends stamps model place phase usage items terminal) : terminal.isFinal = true := by
  cases ends <;> rfl

/-- A line that goes on sends its chunk, if it makes one. -/
theorem signals_goesOn {line : String} {rest : List Item}
    (goes : (feed (stamps place) model phase usage line).goesOn = true) :
    signals stamps model place phase usage (.ok line :: rest) =
      (feed (stamps place) model phase usage line).chunk?.toList.map Signal.chunk ++
        signals stamps model (place + 1) (feed (stamps place) model phase usage line).phase
          (feed (stamps place) model phase usage line).usage rest := by
  rw [signals_cons]
  simp only [react]
  cases step : (feed (stamps place) model phase usage line).step with
  | error failure => simp only [Outcome.goesOn, step, Bool.false_eq_true] at goes
  | ok said =>
    cases said with
    | skip => simp [Reaction.lead, Outcome.chunk?, step]
    | chunk chunk => simp [Reaction.lead, Outcome.chunk?, step, Signal.isFinal]
    | done => simp only [Outcome.goesOn, step, Bool.false_eq_true] at goes

/-- Lines that go on send their chunks, and the stream continues from where they lead. -/
theorem signals_append (lines : List String) (rest : List Item)
    (goes : ∀ outcome ∈ feedAll stamps model place phase usage lines, outcome.goesOn = true) :
    signals stamps model place phase usage (lines.map .ok ++ rest) =
      ((feedAll stamps model place phase usage lines).filterMap Outcome.chunk?).map .chunk ++
        signals stamps model (place + lines.length)
          (phaseAfter phase (feedAll stamps model place phase usage lines))
          (usageAfter usage (feedAll stamps model place phase usage lines)) rest := by
  induction lines generalizing place phase usage with
  | nil => rfl
  | cons line lines ih =>
    simp only [feedAll, List.mem_cons, forall_eq_or_imp] at goes
    rw [List.map_cons, List.cons_append, signals_goesOn goes.1, ih goes.2]
    simp only [feedAll, phaseAfter, usageAfter, List.filterMap_cons, List.length_cons]
    rw [Nat.add_assoc, Nat.add_comm 1 lines.length]
    cases (feed (stamps place) model phase usage line).chunk? <;> simp

/-- Every list of items comes to an end after some lines that go on. -/
theorem exists_ends (stamps : Stamps) (model : String) (place : Nat) (phase : Phase)
    (usage : Usage) (items : List Item) :
    ∃ (lines : List String) (rest : List Item) (terminal : Signal),
      items = lines.map .ok ++ rest ∧
      (∀ outcome ∈ feedAll stamps model place phase usage lines, outcome.goesOn = true) ∧
      Ends stamps model (place + lines.length)
        (phaseAfter phase (feedAll stamps model place phase usage lines))
        (usageAfter usage (feedAll stamps model place phase usage lines)) rest terminal := by
  induction items generalizing place phase usage with
  | nil => exact ⟨[], [], _, rfl, fun _ member => absurd member List.not_mem_nil, .early⟩
  | cons item items ih =>
    cases item with
    | error failure =>
      exact ⟨[], _, _, rfl, fun _ member => absurd member List.not_mem_nil, .broken failure items⟩
    | ok line =>
      cases goes : (feed (stamps place) model phase usage line).goesOn with
      | true =>
        obtain ⟨lines, rest, terminal, same, all, ends⟩ := ih (place + 1)
          (feed (stamps place) model phase usage line).phase
          (feed (stamps place) model phase usage line).usage
        refine ⟨line :: lines, rest, terminal, by rw [same]; rfl, ?_, ?_⟩
        · simp only [feedAll, List.mem_cons, forall_eq_or_imp]
          exact ⟨goes, all⟩
        · rw [List.length_cons, Nat.add_comm lines.length, ← Nat.add_assoc]
          exact ends
      | false =>
        have none (outcome : Outcome) (member : outcome ∈ ([] : List Outcome)) :
            outcome.goesOn = true := absurd member List.not_mem_nil
        cases step : (feed (stamps place) model phase usage line).step with
        | error failure => exact ⟨[], _, _, rfl, none, .refused items step⟩
        | ok said =>
          cases said with
          | skip | chunk => simp only [Outcome.goesOn, step, Bool.true_eq_false] at goes
          | done => exact ⟨[], _, _, rfl, none, .complete items step⟩

/-- An open relay goes on over lines exactly when each of them lets it, and is open after them. -/
theorem feedAll_goesOn (stamps : Stamps) (model : String) (place : Nat) (usage : Usage)
    (lines : List String) (isOpen : phase ≠ .closed) :
    ((∀ outcome ∈ feedAll stamps model place phase usage lines, outcome.goesOn = true) ↔
      ∀ line ∈ lines, (meaning line).passes = true) ∧
    ((∀ line ∈ lines, (meaning line).passes = true) →
      phaseAfter phase (feedAll stamps model place phase usage lines) ≠ .closed) := by
  induction lines generalizing place phase usage with
  | nil => exact ⟨by simp [feedAll], fun _ => isOpen⟩
  | cons line lines ih =>
    obtain ⟨same, stays⟩ := feed_goesOn (stamps place) model usage line isOpen
    simp only [feedAll, List.mem_cons, forall_eq_or_imp, phaseAfter, same]
    refine ⟨?_, fun passes => (ih _ _ (stays passes.1)).2 passes.2⟩
    apply and_congr_right
    intro passes
    exact (ih _ _ (stays passes)).1

/-- A stream is complete exactly when an end of the message is reached over lines that pass. -/
theorem closed_mem_signals_iff (stamps : Stamps) (model : String) (place : Nat) (usage : Usage)
    (items : List Item) (isOpen : phase ≠ .closed) :
    (∃ counted, .closed counted ∈ signals stamps model place phase usage items) ↔
      ∃ (lines : List String) (line : String) (rest : List Item),
        items = lines.map .ok ++ .ok line :: rest ∧
        (∀ earlier ∈ lines, (meaning earlier).passes = true) ∧
        meaning line = .event .messageStop := by
  constructor
  · rintro ⟨counted, member⟩
    obtain ⟨lines, rest, terminal, rfl, goes, ends⟩ :=
      exists_ends stamps model place phase usage items
    rw [signals_append lines rest goes, ends.signals] at member
    simp only [List.mem_append, List.mem_map, reduceCtorEq, and_false, exists_false, false_or,
      List.mem_singleton] at member
    subst member
    obtain ⟨same, stays⟩ := feedAll_goesOn stamps model place usage lines isOpen
    have passes := same.mp goes
    cases ends with
    | @complete line rest done =>
      exact ⟨lines, line, rest, rfl, passes, (feed_done_iff _ _ _ _ (stays passes)).mp done⟩
  · rintro ⟨lines, line, rest, rfl, passes, stop⟩
    obtain ⟨same, stays⟩ := feedAll_goesOn stamps model place usage lines isOpen
    have goes := same.mpr passes
    have done := (feed_done_iff (stamps (place + lines.length)) model
      (usageAfter usage (feedAll stamps model place phase usage lines)) line
      (stays passes)).mpr stop
    refine ⟨usageAfter usage (feedAll stamps model place phase usage lines), ?_⟩
    rw [signals_append lines _ goes, (Ends.complete rest done).signals]
    exact List.mem_append_right _ (List.mem_singleton.mpr rfl)

/-- Every list of items makes the chunks of the lines before its end, then one terminal signal that
tells this end with the count before it, and no more. That is what a session over any queue sends
while the client stays, and taking what comes always leads to the last of it. -/
theorem signals_end_once (stamps : Stamps) (model : String) (phase : Phase) (usage : Usage)
    (items : List Item) :
    (∃ (lines : List String) (rest : List Item) (terminal : Signal),
      items = lines.map .ok ++ rest ∧
      (∀ outcome ∈ feedAll stamps model 0 phase usage lines, outcome.goesOn = true) ∧
      Ends stamps model lines.length
        (phaseAfter phase (feedAll stamps model 0 phase usage lines))
        (usageAfter usage (feedAll stamps model 0 phase usage lines)) rest terminal ∧
      signals stamps model 0 phase usage items =
        ((feedAll stamps model 0 phase usage lines).filterMap Outcome.chunk?).map .chunk ++
          [terminal] ∧
      terminal.isFinal = true ∧
      ∀ item later others, rest = item :: later →
        signals stamps model 0 phase usage (lines.map .ok ++ item :: others) =
          signals stamps model 0 phase usage items) ∧
    (phase ≠ .closed →
      ((∃ counted, .closed counted ∈ signals stamps model 0 phase usage items) ↔
        ∃ (lines : List String) (line : String) (rest : List Item),
          items = lines.map .ok ++ .ok line :: rest ∧
          (∀ earlier ∈ lines, (meaning earlier).passes = true) ∧
          meaning line = .event .messageStop)) ∧
    ∀ (capacity : Nat) (s : Session),
      let setup : Setup := ⟨.ofList items .ended, stamps, model, capacity⟩
      Session.Reachable setup (.opening phase usage) s → s.present = true →
        (s.stage = .ended → s.received ++ s.queue = signals stamps model 0 phase usage items) ∧
        ∃ moves t, (∀ m ∈ moves, m ≠ .leave) ∧ Session.follow? setup moves s = some t ∧
          t.stage = .ended ∧ t.queue = [] ∧
          t.received = signals stamps model 0 phase usage items := by
  refine ⟨?_, closed_mem_signals_iff stamps model 0 usage items, ?_⟩
  · obtain ⟨lines, rest, terminal, same, goes, ends⟩ :=
      exists_ends stamps model 0 phase usage items
    have whole := signals_append lines rest goes
    rw [ends.signals, ← same] at whole
    rw [Nat.zero_add] at ends
    refine ⟨lines, rest, terminal, same, goes, ends, whole, ends.isFinal, ?_⟩
    rintro item later others rfl
    have other := ends.ignores others
    rw [signals_append lines _ goes, Nat.zero_add, other.signals, whole]
  · intro capacity s setup reached here
    have order := Session.reachable_inOrder reached
    refine ⟨order.sent_of_ended rfl here, ?_⟩
    have finite : setup.source = .ofList items .ended := rfl
    obtain ⟨moves, t, stays, followed, stillHere, atEnd, drained⟩ :=
      Session.staying_client_drains finite s here
    have later := Session.reachable_inOrder (Session.reachable_of_follow? moves reached followed)
    have all := later.sent_of_ended rfl stillHere atEnd
    rw [drained, List.append_nil] at all
    exact ⟨moves, t, stays, followed, atEnd, drained, all⟩

theorem brief_ends_closed :
    (∃ counted, .closed counted ∈ signals (fun _ => ⟨"", 0⟩) "m" 0 .fresh {} Session.briefItems) ∧
      ∃ moves t, Session.follow? Session.cramped moves (.opening .fresh {}) = some t ∧
        t.stage = .ended ∧
        t.received = signals (fun _ => ⟨"", 0⟩) "m" 0 .fresh {} Session.briefItems := by
  obtain ⟨_, closes, sessions⟩ :=
    signals_end_once (fun _ => ⟨"", 0⟩) "m" .fresh {} Session.briefItems
  refine ⟨(closes (by decide)).mpr ⟨[eventLine (.blockDelta 0 ⟨"text_delta", "a"⟩)],
    eventLine .messageStop, [], rfl, ?_, meaning_eventLine .messageStop⟩, ?_⟩
  · intro earlier member
    rw [List.mem_singleton.mp member, meaning_eventLine]
    rfl
  · obtain ⟨_, moves, t, _, followed, atEnd, _, received⟩ :=
      sessions 0 (.opening .fresh {}) .start rfl
    exact ⟨moves, t, followed, atEnd, received⟩

end ChatGateway.Stream
