import ChatGateway.Proofs.Stream.Agreement
import ChatGateway.Proofs.Stream.Phases
import Mathlib.Data.List.TakeWhile

/-!
The token count of a run. A run counts the events it consumes, one after another, and nothing else:
`usageAfter_counted` turns the run into a fold over these events. What the three counts are at the
end is then a matter of the last start and the last message delta among them.
-/
namespace ChatGateway

open Messages (Ending EndingUsage Event)

namespace Messages.Event

/-- The prompt tokens that a start brings. -/
def input? : Event → Option UInt32
  | messageStart message => some message.usage.inputTokens
  | _ => none

/-- The completion tokens that a message delta brings. -/
def output? : Event → Option UInt32
  | messageDelta _ counted => some counted.outputTokens
  | _ => none

/-- The event has a count in it. -/
def hasCount (event : Event) : Bool := event.input?.isSome || event.output?.isSome

end Messages.Event

namespace Chat

/-- The sum is exact as long as it is a token count, and the greatest count beyond that. -/
theorem toNat_addTokens (a b : UInt32) :
    (addTokens a b).toNat = min (UInt32.size - 1) (a.toNat + b.toNat) := by
  have size : UInt32.size = 4294967296 := rfl
  have small : min (UInt32.size - 1) (a.toNat + b.toNat) < UInt32.size := by omega
  rw [addTokens]
  exact UInt32.toNat_ofNat_of_lt' small

namespace Usage

/-- Counts an event. -/
def count (usage : Usage) : Event → Usage
  | .messageStart message => { usage with promptTokens := message.usage.inputTokens }
  | .messageDelta _ counted => .ofCounts usage.promptTokens counted.outputTokens
  | _ => usage

theorem count_of_no_count {event : Event} (plain : event.hasCount = false) (usage : Usage) :
    usage.count event = usage := by
  cases event with
  | messageStart | messageDelta => cases plain
  | blockDelta | messageStop | error | other => rfl

/-- The prompt tokens of a count over events: the last start's, if there is one. -/
theorem foldl_promptTokens (events : List Event) (usage : Usage) :
    (events.foldl count usage).promptTokens =
      (events.filterMap Event.input?).getLast?.getD usage.promptTokens := by
  induction events generalizing usage with
  | nil => rfl
  | cons event events ih =>
    rw [List.foldl_cons, ih]
    cases event with
    | messageStart message =>
      have brought : Event.input? (.messageStart message) = some message.usage.inputTokens := rfl
      rw [List.filterMap_cons_some brought, List.getLast?_cons]
      rfl
    | blockDelta | messageDelta | messageStop | error | other =>
      rw [List.filterMap_cons_none rfl]
      rfl

theorem foldl_completionTokens (events : List Event) (usage : Usage) :
    (events.foldl count usage).completionTokens =
      (events.filterMap Event.output?).getLast?.getD usage.completionTokens := by
  induction events generalizing usage with
  | nil => rfl
  | cons event events ih =>
    rw [List.foldl_cons, ih]
    cases event with
    | messageDelta ending counted =>
      have brought : Event.output? (.messageDelta ending counted) = some counted.outputTokens := rfl
      rw [List.filterMap_cons_some brought, List.getLast?_cons]
      rfl
    | messageStart | blockDelta | messageStop | error | other =>
      rw [List.filterMap_cons_none rfl]
      rfl

/-- Only a message delta makes a total. -/
theorem foldl_totalTokens (events : List Event) (usage : Usage)
    (noDelta : events.filterMap Event.output? = []) :
    (events.foldl count usage).totalTokens = usage.totalTokens := by
  induction events generalizing usage with
  | nil => rfl
  | cons event events ih =>
    cases event with
    | messageDelta => cases noDelta
    | messageStart | blockDelta | messageStop | error | other => exact ih _ noDelta

/-- Events without a count do not count. -/
theorem foldl_filter_hasCount (events : List Event) (usage : Usage) :
    events.foldl count usage = (events.filter Event.hasCount).foldl count usage := by
  induction events generalizing usage with
  | nil => rfl
  | cons event events ih =>
    cases counts : event.hasCount with
    | true => rw [List.filter_cons_of_pos counts, List.foldl_cons, List.foldl_cons, ih]
    | false =>
      rw [List.filter_cons_of_neg (by simp [counts]), List.foldl_cons,
        count_of_no_count counts, ih]

end Usage

end Chat

namespace Stream

open Chat (Usage)

/-- The event that a line says, if it says one without a failure. -/
def Meaning.event? : Meaning → Option Event
  | .event said => some said
  | .noise | .failure _ => none

/-- The events that a relay consumes before a line closes it. -/
def consumed (lines : List String) : List Event :=
  ((lines.map meaning).takeWhile Meaning.passes).filterMap Meaning.event?

variable {phase : Phase} {stamps : Stamps} {model : String} {place : Nat} {usage : Usage}

/-- An open relay counts the event of the line, if there is one. -/
theorem feed_counts (stamp : Chat.Stamp) (model : String) (usage : Usage) (line : String)
    (isOpen : phase ≠ .closed) :
    (feed stamp model phase usage line).usage =
      ((meaning line).event?.map usage.count).getD usage := by
  rw [feed_open isOpen]
  cases meaning line with
  | noise | failure => rfl
  | event event => cases event <;> rfl

theorem usageAfter_closed (stamps : Stamps) (model : String) (place : Nat) (usage : Usage)
    (lines : List String) :
    usageAfter usage (feedAll stamps model place .closed usage lines) = usage := by
  induction lines generalizing place with
  | nil => rfl
  | cons line lines ih => exact ih (place + 1)

/-- A run counts the events it consumes. -/
theorem usageAfter_counted (stamps : Stamps) (model : String) (place : Nat) (usage : Usage)
    (lines : List String) (isOpen : phase ≠ .closed) :
    usageAfter usage (feedAll stamps model place phase usage lines) =
      (consumed lines).foldl Usage.count usage := by
  induction lines generalizing place phase usage with
  | nil => rfl
  | cons line lines ih =>
    obtain ⟨goes, stays⟩ := feed_goesOn (stamps place) model usage line isOpen
    have counted := feed_counts (stamps place) model usage line isOpen
    rw [feedAll, usageAfter, consumed, List.map_cons]
    cases passes : (meaning line).passes with
    | true =>
      rw [ih _ _ (stays passes), counted, List.takeWhile_cons_of_pos passes]
      cases said : (meaning line).event? with
      | none =>
        rw [List.filterMap_cons_none said]
        rfl
      | some event =>
        rw [List.filterMap_cons_some said, List.foldl_cons]
        rfl
    | false =>
      have law := (feed_advances (stamps place) model phase usage line).lawful
      have ends := (Outcome.ends_iff _).mpr (goes.trans passes)
      rw [(law.closes isOpen).mpr ends, usageAfter_closed, law.uncounted ends,
        List.takeWhile_cons_of_neg (by simp [passes])]
      rfl

/-- A relay is still open after lines exactly when each of them lets it. -/
theorem phaseAfter_open_iff (stamps : Stamps) (model : String) (place : Nat) (usage : Usage)
    (lines : List String) (isOpen : phase ≠ .closed) :
    phaseAfter phase (feedAll stamps model place phase usage lines) ≠ .closed ↔
      ∀ line ∈ lines, (meaning line).passes = true := by
  have goes := (feedAll_goesOn stamps model place usage lines isOpen).1
  rw [ne_eq, phaseAfter_closed_iff stamps model place usage lines isOpen, ← goes]
  simp [Outcome.ends_iff]

/-- A relay that is still open has consumed every event; one that is closed consumes none. -/
theorem consumed_append (stamps : Stamps) (model : String) (place : Nat) (usage : Usage)
    (earlier later : List String) (isOpen : phase ≠ .closed) :
    consumed (earlier ++ later) =
      if phaseAfter phase (feedAll stamps model place phase usage earlier) = .closed then
        consumed earlier
      else (earlier.map meaning).filterMap Meaning.event? ++ consumed later := by
  have opens := phaseAfter_open_iff stamps model place usage earlier isOpen
  rw [consumed, List.map_append]
  split
  next closed =>
    have shorter : ((earlier.map meaning).takeWhile Meaning.passes).length ≠
        (earlier.map meaning).length := by
      intro same
      have whole := (List.takeWhile_prefix Meaning.passes).eq_of_length same
      refine absurd closed (opens.mpr ?_)
      simpa using List.takeWhile_eq_self_iff.mp whole
    rw [List.takeWhile_append, if_neg shorter]
    rfl
  next stillOpen =>
    have passes := opens.mp stillOpen
    rw [List.takeWhile_append_of_pos (by simpa using passes), List.filterMap_append]
    rfl

/-- What the counts are after some events, from the ones they had before. -/
structure Tally (start : Usage) (events : List Event) (usage : Usage) : Prop where
  prompt : usage.promptTokens =
    (events.filterMap Event.input?).getLast?.getD start.promptTokens
  completion : usage.completionTokens =
    (events.filterMap Event.output?).getLast?.getD start.completionTokens
  noTotal : events.filterMap Event.output? = [] → usage.totalTokens = start.totalTokens
  total : ∀ before ending counted after,
    events = before ++ .messageDelta ending counted :: after →
    after.filterMap Event.output? = [] →
    usage.totalTokens.toNat = min (UInt32.size - 1)
      (((before.filterMap Event.input?).getLast?.getD start.promptTokens).toNat +
        counted.outputTokens.toNat)
  settled : ∀ before ending counted after,
    events = before ++ .messageDelta ending counted :: after →
    after.filterMap Event.output? = [] → after.filterMap Event.input? = [] →
    usage = .ofCounts usage.promptTokens usage.completionTokens

theorem tally_foldl (events : List Event) (start : Usage) :
    Tally start events (events.foldl Usage.count start) where
  prompt := Usage.foldl_promptTokens events start
  completion := Usage.foldl_completionTokens events start
  noTotal := Usage.foldl_totalTokens events start
  total := by
    rintro before ending counted after rfl noDelta
    rw [List.foldl_append, List.foldl_cons, Usage.foldl_totalTokens after _ noDelta,
      ← Usage.foldl_promptTokens before start]
    exact Chat.toNat_addTokens _ _
  settled := by
    rintro before ending counted after rfl noDelta noStart
    have plain : after.filter Event.hasCount = [] := by
      rw [List.filterMap_eq_nil_iff] at noDelta noStart
      rw [List.filter_eq_nil_iff]
      intro event member
      simp [Event.hasCount, noDelta event member, noStart event member]
    rw [List.foldl_append, List.foldl_cons, Usage.foldl_filter_hasCount after, plain]
    rfl

/-- The count of a run is a matter of the events it consumes, which are all of them as long as the
relay is open and none from then on: prompt and completion tokens are those of the last start and of
the last message delta, and the total is the sum at that delta, never beyond the greatest count.
Lines whose events have no count do not matter. When no start comes after the last delta, the count
is the one that a response with these tokens gives in one piece. -/
theorem usage_of_consumed_events (stamps : Stamps) (model : String) (usage : Usage)
    (lines : List String) :
    let reached := usageAfter usage (feedAll stamps model 0 .fresh usage lines)
    (∀ earlier later, lines = earlier ++ later →
      consumed lines =
        if phaseAfter .fresh (feedAll stamps model 0 .fresh usage earlier) = .closed then
          consumed earlier
        else (earlier.map meaning).filterMap Meaning.event? ++ consumed later) ∧
    Tally usage (consumed lines) reached ∧
    (∀ others : List String,
      (consumed others).filter Event.hasCount = (consumed lines).filter Event.hasCount →
      usageAfter usage (feedAll stamps model 0 .fresh usage others) = reached) ∧
    ∀ before ending counted after,
      consumed lines = before ++ .messageDelta ending counted :: after →
      after.filterMap Event.output? = [] → after.filterMap Event.input? = [] →
      ∀ created (response : Messages.Response) start,
        response.usage = ⟨reached.promptTokens, reached.completionTokens⟩ →
        (∀ fault, response.error = some fault → fault.isEmpty = true) →
        (Chat.Completion.ofResponse created model response start).2 = reached := by
  have isOpen : Phase.fresh ≠ .closed := by decide
  have counted := usageAfter_counted stamps model 0 usage lines isOpen
  have tally := tally_foldl (consumed lines) usage
  rw [← counted] at tally
  refine ⟨?_, tally, ?_, ?_⟩
  · rintro earlier later rfl
    exact consumed_append stamps model 0 usage earlier later isOpen
  · intro others same
    rw [usageAfter_counted stamps model 0 usage others isOpen, counted,
      Usage.foldl_filter_hasCount (consumed others), same, ← Usage.foldl_filter_hasCount]
  · intro before ending output after split noDelta noStart created response start told sound
    have settled := tally.settled before ending output after split noDelta noStart
    rw [ofResponse_success created model response start sound, told]
    exact settled.symm

/-- Two starts around a delta, then noise, a second delta with a count that is too great to be added
and, once the message is over, a third one. -/
def restarted : List String :=
  [eventLine (.messageStart ⟨"assistant", ⟨7, 0⟩⟩), eventLine (.messageDelta {} ⟨3⟩),
    eventLine (.messageStart ⟨"assistant", ⟨9, 0⟩⟩), ": noise",
    eventLine (.messageDelta {} ⟨4294967290⟩), eventLine .messageStop,
    eventLine (.messageDelta {} ⟨5⟩)]

theorem restarted_usage :
    consumed restarted = [.messageStart ⟨"assistant", ⟨7, 0⟩⟩, .messageDelta {} ⟨3⟩,
        .messageStart ⟨"assistant", ⟨9, 0⟩⟩] ++ .messageDelta {} ⟨4294967290⟩ :: [] ∧
      usageAfter {} (feedAll (fun _ => ⟨"", 0⟩) "m" 0 .fresh {} restarted) =
        ⟨9, 4294967290, 4294967295⟩ := by
  have split : consumed restarted = [.messageStart ⟨"assistant", ⟨7, 0⟩⟩, .messageDelta {} ⟨3⟩,
      .messageStart ⟨"assistant", ⟨9, 0⟩⟩] ++ .messageDelta {} ⟨4294967290⟩ :: [] := by
    have noise : meaning ": noise" = .noise := by decide
    simp only [restarted, consumed, List.map_cons, List.map_nil, meaning_eventLine, noise]
    rfl
  obtain ⟨_, tally, _, _⟩ := usage_of_consumed_events (fun _ => ⟨"", 0⟩) "m" {} restarted
  refine ⟨split, ?_⟩
  rw [tally.settled _ _ _ _ split rfl rfl, tally.prompt, tally.completion, split]
  decide

end Stream
end ChatGateway
