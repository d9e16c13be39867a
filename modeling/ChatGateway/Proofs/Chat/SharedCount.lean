import ChatGateway.Proofs.Chat.Content
import ChatGateway.Proofs.Stream.Accounting
import ChatGateway.Proofs.Stream.Reported
import Mathlib.Data.List.Induction

/-!
Several responses are turned into completions one after the other, with one token count for all of
them. A response that reports a failure leaves the count as it was, every other one overwrites it,
so that the count is always that of the last response without a failure; and a completion tells the
count that it leaves behind.
-/
namespace ChatGateway.Chat

open Messages (Fault Response)

/-- The response reports a failure and says something about it. -/
def Fails (response : Response) : Prop :=
  ∃ fault, response.error = some fault ∧ (fault.kind ≠ "" ∨ fault.message ≠ "")

/-- The count after responses, from the one before them: the counts of the last response without a
failure, with their sum or, if that is too great, the greatest count. -/
inductive Counted (start : Usage) (responses : List Response) : Usage → Prop where
  | untouched (allFail : ∀ response ∈ responses, Fails response) :
      Counted start responses start
  | last {earlier later : List Response} {response : Response} {usage : Usage}
      (split : responses = earlier ++ response :: later)
      (sound : ¬ Fails response)
      (laterFail : ∀ response ∈ later, Fails response)
      (prompt : usage.promptTokens = response.usage.inputTokens)
      (completion : usage.completionTokens = response.usage.outputTokens)
      (total : usage.totalTokens.toNat = min (UInt32.size - 1)
        (response.usage.inputTokens.toNat + response.usage.outputTokens.toNat)) :
      Counted start responses usage

/-- The completion says what the response says. -/
structure Conveys (model : String) (response : Response) (count : Usage)
    (completion : Completion) : Prop where
  id : completion.id = response.id
  model : completion.model = model
  usage : completion.usage = some count
  choice : ∃ choice, completion.choices = [choice] ∧ choice.index = 0 ∧
    choice.message.role = response.role ∧ ContentOf response.content choice.message.content ∧
    (choice.finishReason.isSome ↔ response.stopReason.isSome)

theorem isEmpty_of_not_fails {response : Response} (sound : ¬ Fails response) :
    ∀ fault, response.error = some fault → fault.isEmpty = true := by
  intro fault reported
  rw [Fault.isEmpty, Bool.and_eq_true, decide_eq_true_eq, decide_eq_true_eq]
  constructor
  · by_contra kind
    exact sound ⟨fault, reported, .inl kind⟩
  · by_contra message
    exact sound ⟨fault, reported, .inr message⟩

namespace Completion

variable {created : Int64} {model : String} {response : Response} {usage : Usage}

/-- A reported failure is the outcome, and the count stays. -/
theorem ofResponse_fails (fails : Fails response) :
    ∃ failure, (∀ fault, response.error = some fault → Reports fault failure) ∧
      ofResponse created model response usage = (.error (.provider failure), usage) := by
  obtain ⟨fault, reported, said⟩ := fails
  obtain ⟨failure, found, reports⟩ := ProviderFailure.ofFault?_reports fault said
  refine ⟨failure, ?_, ?_⟩
  · intro other same
    rw [reported] at same
    exact Option.some.inj same ▸ reports
  · simp only [ofResponse, reported, found]

/-- Without one the outcome is a completion, and the count is the response's own. -/
theorem ofResponse_sound (sound : ¬ Fails response) :
    ∃ completion count, ofResponse created model response usage = (.ok completion, count) ∧
      count = .ofCounts response.usage.inputTokens response.usage.outputTokens ∧
      Conveys model response count completion := by
  refine ⟨_, _, Stream.ofResponse_success created model response usage
    (isEmpty_of_not_fails sound), rfl, rfl, rfl, rfl, _, rfl, rfl, rfl,
    contentOf_first response.content, ?_⟩
  rw [Option.isSome_map]

/-- The count that a response leaves behind. -/
def countAfter (created : Int64) (model : String) (usage : Usage) (response : Response) : Usage :=
  (ofResponse created model response usage).2

/-- One more response, and the count is its own or the one before. -/
theorem counted_step {responses : List Response} {count : Usage}
    (counted : Counted usage responses count) :
    Counted usage (responses ++ [response]) (countAfter created model count response) := by
  rw [countAfter]
  by_cases fails : Fails response
  · obtain ⟨failure, _, outcome⟩ := ofResponse_fails fails
    rw [outcome]
    have failsToo {others : List Response} (allFail : ∀ other ∈ others, Fails other) :
        ∀ other ∈ others ++ [response], Fails other := by
      intro other member
      rcases List.mem_append.mp member with old | new
      · exact allFail other old
      · exact List.mem_singleton.mp new ▸ fails
    cases counted with
    | untouched allFail => exact .untouched (failsToo allFail)
    | last split sound laterFail prompt completion total =>
      have longer := congrArg (· ++ [response]) split
      rw [List.append_assoc, List.cons_append] at longer
      exact .last longer sound (failsToo laterFail) prompt completion total
  · obtain ⟨_, count, outcome, rfl, _⟩ := ofResponse_sound fails
    rw [outcome]
    exact .last rfl fails (by simp) rfl rfl (toNat_addTokens _ _)

/-- The count after all of the responses. -/
theorem counted_foldl (created : Int64) (model : String) (responses : List Response)
    (usage : Usage) :
    Counted usage responses (responses.foldl (countAfter created model) usage) := by
  induction responses using List.reverseRecOn with
  | nil => exact .untouched (by simp)
  | append_singleton earlier response ih =>
    rw [List.foldl_append]
    exact counted_step ih

theorem length_ofResponses (created : Int64) (model : String) (responses : List Response)
    (usage : Usage) : (ofResponses created model responses usage).length = responses.length := by
  induction responses generalizing usage with
  | nil => rfl
  | cons response rest ih => rw [ofResponses, List.length_cons, ih, List.length_cons]

/-- Each response meets the count that the ones before it left. -/
theorem ofResponses_at (created : Int64) (model : String) (earlier : List Response)
    (response : Response) (later : List Response) (usage : Usage) :
    (ofResponses created model (earlier ++ response :: later) usage)[earlier.length]? =
      some (ofResponse created model response
        (earlier.foldl (countAfter created model) usage)) := by
  induction earlier generalizing usage with
  | nil => rfl
  | cons first earlier ih =>
    rw [List.cons_append, ofResponses, List.length_cons, List.getElem?_cons_succ, ih]
    rfl

/-- Of responses that share a token count each has its outcome. At every place the count is that of
the last response without a failure up to there. The outcome is the provider's failure exactly when
the response reports one, and else a completion, which says what the response says and tells the
count that is left. -/
theorem responses_share_count (created : Int64) (model : String) (responses : List Response)
    (usage : Usage) :
    (ofResponses created model responses usage).length = responses.length ∧
    ∀ earlier response later, responses = earlier ++ response :: later →
      ∃ outcome count,
        (ofResponses created model responses usage)[earlier.length]? = some (outcome, count) ∧
        Counted usage (earlier ++ [response]) count ∧
        ((∃ failure, outcome = .error (.provider failure)) ↔ Fails response) ∧
        (∀ fault failure, response.error = some fault → outcome = .error (.provider failure) →
          Reports fault failure) ∧
        (¬ Fails response → ∃ completion, outcome = .ok completion) ∧
        ∀ completion, outcome = .ok completion → Conveys model response count completion := by
  refine ⟨length_ofResponses created model responses usage, ?_⟩
  rintro earlier response later rfl
  have place := ofResponses_at created model earlier response later usage
  have counted : Counted usage (earlier ++ [response])
      (countAfter created model (earlier.foldl (countAfter created model) usage) response) :=
    counted_step (counted_foldl created model earlier usage)
  rw [countAfter] at counted
  generalize earlier.foldl (countAfter created model) usage = met at place counted
  by_cases fails : Fails response
  · obtain ⟨failure, reports, outcome⟩ := ofResponse_fails fails
    rw [outcome] at place counted
    refine ⟨_, _, place, counted, ⟨fun _ => fails, fun _ => ⟨failure, rfl⟩⟩, ?_,
      fun sound => absurd fails sound, nofun⟩
    rintro fault _ reported ⟨⟩
    exact reports fault reported
  · obtain ⟨completion, count, outcome, _, conveys⟩ := ofResponse_sound fails
    rw [outcome] at place counted
    refine ⟨_, _, place, counted, ⟨nofun, fun failing => absurd failing fails⟩, nofun,
      fun _ => ⟨completion, rfl⟩, ?_⟩
    rintro _ ⟨⟩
    exact conveys

/-- A block of another type comes first, and the counts are too great to be added. -/
def greeting : Response where
  content := [⟨"thinking", "Hm"⟩, ⟨"", "  Hi"⟩]
  usage := ⟨3, 4294967295⟩

/-- A failure that comes with counts. -/
def overloaded : Response where
  usage := ⟨7, 7⟩
  error := some Stream.busy

theorem overloaded_keeps_count :
    (∃ completion, Conveys "m" greeting ⟨3, 4294967295, 4294967295⟩ completion ∧
      (ofResponses 0 "m" [greeting, overloaded] {})[0]? =
        some (.ok completion, ⟨3, 4294967295, 4294967295⟩)) ∧
    (∃ failure, Reports Stream.busy failure ∧
      (ofResponses 0 "m" [greeting, overloaded] {})[1]? =
        some (.error (.provider failure), ⟨3, 4294967295, 4294967295⟩)) ∧
    Counted {} [greeting, overloaded] ⟨3, 4294967295, 4294967295⟩ := by
  obtain ⟨_, places⟩ := responses_share_count 0 "m" [greeting, overloaded] {}
  have sound : ¬ Fails greeting := by
    rintro ⟨_, ⟨⟩, _⟩
  have fails : Fails overloaded := ⟨Stream.busy, rfl, .inl (by decide)⟩
  refine ⟨?_, ?_⟩
  · obtain ⟨outcome, count, place, _, _, _, completes, conveys⟩ := places [] _ _ rfl
    obtain ⟨completion, rfl⟩ := completes sound
    have known : count = ⟨3, 4294967295, 4294967295⟩ :=
      congrArg Prod.snd (Option.some.inj place).symm
    subst known
    exact ⟨completion, conveys completion rfl, place⟩
  · obtain ⟨outcome, count, place, counted, failed, reports, _, _⟩ := places [greeting] _ _ rfl
    obtain ⟨failure, rfl⟩ := failed.mpr fails
    have known : count = ⟨3, 4294967295, 4294967295⟩ :=
      congrArg Prod.snd (Option.some.inj place).symm
    subst known
    exact ⟨⟨failure, reports _ failure rfl rfl, place⟩, counted⟩

end Completion

end ChatGateway.Chat
