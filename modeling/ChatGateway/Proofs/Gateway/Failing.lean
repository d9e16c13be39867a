import ChatGateway.Proofs.Chat.CompletionText
import ChatGateway.Proofs.Gateway.Refusal

/-!
Where the work on a chat request can fail, from the text that cannot be read to the reply that
cannot be used. Wherever it does, the failure has one of three statuses, and the client is told of
it in one envelope that holds its report.
-/
namespace ChatGateway

/-- The fault is the client's, the gateway's or the provider's. -/
def errorStatuses : List Nat := [400, 500, 502]

/-- Only what the provider reported could have another status. -/
theorem Failure.status_known {failure : Failure}
    (reported : ∀ told, failure = .provider told → told.status = 400) :
    failure.status ∈ errorStatuses := by
  cases failure with
  | provider told => simp [Failure.status, reported told rfl, errorStatuses]
  | _ => simp [Failure.status, errorStatuses]

/-- Either all is well or there is a failure with a status for failures. -/
inductive Ends {α : Type} (good : α → Prop) : Except Failure α → Prop where
  | well {value : α} (holds : good value) : Ends good (.ok value)
  | failed {failure : Failure} (known : failure.status ∈ errorStatuses) :
      Ends good (.error failure)

namespace Ends

variable {α β : Type} {good : α → Prop} {better : β → Prop} {outcome : Except Failure α}

theorem andThen {next : α → Except Failure β} (first : Ends good outcome)
    (second : ∀ value, good value → Ends better (next value)) : Ends better (outcome >>= next) := by
  cases first with
  | well holds => exact second _ holds
  | failed known => exact .failed known

/-- The fault of a part is none that the provider reported. -/
theorem mapError {ε : Type} {part : Except ε α} {f : ε → Failure}
    (own : ∀ fault told, f fault ≠ .provider told) : Ends (fun _ => True) (part.mapError f) := by
  cases part with
  | error fault =>
    exact .failed (Failure.status_known fun told same => absurd same (own fault told))
  | ok value => exact .well trivial

theorem of_error {failure : Failure} (ends : Ends good outcome)
    (failed : outcome = .error failure) : failure.status ∈ errorStatuses := by
  cases ends with
  | well holds => cases failed
  | failed known =>
    cases failed
    exact known

theorem of_ok {value : α} (ends : Ends good outcome) (well : outcome = .ok value) :
    good value := by
  cases ends with
  | well holds =>
    cases well
    exact holds
  | failed known => cases well

end Ends

/-- What the provider reports is passed on as a fault of the client. -/
theorem ProviderFailure.status_of_ofFault? {error : Option Messages.Fault}
    {failure : ProviderFailure} (mapped : ofFault? error = some failure) :
    (Failure.provider failure).status ∈ errorStatuses := by
  obtain ⟨_, _, _, reports⟩ := reports_of_ofFault? mapped
  refine Failure.status_known ?_
  rintro _ ⟨⟩
  exact reports.status

theorem Messages.ofChat_ends (fetch : Image.Fetcher) (chat : Chat.Request) :
    Ends (fun _ => True) (Request.ofChat fetch chat).result := by
  cases translated : (Request.ofChat fetch chat).result with
  | ok messages => exact .well trivial
  | error failure =>
    obtain ⟨_, need, _, _, _, fails, _⟩ := (ofChat_meets fetch chat).of_error translated
    refine .failed (Failure.status_known ?_)
    rintro told rfl
    cases need with
    | plainPrompt content => cases content <;> cases fails
    | image url =>
      rw [Need.failure?] at fails
      split at fails <;> cases fails

theorem Chat.Completion.ofResponse_ends (created : Int64) (model : String)
    (response : Messages.Response) (usage : Chat.Usage) :
    Ends (fun _ => True) (ofResponse created model response usage).1 := by
  rw [ofResponse]
  cases mapped : ProviderFailure.ofFault? response.error with
  | none => exact .well trivial
  | some failure => exact .failed (ProviderFailure.status_of_ofFault? mapped)

namespace Provider

theorem ofFault_ends {α : Type} (outcome : Except Http.Fault α) :
    Ends (fun _ => True) (ofFault outcome) :=
  .mapError fun _ _ => by simp

theorem post_ends (provider : Provider) (streamed : Bool) (request : Messages.Request) :
    Ends (fun _ => True) (provider.post streamed request) :=
  .mapError fun _ _ => by simp

theorem responseOf_ends (reply : Http.Reply) : Ends (fun _ => True) (responseOf reply) := by
  refine (ofFault_ends _).andThen fun body _ => ?_
  split
  · exact .mapError fun _ _ => by simp
  · split
    · exact .well trivial
    · exact .failed (Failure.status_known (by simp))

theorem linesOf_ends (reply : Http.Reply) : Ends (fun _ => True) (linesOf reply) := by
  rw [linesOf]
  split
  · exact .well trivial
  · refine .failed ?_
    unfold refusal
    dsimp only
    split
    next mapped =>
      obtain ⟨response, _, mapped⟩ := Option.bind_eq_some_iff.mp mapped
      exact ProviderFailure.status_of_ofFault? mapped
    next => exact Failure.status_known (by simp)

theorem exchange_ends {α : Type} {network : Http.Network} {read : Http.Reply → Except Failure α}
    (reads : ∀ reply, Ends (fun _ => True) (read reply)) (post : Http.Request) :
    Ends (fun _ => True) (exchange network read post) :=
  (ofFault_ends _).andThen fun reply _ => reads reply

end Provider

namespace Gateway

variable {provider : Provider} {world : World} {text : String} {failure : Failure}

theorem chatRequest_failed (read : chatRequest text = .error failure) :
    failure.status = 400 ∧ failure.report.kind = "invalid_request_error" := by
  rw [chatRequest] at read
  cases decoded : Json.decodeText Chat.Request.decoder text with
  | error fault =>
    rw [decoded] at read
    cases read
    exact ⟨rfl, rfl⟩
  | ok chat =>
    rw [decoded] at read
    cases read

theorem outcome_ends (world : World) (chat : Chat.Request) (post : Http.Request) :
    Ends (fun answer => answer.status = 200) (outcome world chat post) := by
  rw [outcome]
  split
  · exact (Provider.exchange_ends Provider.linesOf_ends post).andThen fun _ _ => .well rfl
  · refine (Provider.exchange_ends Provider.responseOf_ends post).andThen fun response _ => ?_
    exact (Chat.Completion.ofResponse_ends _ _ response _).andThen fun _ _ => .well rfl

/-- Whatever the text and whatever is met outside. -/
theorem complete_ends (provider : Provider) (world : World) (text : String) :
    Ends (fun answer => answer.status = 200) (complete provider world text).result := by
  have course := complete_course provider world text
  generalize complete provider world text = work at course ⊢
  cases course with
  | unread read => exact .failed (by simp [(chatRequest_failed read).1, errorStatuses])
  | untranslated read refused =>
    exact .failed ((Messages.ofChat_ends world.fetch _).of_error refused)
  | unbuilt read translated unbuilt => exact .failed ((provider.post_ends _ _).of_error unbuilt)
  | called read translated built => exact outcome_ends world _ _

/-- The answer tells of a failure: with its status, and with its report in an envelope. -/
abbrev TellsOf (failure : Failure) (answer : Answer) : Prop :=
  Tells failure.status failure.report answer

/-- There is an answer that is fine, or the client is told of the failure. -/
theorem handled_or_told (provider : Provider) (world : World) (text : String) :
    let work := complete provider world text
    ((∃ answer, work.result = .ok answer) ∧ (Handled.ofTraced work).answer.status = 200) ∨
    ∃ failure, work.result = .error failure ∧ failure.status ∈ errorStatuses ∧
      TellsOf failure (Handled.ofTraced work).answer := by
  intro work
  have ends := complete_ends provider world text
  rw [Handled.ofTraced]
  cases result : work.result with
  | ok answer => exact .inl ⟨⟨answer, rfl⟩, ends.of_ok result⟩
  | error failure => exact .inr ⟨failure, rfl, ends.of_error result, Tells.ofFailure failure⟩

end Gateway

end ChatGateway
