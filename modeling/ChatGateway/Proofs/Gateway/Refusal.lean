import ChatGateway.Gateway.Routes
import ChatGateway.Proofs.Chat.CompletionText
import ChatGateway.Proofs.Gateway.OneCall
import ChatGateway.Proofs.Stream.Reported

/-!
A provider that refuses a call answers with an error status. The body of such a reply is read in two
places, for a completion in one piece and for a stream, and both come to the same failure: the one
that the body reports, or else the refusal with the body as it is. The client gets it as a status
and a report, `Shown`, which do not depend on how it asked.
-/
namespace ChatGateway

open Chat (Completion ErrorReport)
open Messages (Fault NothingReported Response)

/-- What is told of a refusal with that status and that text. -/
inductive ToldOfRefusal (status : Nat) (text : String) : Failure → Prop where
  | reported {response : Response} {fault : Fault} {failure : ProviderFailure}
      (read : Response.ofText text = .ok response) (carried : response.error = some fault)
      (said : fault.kind ≠ "" ∨ fault.message ≠ "") (reports : Reports fault failure) :
      ToldOfRefusal status text (.provider failure)
  | verbatim
      (silent : ∀ response, Response.ofText text = .ok response → NothingReported response.error) :
      ToldOfRefusal status text (.refused status text)

/-- The status and the report that a client gets of a refusal: those of a bad request when the
provider reported a failure, and else those of a gateway that cannot reach its provider, with all
that the provider said. -/
inductive Shown : Failure → Nat → ErrorReport → Prop where
  | reported (report : ErrorReport) : Shown (.provider ⟨400, report⟩) 400 report
  | refused (status : Nat) (text : String) :
      Shown (.refused status text) 502
        ⟨"Claude API returned HTTP " ++ toString status ++ ": " ++ text, "upstream_error", none⟩

theorem Reports.unique {fault : Fault} {failure other : ProviderFailure}
    (reports : Reports fault failure) (too : Reports fault other) : failure = other := by
  obtain ⟨status, message, kind, code⟩ := failure
  obtain ⟨otherStatus, otherMessage, otherKind, otherCode⟩ := other
  obtain ⟨rfl, rfl, rfl, rfl⟩ := reports
  obtain ⟨rfl, rfl, rfl, rfl⟩ := too
  rfl

namespace ToldOfRefusal

variable {status : Nat} {text : String} {failure other : Failure}

theorem unique (told : ToldOfRefusal status text failure) (too : ToldOfRefusal status text other) :
    failure = other := by
  -- No text both reports something and reports nothing.
  have clash {response : Response} {fault : Fault} (read : Response.ofText text = .ok response)
      (carried : response.error = some fault) (said : fault.kind ≠ "" ∨ fault.message ≠ "")
      (silent : ∀ response, Response.ofText text = .ok response →
        NothingReported response.error) : False := by
    obtain ⟨noKind, noMessage⟩ := silent _ read _ carried
    rcases said with kind | message
    · exact kind noKind
    · exact message noMessage
  cases told with
  | reported read carried said reports =>
    cases too with
    | reported readToo carriedToo _ reportsToo =>
      cases read.symm.trans readToo
      cases carried.symm.trans carriedToo
      rw [reports.unique reportsToo]
    | verbatim silent => exact (clash read carried said silent).elim
  | verbatim silent =>
    cases too with
    | reported read carried said _ => exact (clash read carried said silent).elim
    | verbatim _ => rfl

theorem exists_shown (told : ToldOfRefusal status text failure) :
    ∃ shown report, Shown failure shown report := by
  cases told with
  | @reported _ _ failure _ _ _ reports =>
    obtain ⟨_, report⟩ := failure
    obtain ⟨rfl, _, _, _⟩ := reports
    exact ⟨400, report, .reported report⟩
  | verbatim _ => exact ⟨502, _, .refused status text⟩

end ToldOfRefusal

namespace ProviderFailure

theorem reports_of_ofFault? {error : Option Fault} {failure : ProviderFailure}
    (mapped : ofFault? error = some failure) :
    ∃ fault, error = some fault ∧ (fault.kind ≠ "" ∨ fault.message ≠ "") ∧
      Reports fault failure := by
  cases error with
  | none => cases mapped
  | some fault =>
    have said : fault.kind ≠ "" ∨ fault.message ≠ "" := by
      by_contra silent
      rw [not_or, not_not, not_not] at silent
      have nothing : NothingReported (some fault) := by
        rintro _ ⟨⟩
        exact silent
      rw [ofFault?_nothing nothing] at mapped
      cases mapped
    obtain ⟨found, same, reports⟩ := ofFault?_reports fault said
    rw [mapped] at same
    cases same
    exact ⟨fault, rfl, said, reports⟩

theorem nothing_of_ofFault? {error : Option Fault} (unmapped : ofFault? error = none) :
    NothingReported error := by
  rintro fault rfl
  by_contra said
  obtain ⟨failure, same, _⟩ := ofFault?_reports fault (by tauto)
  rw [unmapped] at same
  cases same

end ProviderFailure

namespace Provider

variable {reply : Http.Reply} {text : String} {fault : Http.Fault}

theorem reported?_eq_some {response : Response} :
    reported? text = some response ↔
      Response.ofText text = .ok response ∧
        (ProviderFailure.ofFault? response.error).isSome = true := by
  rw [reported?]
  cases read : Response.ofText text with
  | error error => simp
  | ok found =>
    simp only [Option.ite_none_right_eq_some, Option.some.injEq, Except.ok.injEq]
    constructor
    · rintro ⟨reports, rfl⟩
      exact ⟨rfl, reports⟩
    · rintro ⟨rfl, reports⟩
      exact ⟨reports, rfl⟩

/-- What is told of a refusal is whatever is found reported in its text. -/
theorem told_cases (text : String) :
    (reported? text = none ∧ ∀ status, ToldOfRefusal status text (.refused status text)) ∨
    ∃ response failure, reported? text = some response ∧
      ProviderFailure.ofFault? response.error = some failure ∧
      ∀ status, ToldOfRefusal status text (.provider failure) := by
  cases reports : reported? text with
  | none =>
    refine .inl ⟨rfl, fun status => .verbatim fun response read => ?_⟩
    cases mapped : ProviderFailure.ofFault? response.error with
    | none => exact ProviderFailure.nothing_of_ofFault? mapped
    | some failure =>
      have found : reported? text = some response :=
        reported?_eq_some.mpr ⟨read, by rw [mapped]; rfl⟩
      rw [reports] at found
      cases found
  | some response =>
    obtain ⟨read, reported⟩ := reported?_eq_some.mp reports
    obtain ⟨failure, mapped⟩ := Option.isSome_iff_exists.mp reported
    obtain ⟨fault, carried, said, same⟩ := ProviderFailure.reports_of_ofFault? mapped
    exact .inr ⟨response, failure, rfl, mapped, fun _ => .reported read carried said same⟩

/-- Read for a stream, a refusal is what the body reports, or else the body as it is. -/
theorem refusal_told (full : reply.text = .ok text) :
    ToldOfRefusal reply.status text (refusal reply) := by
  unfold refusal
  rw [full]
  rcases told_cases text with ⟨unreported, verbatim⟩ | ⟨response, failure, reports, mapped, told⟩
  · simp only [Except.toOption, Option.getD_some, unreported, Option.bind_none]
    exact verbatim reply.status
  · simp only [Except.toOption, Option.getD_some, reports, Option.bind_some, mapped]
    exact told reply.status

theorem exists_told (status : Nat) (text : String) :
    ∃ failure, ToldOfRefusal status text failure := by
  rcases told_cases text with ⟨_, verbatim⟩ | ⟨_, failure, _, _, told⟩
  · exact ⟨_, verbatim status⟩
  · exact ⟨_, told status⟩

theorem responseOf_refused (refused : reply.isSuccess = false) (full : reply.text = .ok text) :
    (∀ response, reported? text = some response → responseOf reply = .ok response) ∧
      (reported? text = none → responseOf reply = .error (.refused reply.status text)) := by
  constructor
  · intro response reports
    simp only [responseOf, ofFault, full, refused, Except.mapError, bind, Except.bind,
      Bool.false_eq_true, if_false, reports]
    rfl
  · intro unreported
    simp only [responseOf, ofFault, full, refused, Except.mapError, bind, Except.bind,
      Bool.false_eq_true, if_false, unreported]
    rfl

/-- Read in one piece and translated, it is the same. -/
theorem translated_told (refused : reply.isSuccess = false) (full : reply.text = .ok text)
    (created : Int64) (model : String) (usage : Chat.Usage) :
    ∃ failure, ToldOfRefusal reply.status text failure ∧
      (responseOf reply >>= fun response =>
        (Completion.ofResponse created model response usage).1) = .error failure := by
  obtain ⟨given, withheld⟩ := responseOf_refused refused full
  rcases told_cases text with ⟨unreported, verbatim⟩ | ⟨response, failure, reports, mapped, told⟩
  · refine ⟨_, verbatim reply.status, ?_⟩
    rw [withheld unreported]
    rfl
  · refine ⟨_, told reply.status, ?_⟩
    rw [given response reports]
    change (Completion.ofResponse created model response usage).1 = _
    simp only [Completion.ofResponse, mapped]

/-- A body that breaks off is a fault of the connection for a completion in one piece, and for a
stream a refusal without a body. -/
theorem broken_told (refused : reply.isSuccess = false) (broken : reply.bytes = .error fault) :
    responseOf reply = .error (.http fault.message) ∧
      linesOf reply = .error (.refused reply.status "") := by
  have noText : reply.text = .error fault := by
    rw [Http.Reply.text, broken]
    rfl
  have nothing : reported? "" = none := by
    rw [reported?, show Response.ofText "" = .error .malformed from rfl]
  constructor
  · simp only [responseOf, ofFault, noText, Except.mapError]
    rfl
  · have empty : reply.text.toOption.getD "" = "" := by
      rw [noText]
      rfl
    have verbatim : refusal reply = .refused reply.status "" := by
      unfold refusal
      simp only [empty, nothing, Option.bind_none]
    rw [linesOf, refused, verbatim]
    rfl

end Provider

namespace Gateway

variable {provider : Provider} {world : World} {text : String} {status : Nat}

/-- A reply that refuses with a status, and what came of its body. -/
structure Refuses (status : Nat) (body : Except Http.Fault (List UInt8)) (reply : Http.Reply) :
    Prop where
  outside : status < 200 ∨ 300 ≤ status
  sameStatus : reply.status = status
  sameBody : reply.bytes = body

/-- Work that sends a call, which is refused. -/
def CallRefused (world : World) (status : Nat) (body : Except Http.Fault (List UInt8))
    (work : Traced Effect Answer) : Prop :=
  ∃ post reply, Effect.post post ∈ work.effects ∧ world.network post = some reply ∧
    Refuses status body reply

/-- The answer has a status and, in an envelope, a report. -/
structure Tells (status : Nat) (report : ErrorReport) (answer : Answer) : Prop where
  status : answer.status = status
  kind : ⟨"content-type", "application/json"⟩ ∈ answer.headers
  envelope : Json.decodeText Chat.ErrorResponse.decoder answer.body = .ok ⟨report⟩

theorem Tells.ofFailure (failure : Failure) :
    Tells failure.status failure.report (.ofFailure failure) where
  status := rfl
  kind := List.mem_singleton_self _
  envelope := Chat.ErrorResponse.decodeText_toJson failure.response

theorem Tells.of_shown {failure : Failure} {shown : Nat} {report : ErrorReport}
    (shows : Shown failure shown report) : Tells shown report (.ofFailure failure) := by
  cases shows with
  | reported report => exact Tells.ofFailure (.provider ⟨400, report⟩)
  | refused status text => exact Tells.ofFailure (.refused status text)

/-- What is told of a failure of the connection to the provider. -/
structure TellsUpstream (failure : Failure) : Prop where
  status : failure.status = 502
  kind : failure.report.kind = "upstream_error"

/-- The client learns that the provider could not be reached. -/
def ShowsUpstream (answer : Answer) : Prop :=
  ∃ report, report.kind = "upstream_error" ∧ Tells 502 report answer

theorem TellsUpstream.shows {failure : Failure} (tells : TellsUpstream failure) :
    ShowsUpstream (.ofFailure failure) := by
  have told := Tells.ofFailure failure
  rw [tells.status] at told
  exact ⟨_, tells.kind, told⟩

theorem Refuses.refused {body : Except Http.Fault (List UInt8)} {reply : Http.Reply}
    (refuses : Refuses status body reply) : reply.isSuccess = false := by
  have outside := refuses.outside
  rw [Http.Reply.isSuccess, refuses.sameStatus, Bool.and_eq_false_iff, decide_eq_false_iff_not,
    decide_eq_false_iff_not]
  omega

theorem Refuses.full {raw : List UInt8} {reply : Http.Reply}
    (refuses : Refuses status (.ok raw) reply) :
    reply.text = .ok (String.ofList (Text.Utf8.decodeLossy raw)) := by
  rw [Http.Reply.text, refuses.sameBody]
  rfl

theorem answer_of_error {work : Traced Effect Answer} {failure : Failure}
    (failed : work.result = .error failure) :
    (Handled.ofTraced work).answer = .ofFailure failure := by
  rw [Handled.ofTraced, failed]

/-- A refusal with that status and that body ends in a failure that is told like that, a completion
in one piece once it is translated, a stream, and the work for a client that wants either. The
answer to the client shows it like that. -/
structure RefusalEnds (provider : Provider) (world : World) (status : Nat)
    (body : Except Http.Fault (List UInt8)) (told : Failure → Prop) (shown : Answer → Prop) :
    Prop where
  whole : ∀ request post reply, provider.post false request = .ok post →
    world.network post = some reply → Refuses status body reply →
    ∀ created model usage, ∃ failure, told failure ∧
      (provider.create world.network request >>= fun response =>
        (Completion.ofResponse created model response usage).1) = .error failure
  streamed : ∀ request post reply, provider.post true request = .ok post →
    world.network post = some reply → Refuses status body reply →
    ∃ failure, told failure ∧ provider.openStream world.network request = .error failure
  client : ∀ text, CallRefused world status body (complete provider world text) →
    (∃ failure, told failure ∧ (complete provider world text).result = .error failure) ∧
      shown (Handled.ofTraced (complete provider world text)).answer

/-- It is enough to look at how the reply is read for either. -/
theorem RefusalEnds.of_read {body : Except Http.Fault (List UInt8)} {told : Failure → Prop}
    {shown : Answer → Prop} (shows : ∀ failure, told failure → shown (.ofFailure failure))
    (whole : ∀ reply, Refuses status body reply → ∀ created model usage, ∃ failure, told failure ∧
      (Provider.responseOf reply >>= fun response =>
        (Completion.ofResponse created model response usage).1) = .error failure)
    (lines : ∀ reply, Refuses status body reply →
      ∃ failure, told failure ∧ Provider.linesOf reply = .error failure) :
    RefusalEnds provider world status body told shown where
  whole := by
    intro request post reply built answered refuses created model usage
    obtain ⟨failure, same, failed⟩ := whole reply refuses created model usage
    refine ⟨failure, same, ?_⟩
    have replied : provider.create world.network request = Provider.responseOf reply := by
      rw [Provider.create, built]
      exact exchange_answered answered _
    rw [replied, failed]
  streamed := by
    intro request post reply built answered refuses
    obtain ⟨failure, same, failed⟩ := lines reply refuses
    refine ⟨failure, same, ?_⟩
    rw [Provider.openStream, built]
    exact (exchange_answered answered _).trans failed
  client := by
    rintro text ⟨post, reply, sent, answered, refuses⟩
    -- The call is the last stage, so whatever comes of it is what the client is told.
    obtain ⟨chat, _, _, _, _, called⟩ :=
      (complete_course provider world text).of_post_mem sent
    have ended : ∃ failure, told failure ∧ outcome world chat post = .error failure := by
      rw [outcome]
      split
      · obtain ⟨failure, same, failed⟩ := lines reply refuses
        refine ⟨failure, same, ?_⟩
        rw [streamedOutcome, exchange_answered answered, failed]
        rfl
      · obtain ⟨failure, same, failed⟩ := whole reply refuses world.created chat.model {}
        refine ⟨failure, same, ?_⟩
        rw [wholeOutcome, exchange_answered answered, ← bind_assoc, failed]
        rfl
    obtain ⟨failure, same, failed⟩ := ended
    have result : (complete provider world text).result = .error failure := by
      rw [called, failed]
    refine ⟨⟨failure, same, result⟩, ?_⟩
    rw [answer_of_error result]
    exact shows failure same

/-- The status of a refusal and its body, when that came in full, decide what is told, with or
without a stream: what the body reports, or else the refusal with the body as it is. So they decide
the status and the report that the client gets. When the body broke off, both ways tell that the
provider could not be reached. -/
theorem refusal_told_alike (provider : Provider) (world : World) (status : Nat) :
    (∀ raw : List UInt8, ∃ failure shown report,
      (∀ other, ToldOfRefusal status (String.ofList (Text.Utf8.decodeLossy raw)) other ↔
        other = failure) ∧
      Shown failure shown report ∧
      RefusalEnds provider world status (.ok raw) (· = failure) (Tells shown report)) ∧
    ∀ fault, RefusalEnds provider world status (.error fault) TellsUpstream ShowsUpstream := by
  constructor
  · intro raw
    obtain ⟨failure, told⟩ := Provider.exists_told status
      (String.ofList (Text.Utf8.decodeLossy raw))
    obtain ⟨shown, report, shows⟩ := told.exists_shown
    refine ⟨failure, shown, report, fun other => ⟨fun too => too.unique told, ?_⟩, shows,
      .of_read ?_ ?_ ?_⟩
    · rintro rfl
      exact told
    · rintro _ rfl
      exact .of_shown shows
    · intro reply refuses created model usage
      obtain ⟨found, same, failed⟩ := Provider.translated_told refuses.refused refuses.full
        created model usage
      rw [refuses.sameStatus] at same
      exact ⟨found, same.unique told, failed⟩
    · intro reply refuses
      have same := Provider.refusal_told refuses.full
      rw [refuses.sameStatus] at same
      exact ⟨_, same.unique told, by rw [Provider.linesOf, refuses.refused]; rfl⟩
  · intro fault
    refine .of_read (fun _ tells => tells.shows) ?_ ?_
    · intro reply refuses created model usage
      obtain ⟨failed, _⟩ := Provider.broken_told refuses.refused refuses.sameBody
      exact ⟨_, ⟨rfl, rfl⟩, by rw [failed]; rfl⟩
    · intro reply refuses
      obtain ⟨_, failed⟩ := Provider.broken_told refuses.refused refuses.sameBody
      exact ⟨_, ⟨rfl, rfl⟩, failed⟩

/-- The provider refuses everything with that status and that body, which may break off. -/
def refusing (status : Nat) (body : String) (isBroken : Bool) : World where
  fetch := Messages.onlyFirst
  network _ := some { status, chunks := [Text.Utf8.encode body.toList], isBroken }
  created := 0
  timestamp := ""
  stamps _ := ⟨"", 0⟩

/-- The text of the same conversation for a client that wants a stream or not. -/
def soundText (stream : Bool) : String :=
  ({ Messages.sound with stream } : Chat.Request).toJson.text

theorem refusing_refuses (body : String) (isBroken stream : Bool)
    {came : Except Http.Fault (List UInt8)} (outside : status < 200 ∨ 300 ≤ status)
    (comes : (if isBroken then .error .truncated else .ok (Text.Utf8.encode body.toList)) = came) :
    CallRefused (refusing status body isBroken) status came
      (complete loopback (refusing status body isBroken) (soundText stream)) := by
  obtain ⟨_, _, built⟩ := loopback_valid.post
  have read := chatRequest_text { Messages.sound with stream } rfl
  obtain ⟨messages, translated⟩ : ∃ messages,
      (Messages.Request.ofChat (refusing status body isBroken).fetch
        { Messages.sound with stream }).result = .ok messages := ⟨_, rfl⟩
  refine ⟨_, _, post_mem_complete read translated (built stream messages), rfl, outside, rfl, ?_⟩
  rw [← comes, Http.Reply.bytes, List.flatten_singleton]

/-- The provider is overloaded, and tells so. -/
def busyBody : String :=
  "\x7b\"error\":\x7b\"type\":\"overloaded_error\",\"message\":\"Busy\"\x7d\x7d"

/-- The same conversation with and without a stream: the provider reports a failure, answers with a
text that is no report, or breaks off. -/
theorem busy_told_alike :
    (Tells 400 ⟨"Busy", "overloaded_error", some "overloaded_error"⟩ (Handled.ofTraced
        (complete loopback (refusing 529 busyBody false) (soundText false))).answer ∧
      Tells 400 ⟨"Busy", "overloaded_error", some "overloaded_error"⟩ (Handled.ofTraced
        (complete loopback (refusing 529 busyBody false) (soundText true))).answer) ∧
    (Tells 502 ⟨"Claude API returned HTTP 503: down", "upstream_error", none⟩ (Handled.ofTraced
        (complete loopback (refusing 503 "down" false) (soundText false))).answer ∧
      Tells 502 ⟨"Claude API returned HTTP 503: down", "upstream_error", none⟩ (Handled.ofTraced
        (complete loopback (refusing 503 "down" false) (soundText true))).answer) ∧
    ShowsUpstream (Handled.ofTraced
        (complete loopback (refusing 529 busyBody true) (soundText false))).answer ∧
      ShowsUpstream (Handled.ofTraced
        (complete loopback (refusing 529 busyBody true) (soundText true))).answer := by
  have busyText : String.ofList (Text.Utf8.decodeLossy (Text.Utf8.encode busyBody.toList)) =
      busyBody := by decide +kernel
  have busy : Response.ofText busyBody =
      .ok { error := some ⟨"overloaded_error", "Busy"⟩ } := by decide +kernel
  have downText : String.ofList (Text.Utf8.decodeLossy (Text.Utf8.encode "down".toList)) =
      "down" := by decide +kernel
  have down : Response.ofText "down" = .error .malformed := by decide +kernel
  refine ⟨?_, ?_, ?_⟩
  · obtain ⟨failure, _, _, tells, shows, ends⟩ :=
      (refusal_told_alike loopback (refusing 529 busyBody false) 529).1
        (Text.Utf8.encode busyBody.toList)
    rw [busyText] at tells
    have reported : ToldOfRefusal 529 busyBody
        (.provider ⟨400, ⟨"Busy", "overloaded_error", some "overloaded_error"⟩⟩) :=
      .reported busy rfl (.inl (by decide)) ⟨rfl, rfl, rfl, rfl⟩
    obtain rfl := (tells _).mp reported
    cases shows
    exact ⟨(ends.client _ (refusing_refuses busyBody false false (by decide) rfl)).2,
      (ends.client _ (refusing_refuses busyBody false true (by decide) rfl)).2⟩
  · obtain ⟨failure, _, _, tells, shows, ends⟩ :=
      (refusal_told_alike loopback (refusing 503 "down" false) 503).1
        (Text.Utf8.encode "down".toList)
    rw [downText] at tells
    obtain rfl := (tells _).mp (.verbatim fun response read => by cases down.symm.trans read)
    cases shows
    exact ⟨(ends.client _ (refusing_refuses "down" false false (by decide) rfl)).2,
      (ends.client _ (refusing_refuses "down" false true (by decide) rfl)).2⟩
  · have ends := (refusal_told_alike loopback (refusing 529 busyBody true) 529).2 .truncated
    exact ⟨(ends.client _ (refusing_refuses busyBody true false (by decide) rfl)).2,
      (ends.client _ (refusing_refuses busyBody true true (by decide) rfl)).2⟩

end Gateway

end ChatGateway
