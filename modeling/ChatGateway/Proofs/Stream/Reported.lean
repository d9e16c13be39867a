import ChatGateway.Chat.OfMessages
import ChatGateway.Proofs.Messages.Envelope
import ChatGateway.Proofs.Stream.Meaning

/-!
A failure that the provider reports counts before everything that comes with it, in a stream as in
one piece, and both ways the client is told the same. A report that says nothing might as well be
left out.
-/
namespace ChatGateway

open Chat (Completion Usage)
open Messages (Envelope Fault NothingReported Response)

/-- The failure is what the provider reported, in the client's terms. -/
structure Reports (fault : Fault) (failure : ProviderFailure) : Prop where
  status : failure.status = 400
  message : failure.report.message = fault.message
  kind : failure.report.kind = fault.kind
  code : failure.report.code = if fault.kind = "" then none else some fault.kind

namespace ProviderFailure

theorem ofFault?_reports (fault : Fault) (said : fault.kind ≠ "" ∨ fault.message ≠ "") :
    ∃ failure, ofFault? (some fault) = some failure ∧ Reports fault failure := by
  have given : fault.isEmpty = false := by
    rcases said with said | said <;> simp [Fault.isEmpty, said]
  refine ⟨⟨400, ⟨fault.message, fault.kind, if fault.kind = "" then none else some fault.kind⟩⟩,
    ?_, ⟨rfl, rfl, rfl, rfl⟩⟩
  simp only [ofFault?, given, Bool.false_eq_true, if_false]

theorem ofFault?_nothing {error : Option Fault} (nothing : NothingReported error) :
    ofFault? error = none := by
  cases error with
  | none => rfl
  | some fault =>
    obtain ⟨kind, message⟩ := nothing fault rfl
    simp [ofFault?, Fault.isEmpty, kind, message]

end ProviderFailure

namespace Stream

/-- A failure in the envelope is the outcome of the line, whatever event it comes with. -/
theorem feed_reported {stamp : Chat.Stamp} {model : String} {phase : Phase} {usage : Usage}
    {line : String} {payload : List Char} {envelope : Envelope} {failure : ProviderFailure}
    (isOpen : phase ≠ .closed) (data : payload? line = some payload)
    (decoded : Json.decodeChars Envelope.decoder payload = .ok envelope)
    (reported : ProviderFailure.ofFault? envelope.error = some failure) :
    feed stamp model phase usage line = ⟨.error (.provider failure), .closed, usage⟩ := by
  have means : meaning line = .failure (.provider failure) := by
    simp only [meaning, data, decoded, reported]
  rw [feed_open isOpen, means]

/-- Without a report the line means its event. -/
theorem meaning_unreported {line : String} {payload : List Char} {envelope : Envelope}
    (data : payload? line = some payload)
    (decoded : Json.decodeChars Envelope.decoder payload = .ok envelope)
    (nothing : NothingReported envelope.error) : meaning line = .event envelope.event := by
  simp only [meaning, data, decoded, ProviderFailure.ofFault?_nothing nothing]

/-- A report that says something is the outcome, of a line in an open stream as of a response: the
same failure both ways, with the token count as it was. A report that says nothing does nothing: the
line and the response amount to what they do without it, and there are such texts. -/
theorem reported_failure_wins :
    (∀ fault : Fault, fault.kind ≠ "" ∨ fault.message ≠ "" →
      ∃ failure, Reports fault failure ∧
        (∀ stamp model phase usage line payload envelope, phase ≠ .closed →
          payload? line = some payload →
          Json.decodeChars Envelope.decoder payload = .ok envelope →
          envelope.error = some fault →
          feed stamp model phase usage line = ⟨.error (.provider failure), .closed, usage⟩) ∧
        ∀ created model body response usage, Response.ofText body = .ok response →
          response.error = some fault →
          Completion.ofResponse created model response usage =
            (.error (.provider failure), usage)) ∧
    (∀ stamp model phase usage line payload envelope other stripped,
      payload? line = some payload → Json.decodeChars Envelope.decoder payload = .ok envelope →
      NothingReported envelope.error → payload? other = some stripped →
      Json.Omits "error" payload stripped →
      feed stamp model phase usage other = feed stamp model phase usage line) ∧
    (∀ created model body response usage, Response.ofText body = .ok response →
      NothingReported response.error →
      Completion.ofResponse created model { response with error := none } usage =
          Completion.ofResponse created model response usage ∧
        ∀ stripped : String, Json.Omits "error" body.toList stripped.toList →
          Response.ofText stripped = .ok { response with error := none }) ∧
    ∀ members, (Json.object members).isRegular = true →
      Json.Omits "error" (Json.object members).chars
        (Json.object (members.filter (·.1 ≠ "error"))).chars := by
  refine ⟨?_, ?_, ?_, Json.omits_chars "error"⟩
  · intro fault said
    obtain ⟨failure, mapped, reports⟩ := ProviderFailure.ofFault?_reports fault said
    refine ⟨failure, reports, ?_, ?_⟩
    · intro stamp model phase usage line payload envelope isOpen data decoded carried
      exact feed_reported isOpen data decoded (by rw [carried, mapped])
    · intro created model body response usage _ carried
      simp only [Completion.ofResponse, carried, mapped]
  · intro stamp model phase usage line payload envelope other stripped data decoded nothing
      dataOther omits
    have bare := Envelope.decodeChars_omitted omits decoded
    have means := meaning_unreported data decoded nothing
    have meansOther := meaning_unreported dataOther bare fun _ none => by cases none
    exact feed_eq_of_meaning (meansOther.trans means.symm) stamp model phase usage
  · intro created model body response usage decoded nothing
    refine ⟨?_, fun stripped omits => Response.ofText_omitted omits decoded⟩
    have unreported := ProviderFailure.ofFault?_nothing nothing
    have absent : ProviderFailure.ofFault? none = none := rfl
    simp only [Completion.ofResponse, unreported, absent]

/-- The members of a start, and of an answer as well. -/
def started : List (String × Json) :=
  [("type", .string "message_start"),
    ("message", .object [("usage", .object [("input_tokens", .ofInt 7)])]),
    ("content", .array [.object [("text", .string "Hi")]]),
    ("usage", .object [("output_tokens", .ofInt 9)])]

def startedWith (fault : Fault) : List (String × Json) := ("error", fault.toJson) :: started

def busy : Fault := ⟨"overloaded_error", "Busy"⟩

theorem busy_wins :
    (∃ failure, Reports busy failure ∧
      feed ⟨"", 0⟩ "m" .fresh ⟨1, 2, 3⟩ ("data: " ++ (Json.object (startedWith busy)).text) =
        ⟨.error (.provider failure), .closed, ⟨1, 2, 3⟩⟩ ∧
      ∃ response, Response.ofText (Json.object (startedWith busy)).text = .ok response ∧
        Completion.ofResponse 0 "m" response ⟨1, 2, 3⟩ = (.error (.provider failure), ⟨1, 2, 3⟩)) ∧
    feed ⟨"", 0⟩ "m" .fresh ⟨1, 2, 3⟩ ("data: " ++ (Json.object started).text) =
      feed ⟨"", 0⟩ "m" .fresh ⟨1, 2, 3⟩ ("data: " ++ (Json.object (startedWith {})).text) ∧
    ∃ response, Response.ofText (Json.object (startedWith {})).text = .ok response ∧
      Response.ofText (Json.object started).text = .ok { response with error := none } ∧
      Completion.ofResponse 0 "m" { response with error := none } ⟨1, 2, 3⟩ =
        Completion.ofResponse 0 "m" response ⟨1, 2, 3⟩ := by
  have regular (fault : Fault) : (Json.object (startedWith fault)).isRegular = true := rfl
  have event (fault : Fault) : Json.decodeChars Envelope.decoder
      (Json.object (startedWith fault)).chars =
        .ok ⟨.messageStart ⟨"", ⟨7, 0⟩⟩, some fault⟩ := by
    rw [Json.decodeChars_chars _ _ (regular fault)]
    rfl
  have whole (fault : Fault) : Response.ofText (Json.object (startedWith fault)).text =
      .ok ⟨"", "message_start", "", [⟨"", "Hi"⟩], none, ⟨0, 9⟩, some fault⟩ := by
    rw [Response.ofText, Json.decodeText, Json.text, String.toList_ofList,
      Json.decodeChars_chars _ _ (regular fault)]
    rfl
  obtain ⟨wins, line, response, omits⟩ := reported_failure_wins
  have empty : NothingReported (some ({} : Fault)) := by
    rintro _ ⟨⟩
    exact ⟨rfl, rfl⟩
  have bare := omits (startedWith {}) (regular {})
  refine ⟨?_, ?_, ?_⟩
  · obtain ⟨failure, reports, stream, piece⟩ := wins busy (.inl (by decide))
    refine ⟨failure, reports, ?_, _, whole busy, piece 0 "m" _ _ ⟨1, 2, 3⟩ (whole busy) rfl⟩
    exact stream _ _ _ _ _ _ _ (by decide) (payload?_data _) (event busy) rfl
  · exact line _ _ _ _ _ _ _ _ _ (payload?_data _) (event {}) empty (payload?_data _) bare
  · obtain ⟨same, stripped⟩ := response 0 "m" _ _ ⟨1, 2, 3⟩ (whole {}) empty
    refine ⟨_, whole {}, stripped _ ?_, same⟩
    rw [Json.text, Json.text, String.toList_ofList, String.toList_ofList]
    exact bare

end Stream

end ChatGateway
