import ChatGateway.Gateway.Routes
import ChatGateway.Proofs.Gateway.Failing

/-!
A body that is posted for a completion is looked at in this order: its length, whether it is UTF-8,
and then what the text asks for. The first two are refused in plain text before any work is done.
-/
namespace ChatGateway

/-- A text that begins with a character that begins no JSON is decoded as nothing. -/
theorem Json.decodeText_stray {α : Type} {decode : Json.Decoder α} {text : String} {c : Char}
    {rest : List Char} (begins : text.toList = c :: rest)
    (stray : Json.Token.start c = ([.bad], .stopped))
    (refuses : ∃ error, decode (.text Json.nestingLimit) .broken = .error error) :
    ∀ value, Json.decodeText decode text ≠ .ok value := by
  obtain ⟨error, refused⟩ := refuses
  have document : Json.Document.ofChars text.toList = ⟨.broken, true⟩ := by
    rw [begins, Json.Document.ofChars, Json.Token.ofChars_stray stray]
    rfl
  intro value read
  rw [Json.decodeText, Json.decodeChars, document, refused] at read
  cases read

/-- Bytes below 128 are characters of their own. -/
theorem Text.Utf8.decode?_ascii {bytes : List UInt8} (ascii : ∀ b ∈ bytes, b < 0x80) :
    Text.Utf8.decode? bytes = .ok (bytes.map fun b => Char.ofNat b.toNat) := by
  have collected (index : Nat) (reversed : List Char) :
      decode?.go bytes .none index 0 reversed =
        .ok (reversed.reverse ++ bytes.map fun b => Char.ofNat b.toNat) := by
    induction bytes generalizing index reversed with
    | nil => simp [decode?.go]
    | cons b rest ih =>
      have complete : step .none b = ([some (Char.ofNat b.toNat)], .none) := by
        simp [step, afresh, Lead.ofByte, ascii b (List.mem_cons_self ..)]
      rw [decode?.go, complete]
      refine (ih (fun later found => ascii later (List.mem_cons_of_mem _ found)) _ _).trans ?_
      simp
  exact collected 0 []

namespace Gateway

variable {serial : String} {inbound : Inbound}

/-- A request for a completion. -/
structure Posted (inbound : Inbound) : Prop where
  method : inbound.method = "POST"
  route : Route.ofPath? inbound.path = some .completions

/-- The length that is declared, if one is, is that of the body. A connection delivers no other. -/
def Honest (inbound : Inbound) : Prop :=
  ∀ length, declaredLength inbound = some length → length = inbound.body.length

/-- The headers that every answer gets. -/
def dressed (serial : String) (inbound : Inbound) (answer : Answer) : Answer :=
  numbered serial inbound (answer.withHeader "access-control-allow-origin" "*")

theorem map_dressed_status (serial : String) (inbound : Inbound) (handled : Handled) :
    (handled.map (dressed serial inbound)).answer.status = handled.answer.status := rfl

theorem Tells.dressed {status : Nat} {report : Chat.ErrorReport} {answer : Answer}
    (tells : Tells status report answer) : Tells status report (dressed serial inbound answer) where
  status := tells.status
  kind := List.mem_append_left _ (List.mem_append_left _ tells.kind)
  envelope := tells.envelope

theorem respond_posted (settings : Settings) (world : World) (serial : String)
    (posted : Posted inbound) :
    respond settings world serial inbound =
      (limited settings inbound (serve settings world inbound .completions)).map
        (dressed serial inbound) := by
  have known : inbound.method ∈ Route.completions.methods := by
    rw [posted.method]
    decide
  have noQuestion : inbound.method ≠ "OPTIONS" := by
    rw [posted.method]
    decide
  have withBody : inbound.method ≠ "HEAD" := by
    rw [posted.method]
    decide
  simp only [respond, routed, posted.route, if_pos known, shared, if_neg noQuestion,
    if_neg withBody]
  rfl

/-! The length of the body -/

variable {limit : Nat}

theorem effectiveLimit_le (limit : Nat) (inbound : Inbound) :
    effectiveLimit limit inbound ≤ min bufferLimit limit := by
  rw [effectiveLimit]
  cases declaredLength inbound with
  | none => exact le_refl _
  | some length =>
    simp only [Option.map_some, Option.getD_some]
    omega

theorem Honest.fits (honest : Honest inbound)
    (short : inbound.body.length ≤ min bufferLimit limit) :
    inbound.body.length ≤ effectiveLimit limit inbound := by
  rw [effectiveLimit]
  cases given : declaredLength inbound with
  | none => exact short
  | some length =>
    have same := honest length given
    simp only [Option.map_some, Option.getD_some]
    omega

theorem Honest.notTooLong (honest : Honest inbound) (short : inbound.body.length ≤ limit) :
    isDeclaredTooLong limit inbound = false := by
  rw [isDeclaredTooLong]
  cases given : declaredLength inbound with
  | none => rfl
  | some length =>
    have same := honest length given
    simp only [Option.any_some, decide_eq_false_iff_not]
    omega

/-- A body that is longer than either limit is not read. -/
theorem respond_long (settings : Settings) (world : World) (serial : String)
    (posted : Posted inbound)
    (long : min bufferLimit settings.server.maxBodyBytes.toNat < inbound.body.length) :
    ∃ reason, respond settings world serial inbound =
      Handled.map (dressed serial inbound) { answer := .plain 413 reason } := by
  rw [respond_posted settings world serial posted, limited]
  split
  · exact ⟨_, rfl⟩
  · -- What declares no length, or too small a one, is stopped when it is read.
    have unread : effectiveLimit settings.server.maxBodyBytes.toNat inbound < inbound.body.length :=
      Nat.lt_of_le_of_lt (effectiveLimit_le _ _) long
    rw [serve, textOf, if_pos unread]
    exact ⟨_, rfl⟩

/-- A body within both limits is read. -/
theorem respond_short (settings : Settings) (world : World) (serial : String)
    (posted : Posted inbound) (honest : Honest inbound)
    (short : inbound.body.length ≤ min bufferLimit settings.server.maxBodyBytes.toNat) :
    (∀ chars, Text.Utf8.decode? inbound.body = .ok chars →
      respond settings world serial inbound =
        (Handled.ofTraced (complete (providerOf settings) world (String.ofList chars))).map
          (dressed serial inbound)) ∧
    ∀ fault, Text.Utf8.decode? inbound.body = .error fault →
      respond settings world serial inbound =
        Handled.map (dressed serial inbound)
          { answer :=
              .plain 400 ("Request body didn't contain valid UTF-8: " ++ fault.message) } := by
  have declared := honest.notTooLong (short.trans (Nat.min_le_right _ _))
  have read := Nat.not_lt.mpr (honest.fits short)
  rw [respond_posted settings world serial posted, limited, declared, if_neg Bool.false_ne_true,
    serve, textOf, if_neg read]
  constructor
  · intro chars legible
    rw [legible]
  · intro fault illegible
    rw [illegible]

/-- What is posted is refused for its length when it is longer than the settings allow, or than is
ever put together. Of what is shorter, a text is not refused for its length, and it gets the answer
that is given to the text. -/
theorem length_decides (settings : Settings) (world : World) (serial : String) (inbound : Inbound)
    (posted : Posted inbound) :
    let limit := settings.server.maxBodyBytes.toNat
    let handled := respond settings world serial inbound
    (limit < inbound.body.length → handled.answer.status = 413 ∧ handled.effects = []) ∧
    (bufferLimit < inbound.body.length → handled.answer.status = 413 ∧ handled.effects = []) ∧
    (Honest inbound → inbound.body.length ≤ limit → inbound.body.length ≤ bufferLimit →
      ∀ chars, Text.Utf8.decode? inbound.body = .ok chars →
        handled.answer.status ≠ 413 ∧
        handled = (Handled.ofTraced (complete (providerOf settings) world
          (String.ofList chars))).map (dressed serial inbound)) := by
  intro limit handled
  have refused (long : min bufferLimit limit < inbound.body.length) :
      handled.answer.status = 413 ∧ handled.effects = [] := by
    obtain ⟨reason, same⟩ := respond_long settings world serial posted long
    exact ⟨congrArg (·.answer.status) same, congrArg Handled.effects same⟩
  refine ⟨fun long => refused (by omega), fun long => refused (by omega), ?_⟩
  intro honest allowed buffered chars legible
  have same : handled = _ := (respond_short settings world serial posted honest (by omega)).1 chars
    legible
  refine ⟨?_, same⟩
  rw [same, map_dressed_status]
  rcases handled_or_told (providerOf settings) world (String.ofList chars) with
    ⟨_, fine⟩ | ⟨failure, _, known, tells⟩
  · rw [fine]
    decide
  · -- No failure of the work has this status.
    rw [tells.status]
    intro tooLong
    rw [tooLong] at known
    exact absurd known (by decide)

/-- An object without members, which is no chat request, with its length. -/
def emptyObject : Inbound :=
  ⟨"POST", "/v1/chat/completions", [⟨"Content-Length", "2"⟩], [0x7B, 0x7D]⟩

theorem emptyObject_posted : Posted emptyObject := ⟨rfl, by decide⟩

theorem emptyObject_honest : Honest emptyObject := by
  have declared : declaredLength emptyObject = some 2 := by decide +kernel
  intro length given
  rw [declared] at given
  cases given
  rfl

theorem two_bytes_read_or_too_many :
    (respond {} scantWorld "" emptyObject).answer.status ≠ 413 ∧
      (respond { server := { maxBodyBytes := 1 } } scantWorld "" emptyObject).answer.status = 413 :=
  ⟨((length_decides {} scantWorld "" emptyObject emptyObject_posted).2.2 emptyObject_honest
      (by decide) (by decide) ['\x7b', '\x7d'] (by decide +kernel)).1,
    ((length_decides { server := { maxBodyBytes := 1 } } scantWorld "" emptyObject
      emptyObject_posted).1 (by decide)).1⟩

/-- One byte more than is ever put together. -/
def longText : Inbound :=
  ⟨"POST", "/v1/chat/completions", [], List.replicate 2097153 0x78⟩

theorem longText_posted : Posted longText := ⟨rfl, by decide⟩

/-- The settings allow a text twenty times as long. -/
theorem longText_allowed_and_refused :
    (∃ chars, Text.Utf8.decode? longText.body = .ok chars) ∧
      longText.body.length ≤ ({} : Settings).server.maxBodyBytes.toNat ∧
      (respond {} scantWorld "" longText).answer.status = 413 := by
  have length : longText.body.length = 2097153 := List.length_replicate ..
  refine ⟨⟨_, Text.Utf8.decode?_ascii ?_⟩, ?_, ?_⟩
  · intro b member
    rw [List.eq_of_mem_replicate member]
    decide
  · rw [length]
    decide
  · obtain ⟨reason, same⟩ := respond_long {} scantWorld "" longText_posted
      (by rw [length]; decide)
    rw [same]
    rfl

/-! The text of the body -/

/-- Within the limits on the length, every text that does not come to a completion is answered with
the status and the report of its failure. When the text is no chat request, nothing has been asked
for and the fault is the client's. What is no text at all is refused just as early, but in words
that are no report. -/
theorem texts_told_in_envelopes (settings : Settings) (world : World) (serial : String)
    (inbound : Inbound) (posted : Posted inbound) (honest : Honest inbound)
    (allowed : inbound.body.length ≤ settings.server.maxBodyBytes.toNat)
    (buffered : inbound.body.length ≤ bufferLimit) :
    let handled := respond settings world serial inbound
    (∀ chars, Text.Utf8.decode? inbound.body = .ok chars →
      let work := complete (providerOf settings) world (String.ofList chars)
      (handled.answer.status ≠ 200 → ∃ failure, work.result = .error failure ∧
        TellsOf failure handled.answer) ∧
      (∀ failure, work.result = .error failure → handled.answer.status ∈ errorStatuses) ∧
      ∀ failure, chatRequest (String.ofList chars) = .error failure →
        handled.effects = [] ∧ handled.answer.status = 400 ∧ TellsOf failure handled.answer ∧
          failure.report.kind = "invalid_request_error") ∧
    ∀ fault, Text.Utf8.decode? inbound.body = .error fault →
      handled.effects = [] ∧ handled.answer.status = 400 ∧
        ⟨"content-type", "text/plain; charset=utf-8"⟩ ∈ handled.answer.headers ∧
        ∀ response, Json.decodeText Chat.ErrorResponse.decoder handled.answer.body ≠
          .ok response := by
  intro handled
  obtain ⟨texts, others⟩ := respond_short settings world serial posted honest
    (Nat.le_min.mpr ⟨buffered, allowed⟩)
  constructor
  · intro chars legible work
    have same : handled = (Handled.ofTraced work).map (dressed serial inbound) :=
      texts chars legible
    rw [same]
    refine ⟨?_, ?_, ?_⟩
    · intro notFine
      rcases handled_or_told (providerOf settings) world (String.ofList chars) with
        ⟨_, fine⟩ | ⟨failure, failed, _, tells⟩
      · rw [map_dressed_status] at notFine
        exact absurd fine notFine
      · exact ⟨failure, failed, tells.dressed⟩
    · intro failure failed
      rcases handled_or_told (providerOf settings) world (String.ofList chars) with
        ⟨⟨answer, fine⟩, _⟩ | ⟨failure, _, known, tells⟩
      · cases fine.symm.trans failed
      · rw [map_dressed_status, tells.status]
        exact known
    · intro failure unread
      have stopped : work = ⟨[], .error failure⟩ := complete_unread unread
      obtain ⟨status, kind⟩ := chatRequest_failed unread
      rw [stopped]
      exact ⟨rfl, status, (Tells.ofFailure failure).dressed, kind⟩
  · intro fault illegible
    have same : handled = _ := others fault illegible
    rw [same]
    -- The words begin with a letter that begins no JSON, whatever the fault is called after them.
    refine ⟨rfl, rfl, ?_, Json.decodeText_stray String.toList_append rfl ⟨_, rfl⟩⟩
    exact List.mem_append_left _ (List.mem_append_left _ (List.mem_singleton_self _))

theorem emptyObject_told :
    (respond {} scantWorld "" emptyObject).effects = [] ∧
      (respond {} scantWorld "" emptyObject).answer.status = 400 := by
  have legible : Text.Utf8.decode? emptyObject.body = .ok ['\x7b', '\x7d'] := by decide +kernel
  obtain ⟨_, _, malformed⟩ := (texts_told_in_envelopes {} scantWorld "" emptyObject
    emptyObject_posted emptyObject_honest (by decide) (by decide)).1 _ legible
  obtain ⟨failure, unread⟩ : ∃ failure, chatRequest (String.ofList ['\x7b', '\x7d']) =
      .error failure := ⟨_, rfl⟩
  obtain ⟨effects, status, _⟩ := malformed failure unread
  exact ⟨effects, status⟩

/-- A byte that begins no character. -/
def strayByte : Inbound := ⟨"POST", "/v1/chat/completions", [], [0xFF]⟩

/-- It is well within the limit, and what is told of it is no report. -/
theorem strayByte_told_in_no_envelope :
    strayByte.body.length ≤ ({} : Settings).server.maxBodyBytes.toNat ∧
      (respond {} scantWorld "" strayByte).answer.status = 400 ∧
      ∀ response, Json.decodeText Chat.ErrorResponse.decoder
        (respond {} scantWorld "" strayByte).answer.body ≠ .ok response := by
  have unread : Json.decodeText Chat.ErrorResponse.decoder
      (respond {} scantWorld "" strayByte).answer.body = .error .malformed := by decide +kernel
  refine ⟨by decide, by decide +kernel, fun response read => ?_⟩
  rw [unread] at read
  cases read

end Gateway

end ChatGateway
