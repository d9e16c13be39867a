import ChatGateway.Proofs.Messages.Tolerance

/-!
Payloads that the provider sends tomorrow. `StopReason.Meant` says what the value under
`stop_reason` means, for the reasons listed today and all others; the rest of a payload is read as if
it were not there (`Response.decoder_reason`, `Envelope.decoder_reason`). Together with the changes
that are tolerated this is said of whole texts at the end.
-/
namespace ChatGateway.Messages

open Json (Document Held Reading Record Source Spelt valuesAt valuesAt_other valuesAt_own)

/-- What a reason to stop means: none if it is empty or `null`, an unknown one if it is not
listed. -/
inductive StopReason.Meant : Reading → Option StopReason → Prop where
  | null : Meant .null none
  | empty : Meant (.string "") none
  | listed {name : String} {reason : StopReason} (known : (name, reason) ∈ names) :
      Meant (.string name) (some reason)
  | unlisted {name : String} (given : name ≠ "") (unlisted : name ∉ names.map Prod.fst) :
      Meant (.string name) (some unknown)

namespace StopReason

/-- Every string means something. -/
theorem meant_string (name : String) : ∃ reason, Meant (.string name) reason := by
  by_cases empty : name = ""
  · exact ⟨none, empty ▸ .empty⟩
  · by_cases known : name ∈ names.map Prod.fst
    · obtain ⟨⟨_, reason⟩, listed, rfl⟩ := List.mem_map.mp known
      exact ⟨some reason, .listed listed⟩
    · exact ⟨some unknown, .unlisted empty known⟩

variable {value : Reading} {reason : Option StopReason} {source : Source}

theorem Meant.member (meant : Meant value reason) : member source value = .ok reason := by
  rw [StopReason.member_iff]
  cases meant with
  | null => exact .inl ⟨rfl, rfl⟩
  | empty => exact .inr ⟨"", rfl, rfl⟩
  | listed known =>
    refine .inr ⟨_, rfl, ?_⟩
    simp only [names, List.mem_cons, List.not_mem_nil, or_false, Prod.mk.injEq] at known
    rcases known with ⟨rfl, rfl⟩ | ⟨rfl, rfl⟩ | ⟨rfl, rfl⟩ | ⟨rfl, rfl⟩ <;> rfl
  | unlisted given unlisted =>
    refine .inr ⟨_, rfl, ?_⟩
    rw [ofName?, if_neg given, ofName, Json.lookup_eq_none.mpr unlisted]
    rfl

theorem Meant.held (meant : Meant value reason) (depth : Nat) : Held depth value := by
  cases meant <;> rfl

end StopReason

section

variable {value : Reading} {reason : Option StopReason} {source : Source} {depth : Nat}
  {members more : List (String × Reading)}

theorem valuesAt_added {name own : String} (apart : name ≠ own)
    (added : ((own, value) :: members).Perm more) :
    (valuesAt name members).Perm (valuesAt name more) := by
  have perm := Json.valuesAt_perm name added
  rwa [valuesAt_other apart.symm] at perm

/-- Without a reason none is found. -/
theorem finds_no_reason (absent : valuesAt "stop_reason" members = []) :
    (Record.defaulted "stop_reason" StopReason.member none).Finds source members reason ↔
      reason = none := by
  rw [Record.defaulted, Record.finds_field]
  simp [absent, eq_comm]

/-- A reason is found to be what it means. -/
theorem finds_reason (absent : valuesAt "stop_reason" members = [])
    (added : (("stop_reason", value) :: members).Perm more) (meant : StopReason.Meant value reason)
    {found : Option StopReason} :
    (Record.defaulted "stop_reason" StopReason.member none).Finds source more found ↔
      found = reason := by
  have perm := Json.valuesAt_perm "stop_reason" added
  rw [Json.valuesAt_self, absent] at perm
  rw [Record.defaulted, Record.finds_field, List.perm_singleton.mp perm.symm]
  simp [meant.member, eq_comm]

/-- A reason only tells the reason; the rest of a response is what it is without. -/
theorem Response.decoder_reason (absent : valuesAt "stop_reason" members = [])
    (added : (("stop_reason", value) :: members).Perm more) (meant : StopReason.Meant value reason)
    {response : Response} :
    decoder (.text (depth + 1)) (.object more .closed) = .ok response ↔
      response.stopReason = reason ∧
        decoder (.text (depth + 1)) (.object members .closed) =
          .ok { response with stopReason := none } := by
  have enters : Source.enter (.text (depth + 1)) = .ok (.text depth) := rfl
  have others : Found (.text depth) more response ↔ response.stopReason = reason ∧
      Found (.text depth) members { response with stopReason := none } := by
    have same (name : String) (apart : name ≠ "stop_reason") {α : Type} {decode : Json.Decoder α}
        {ifMissing ifShort : Option α} {x : α} :
        (Record.field name decode ifMissing ifShort).Finds (.text depth) more x ↔
          (Record.field name decode ifMissing ifShort).Finds (.text depth) members x :=
      (Record.finds_field_perm (valuesAt_added apart added)).symm
    simp only [Found, finds_reason absent added meant, finds_no_reason absent]
    simp only [Record.optional, Record.defaulted, same "id" (by decide), same "type" (by decide),
      same "role" (by decide), same "content" (by decide), same "usage" (by decide),
      same "error" (by decide), true_and]
    tauto
  have spelt : (∀ member ∈ more, member.1 ∉ (known Spelt).map Prod.fst → Spelt member.2) ↔
      ∀ member ∈ members, member.1 ∉ (known Spelt).map Prod.fst → Spelt member.2 := by
    simp only [← added.mem_iff, List.forall_mem_cons]
    simp [known]
  rw [decoder_iff enters, decoder_iff enters, others, spelt]
  simp [and_assoc]

/-- A response without a reason has none. -/
theorem Response.no_reason (absent : valuesAt "stop_reason" members = []) {ending : Json.Ending}
    {response : Response}
    (decoded : decoder (.text (depth + 1)) (.object members ending) = .ok response) :
    response.stopReason = none := by
  have enters : Source.enter (.text (depth + 1)) = .ok (.text depth) := rfl
  obtain ⟨_, ⟨_, _, _, _, found, _⟩, _⟩ := (decoder_iff enters).mp decoded
  exact (finds_no_reason absent).mp found

/-- A change is read when its reason and the sequence it names are, and others can be passed
over. -/
theorem Ending.decoder_iff {ending : Ending} :
    decoder .copy (.object members .closed) = .ok ending ↔
      ((Record.defaulted "stop_reason" StopReason.member none).Finds .copy members
          ending.stopReason ∧
        (Record.optional "stop_sequence" .string).Finds .copy members ending.stopSequence) ∧
      ∀ member ∈ members, member.1 ∉ ["stop_reason", "stop_sequence"] → Spelt member.2 := by
  have reason := Record.named_defaulted "stop_reason" StopReason.member none
  have sequence := Record.named_optional "stop_sequence" .string
  refine (Record.decoder_iff ((reason.pair sequence).map _) rfl).trans ?_
  rw [Record.finds_map]
  simp only [Prod.exists, Record.finds_pair reason sequence (by decide), true_and]
  refine and_congr_left fun _ => ⟨?_, ?_⟩
  · rintro ⟨_, _, found, rfl⟩
    exact found
  · exact fun found => ⟨_, _, found, rfl⟩

/-- In the change that ends a message, too, a reason only tells the reason. -/
theorem Ending.decoder_reason (absent : valuesAt "stop_reason" members = [])
    (added : (("stop_reason", value) :: members).Perm more) (meant : StopReason.Meant value reason)
    {ending : Ending} :
    decoder .copy (.object more .closed) = .ok ending ↔
      ending.stopReason = reason ∧
        decoder .copy (.object members .closed) = .ok { ending with stopReason := none } := by
  have sequence : (Record.optional "stop_sequence" .string).Finds .copy more ending.stopSequence ↔
      (Record.optional "stop_sequence" .string).Finds .copy members ending.stopSequence :=
    (Record.finds_field_perm (valuesAt_added (by decide) added)).symm
  have spelt : (∀ member ∈ more, member.1 ∉ ["stop_reason", "stop_sequence"] → Spelt member.2) ↔
      ∀ member ∈ members, member.1 ∉ ["stop_reason", "stop_sequence"] → Spelt member.2 := by
    simp only [← added.mem_iff, List.forall_mem_cons]
    simp
  rw [decoder_iff, decoder_iff, finds_reason absent added meant, finds_no_reason absent, spelt, sequence]
  tauto

variable {before after : List (String × Reading)}

/-- A single value among members is found where it stands. -/
theorem finds_amid {α : Type} {name : String} {decode : Json.Decoder α} {absent x : α}
    {value : Reading} :
    (Record.defaulted name decode absent).Finds source (before ++ (name, value) :: after) x ↔
      (valuesAt name before = [] ∧ valuesAt name after = []) ∧ decode source value = .ok x := by
  rw [Record.defaulted, Record.finds_field, Json.valuesAt_append, Json.valuesAt_self]
  simp [List.append_eq_singleton_iff, and_assoc]

/-- And the same goes for the envelope of such a change. -/
theorem Envelope.decoder_reason (absent : valuesAt "stop_reason" members = [])
    (added : (("stop_reason", value) :: members).Perm more) (meant : StopReason.Meant value reason)
    {ending : Ending} {usage : EndingUsage} {error : Option Fault} :
    decoder (.text (depth + 1))
        (.object (before ++ ("delta", .object more .closed) :: after) .closed) =
          .ok ⟨.messageDelta ending usage, error⟩ ↔
      ending.stopReason = reason ∧
        decoder (.text (depth + 1))
          (.object (before ++ ("delta", .object members .closed) :: after) .closed) =
            .ok ⟨.messageDelta { ending with stopReason := none } usage, error⟩ := by
  have others (name : String) (apart : "delta" ≠ name) (value : Reading) :
      valuesAt name (before ++ ("delta", value) :: after) =
        valuesAt name before ++ valuesAt name after := by
    rw [Json.valuesAt_append, valuesAt_other apart]
  have held : Held depth (.object more .closed) ↔ Held depth (.object members .closed) := by
    simp only [Held, Reading.isReadable, Bool.and_eq_true, Json.Reading.membersReadable_iff,
      ← added.mem_iff, List.forall_mem_cons, meant.held, true_and]
  have carries : Carries (.text depth) (before ++ ("delta", .object more .closed) :: after) error ↔
      Carries (.text depth) (before ++ ("delta", .object members .closed) :: after) error := by
    rw [Carries, Carries, others "error" (by decide), others "error" (by decide)]
  have kind : Event.kindOf (before ++ ("delta", .object more .closed) :: after) =
      Event.kindOf (before ++ ("delta", .object members .closed) :: after) := by
    rw [Event.kindOf, Event.kindOf, others "type" (by decide), others "type" (by decide)]
  have counted : (Record.defaulted "usage" EndingUsage.decoder {}).Finds .copy
        (before ++ ("delta", .object more .closed) :: after) usage ↔
      (Record.defaulted "usage" EndingUsage.decoder {}).Finds .copy
        (before ++ ("delta", .object members .closed) :: after) usage := by
    rw [Record.defaulted, Record.finds_field, Record.finds_field, others "usage" (by decide),
      others "usage" (by decide)]
  rw [decoder_iff_found, decoder_iff_found, carries]
  simp only [Event.Found, finds_amid, kind, counted, Ending.decoder_reason absent added meant,
    List.forall_mem_append, List.forall_mem_cons, held]
  tauto

/-- A change without a reason has none. -/
theorem Envelope.no_reason (absent : valuesAt "stop_reason" members = []) {ending : Ending}
    {usage : EndingUsage} {error : Option Fault}
    (decoded : decoder (.text (depth + 1))
      (.object (before ++ ("delta", .object members .closed) :: after) .closed) =
        .ok ⟨.messageDelta ending usage, error⟩) :
    ending.stopReason = none := by
  obtain ⟨_, _, _, _, found, _⟩ := decoder_iff_found.mp decoded
  have own := (Ending.decoder_iff.mp (finds_amid.mp found).2).1.1
  exact (finds_no_reason absent).mp own

end

/-! ## Texts -/

/-- Whatever the provider adds or moves, a payload is read as before, or refused as before. And its
reason to stop may be any string: it only tells the reason. -/
theorem payloads_stay_readable :
    (∀ text other : String,
      Envelope.Changed (Json.nestingLimit - 1) (Document.ofChars text.toList).root
        (Document.ofChars other.toList).root →
      (Document.ofChars text.toList).alone = (Document.ofChars other.toList).alone →
      ∀ envelope, Json.decodeText Envelope.decoder text = .ok envelope ↔
        Json.decodeText Envelope.decoder other = .ok envelope) ∧
    (∀ text other : String,
      Response.Changed Spelt (Document.ofChars text.toList).root
        (Document.ofChars other.toList).root →
      (Document.ofChars text.toList).alone = (Document.ofChars other.toList).alone →
      ∀ response, Response.ofText text = .ok response ↔ Response.ofText other = .ok response) ∧
    (∀ name, ∃ reason, StopReason.Meant (.string name) reason) ∧
    (∀ members, valuesAt "stop_reason" members = [] →
      ∀ text : String, Document.ofChars text.toList = ⟨.object members .closed, true⟩ →
      (∀ response, Response.ofText text = .ok response → response.stopReason = none) ∧
      ∀ value reason more, StopReason.Meant value reason →
        (("stop_reason", value) :: members).Perm more →
        ∀ other : String, Document.ofChars other.toList = ⟨.object more .closed, true⟩ →
        ∀ response, Response.ofText other = .ok response ↔
          response.stopReason = reason ∧
            Response.ofText text = .ok { response with stopReason := none }) ∧
    (∀ before after members, valuesAt "stop_reason" members = [] →
      ∀ text : String, Document.ofChars text.toList =
        ⟨.object (before ++ ("delta", .object members .closed) :: after) .closed, true⟩ →
      (∀ ending usage error, Json.decodeText Envelope.decoder text =
        .ok ⟨.messageDelta ending usage, error⟩ → ending.stopReason = none) ∧
      ∀ value reason more, StopReason.Meant value reason →
        (("stop_reason", value) :: members).Perm more →
        ∀ other : String, Document.ofChars other.toList =
          ⟨.object (before ++ ("delta", .object more .closed) :: after) .closed, true⟩ →
        ∀ ending usage error,
          Json.decodeText Envelope.decoder other = .ok ⟨.messageDelta ending usage, error⟩ ↔
          ending.stopReason = reason ∧ Json.decodeText Envelope.decoder text =
            .ok ⟨.messageDelta { ending with stopReason := none } usage, error⟩) := by
  have limit : Json.nestingLimit = 126 + 1 := rfl
  refine ⟨fun text other changed alone envelope => ?_, fun text other changed alone response => ?_,
    StopReason.meant_string, fun members absent text read => ⟨fun response decoded => ?_, ?_⟩,
    fun before after members absent text read => ⟨fun ending usage error decoded => ?_, ?_⟩⟩
  · exact Json.Decoder.Tolerates.decodeChars Envelope.tolerates changed alone envelope
  · exact (Response.tolerates (fun _ spelt => spelt) _).decodeChars changed alone response
  · rw [Response.ofText, Json.decodeText, Json.decodeChars_iff, read] at decoded
    exact Response.no_reason absent decoded.1
  · intro value reason more meant added other readOther response
    simp only [Response.ofText, Json.decodeText, Json.decodeChars_iff, read, readOther, and_true]
    exact Response.decoder_reason absent added meant
  · rw [Json.decodeText, Json.decodeChars_iff, read] at decoded
    exact Envelope.no_reason absent decoded.1
  · intro value reason more meant added other readOther ending usage error
    simp only [Json.decodeText, Json.decodeChars_iff, read, readOther, and_true]
    exact Envelope.decoder_reason absent added meant

/-- The end of a message, and a response, as they are written today. -/
def endToday : Json := .object [("type", .string "message_delta"), ("delta", .object [])]

def responseToday : Json := .object [("id", .string "m")]

/-- The end of a message with more members, in another order, and both with a new reason. -/
def endTomorrow : Json :=
  .object [("seen", .array [.null]), ("delta", .object [("calm", .bool true)]),
    ("type", .string "message_delta")]

def endPaused : Json :=
  .object [("type", .string "message_delta"), ("delta", .object [("stop_reason", .string "paused")])]

def responseTomorrow : Json := .object [("seen", .null), ("id", .string "m")]

def responsePaused : Json := .object [("id", .string "m"), ("stop_reason", .string "paused")]

theorem paused_stays_readable :
    Json.decodeText Envelope.decoder endTomorrow.text = .ok ⟨.messageDelta {} {}, none⟩ ∧
    Json.decodeText Envelope.decoder endPaused.text =
      .ok ⟨.messageDelta { stopReason := some .unknown } {}, none⟩ ∧
    Response.ofText responseTomorrow.text = .ok { id := "m" } ∧
    Response.ofText responsePaused.text = .ok { id := "m", stopReason := some .unknown } := by
  obtain ⟨envelopes, responses, _, told, toldAtEnd⟩ := payloads_stay_readable
  have ended : Json.decodeText Envelope.decoder endToday.text = .ok ⟨.messageDelta {} {}, none⟩ := by
    rw [Json.decodeText, Json.decodeChars_iff, Document.ofChars_text rfl]
    exact ⟨rfl, rfl⟩
  have responded : Response.ofText responseToday.text = .ok { id := "m" } := by
    rw [Response.ofText, Json.decodeText, Json.decodeChars_iff, Document.ofChars_text rfl]
    exact ⟨rfl, rfl⟩
  have paused : StopReason.Meant (.string "paused") (some .unknown) :=
    .unlisted (by decide) (by decide)
  refine ⟨(envelopes endToday.text _ ?_ ?_ _).mp ended, ?_,
    (responses responseToday.text _ ?_ ?_ _).mp responded, ?_⟩
  · rw [Document.ofChars_text rfl, Document.ofChars_text rfl]
    have delta : Ending.Changed (Held 125) (.object [] .closed)
        (.object [("calm", .bool true)] .closed) :=
      .members ⟨[], [("calm", .bool true)], .nil, .refl _, by simp [Held, Reading.isReadable]⟩
    have turned (a b c : String × Reading) : [a, b, c].Perm [c, b, a] := List.reverse_perm [c, b, a]
    refine .members ⟨[("type", .string "message_delta"),
      ("delta", .object [("calm", .bool true)] .closed)], [("seen", .array [.null] true)],
      .cons (.own rfl rfl) (.cons (.own rfl delta) .nil), turned _ _ _, ?_⟩
    rw [List.forall_mem_singleton]
    exact ⟨rfl, rfl⟩
  · rw [Document.ofChars_text rfl, Document.ofChars_text rfl]
  · exact ((toldAtEnd [("type", .string "message_delta")] [] [] rfl endToday.text
      (Document.ofChars_text rfl)).2 _ _ _ paused (.refl _) endPaused.text (Document.ofChars_text rfl)
      { stopReason := some .unknown } _ _).mpr ⟨rfl, ended⟩
  · rw [Document.ofChars_text rfl, Document.ofChars_text rfl]
    refine .members ⟨[("id", .string "m")], [("seen", .null)], .cons (.own rfl rfl) .nil,
      .swap _ _ _, ?_⟩
    rw [List.forall_mem_singleton]
    exact ⟨rfl, rfl⟩
  · rw [Document.ofChars_text rfl, Document.ofChars_text rfl]
  · exact ((told [("id", .string "m")] rfl responseToday.text (Document.ofChars_text rfl)).2 _ _ _ paused
      (.swap _ _ _) responsePaused.text (Document.ofChars_text rfl) { id := "m", stopReason := some .unknown }).mpr
      ⟨rfl, responded⟩

end ChatGateway.Messages
