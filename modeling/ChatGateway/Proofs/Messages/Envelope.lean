import ChatGateway.Messages.Event
import ChatGateway.Proofs.Json.Omission

/-!
An envelope is its event and its failure, side by side: the failure is what stands under `error`,
and the event is what the other members say. So leaving the failure out leaves the event as it is,
in an envelope as in a response.
-/
namespace ChatGateway.Messages

open Json (Decoder Error Reading Record Source bind_eq_ok_iff valuesAt valuesAt_other valuesAt_own
  without without_other without_own)

/-- What stands under `error`: nothing, or one reported failure. -/
def Carries (source : Source) (members : List (String × Reading)) (error : Option Fault) : Prop :=
  (valuesAt "error" members = [] ∧ error = none) ∨
    ∃ value, valuesAt "error" members = [value] ∧ Fault.decoder.option source value = .ok error

/-- There is no report, or one that says nothing. -/
def NothingReported (error : Option Fault) : Prop :=
  ∀ fault, error = some fault → fault.kind = "" ∧ fault.message = ""

namespace Envelope

variable {depth : Nat} {source : Source} {members reversed : List (String × Reading)}
  {member : String × Reading} {met : Option (Option Fault)} {last : Sorting}

theorem sort_other (other : member.1 ≠ "error") :
    sort (.text depth) ⟨met, reversed⟩ member = .ok last ↔
      member.2.isReadable depth = true ∧ last = ⟨met, member :: reversed⟩ := by
  rw [sort, if_neg other, bind_eq_ok_iff]
  by_cases readable : member.2.isReadable depth = true
  · simp [Source.hold, readable, pure, Except.pure, eq_comm (a := last)]
  · simp [Source.hold, readable]

theorem sort_error_none (own : member.1 = "error") :
    sort source ⟨none, reversed⟩ member = .ok last ↔
      ∃ error, Fault.decoder.option source member.2 = .ok error ∧
        last = ⟨some error, reversed⟩ := by
  rw [sort, if_pos own, if_neg (by simp), bind_eq_ok_iff]
  simp [pure, Except.pure, eq_comm (a := last)]

theorem sort_error_some (own : member.1 = "error") (error : Option Fault) :
    sort source ⟨some error, reversed⟩ member = .error (.duplicateField "error") := by
  rw [sort, if_pos own]
  rfl

/-- Once the failure is met, only others may follow. -/
theorem foldlM_sort_some {error : Option Fault} :
    members.foldlM (sort (.text depth)) ⟨some error, reversed⟩ = .ok last ↔
      valuesAt "error" members = [] ∧ (∀ member ∈ members, member.2.isReadable depth = true) ∧
        last = ⟨some error, members.reverse ++ reversed⟩ := by
  induction members generalizing reversed with
  | nil => simp [valuesAt, pure, Except.pure, eq_comm (a := last)]
  | cons member members ih =>
    rw [List.foldlM_cons, bind_eq_ok_iff]
    by_cases own : member.1 = "error"
    · simp [sort_error_some own, valuesAt_own own]
    · simp only [sort_other own, valuesAt_other own, List.forall_mem_cons, List.reverse_cons,
        List.append_assoc, List.singleton_append]
      constructor
      · rintro ⟨_, ⟨readable, rfl⟩, rest⟩
        obtain ⟨noMore, all, rfl⟩ := ih.mp rest
        exact ⟨noMore, ⟨readable, all⟩, rfl⟩
      · rintro ⟨noMore, ⟨readable, all⟩, rfl⟩
        exact ⟨_, ⟨readable, rfl⟩, ih.mpr ⟨noMore, all, rfl⟩⟩

/-- The failure is sorted from the others, which keep their order. -/
theorem foldlM_sort_none :
    members.foldlM (sort (.text depth)) ⟨none, reversed⟩ = .ok last ↔
      (∀ member ∈ without "error" members, member.2.isReadable depth = true) ∧
      last.reversed = (without "error" members).reverse ++ reversed ∧
      ((valuesAt "error" members = [] ∧ last.error = none) ∨
        ∃ value error, valuesAt "error" members = [value] ∧
          Fault.decoder.option (.text depth) value = .ok error ∧ last.error = some error) := by
  obtain ⟨met, sorted⟩ := last
  induction members generalizing reversed with
  | nil =>
    constructor
    · intro done
      cases done
      exact ⟨fun _ found => absurd found List.not_mem_nil, rfl, .inl ⟨rfl, rfl⟩⟩
    · rintro ⟨_, rfl, ⟨_, rfl⟩ | ⟨_, _, absent, _⟩⟩
      · rfl
      · cases absent
  | cons member members ih =>
    rw [List.foldlM_cons, bind_eq_ok_iff]
    by_cases own : member.1 = "error"
    · simp only [sort_error_none own, valuesAt_own own, without_own own]
      constructor
      · rintro ⟨_, ⟨error, decoded, rfl⟩, rest⟩
        obtain ⟨noMore, readable, same⟩ := foldlM_sort_some.mp rest
        cases same
        rw [Json.without_eq_self noMore, noMore]
        exact ⟨readable, rfl, .inr ⟨member.2, error, rfl, decoded, rfl⟩⟩
      · rintro ⟨readable, rfl, ⟨absent, _⟩ | ⟨value, error, single, decoded, rfl⟩⟩
        · cases absent
        · obtain ⟨rfl, noMore⟩ := List.cons.inj single
          rw [Json.without_eq_self noMore] at readable ⊢
          exact ⟨_, ⟨error, decoded, rfl⟩, foldlM_sort_some.mpr ⟨noMore, readable, rfl⟩⟩
    · simp only [sort_other own, valuesAt_other own, without_other own, List.forall_mem_cons,
        List.reverse_cons, List.append_assoc, List.singleton_append]
      constructor
      · rintro ⟨_, ⟨readable, rfl⟩, rest⟩
        obtain ⟨all, order, error⟩ := ih.mp rest
        exact ⟨⟨readable, all⟩, order, error⟩
      · rintro ⟨⟨readable, all⟩, order, error⟩
        exact ⟨_, ⟨readable, rfl⟩, ih.mpr ⟨all, order, error⟩⟩

/-- An envelope is read exactly when its failure is, the others can be held, and they make up its
event. -/
theorem decoder_iff {ending : Json.Ending} {event : Event} {error : Option Fault} :
    decoder (.text (depth + 1)) (.object members ending) = .ok ⟨event, error⟩ ↔
      ending = .closed ∧ Carries (.text depth) members error ∧
      (∀ member ∈ without "error" members, member.2.isReadable depth = true) ∧
      Event.union.ofMembers .copy (without "error" members) true = .ok event := by
  have enters : Source.enter (.text (depth + 1)) = .ok (.text depth) := rfl
  rw [decoder, enters]
  change (members.foldlM (sort (.text depth)) ⟨none, []⟩ >>= _) = _ ↔ _
  rw [bind_eq_ok_iff]
  simp only [foldlM_sort_none, List.append_nil]
  by_cases closed : ending = .closed
  · have finished (s : Sorting) :
        ((do
          let event ← Event.union.ofMembers .copy s.reversed.reverse true
          pure ⟨event, s.error.getD none⟩ : Except Error Envelope) = .ok ⟨event, error⟩) ↔
          Event.union.ofMembers .copy s.reversed.reverse true = .ok event ∧
            s.error.getD none = error := by
      simp only [bind_eq_ok_iff, pure, Except.pure, Except.ok.injEq, Envelope.mk.injEq]
      constructor
      · rintro ⟨_, said, rfl, reported⟩
        exact ⟨said, reported⟩
      · rintro ⟨said, reported⟩
        exact ⟨event, said, rfl, reported⟩
    simp only [closed, ne_eq, not_true_eq_false, if_false, finished, true_and]
    constructor
    · rintro ⟨⟨met, sorted⟩, ⟨readable, rfl, found⟩, said, rfl⟩
      rw [List.reverse_reverse] at said
      refine ⟨?_, readable, said⟩
      rcases found with ⟨absent, rfl⟩ | ⟨value, error, single, decoded, rfl⟩
      · exact .inl ⟨absent, rfl⟩
      · exact .inr ⟨value, single, decoded⟩
    · rintro ⟨⟨absent, rfl⟩ | ⟨value, single, decoded⟩, readable, said⟩
      · refine ⟨⟨none, (without "error" members).reverse⟩,
          ⟨readable, rfl, .inl ⟨absent, rfl⟩⟩, ?_, rfl⟩
        rw [List.reverse_reverse, said]
      · refine ⟨⟨some error, (without "error" members).reverse⟩,
          ⟨readable, rfl, .inr ⟨value, error, single, decoded, rfl⟩⟩, ?_, rfl⟩
        rw [List.reverse_reverse, said]
  · simp only [closed, ne_eq, not_false_eq_true, if_true, false_and, iff_false]
    rintro ⟨_, _, failed⟩
    cases failed

/-- Leaving out a failure leaves the event as it is. -/
theorem decoder_without {ending : Json.Ending} {event : Event} {error : Option Fault}
    (decoded : decoder (.text (depth + 1)) (.object members ending) = .ok ⟨event, error⟩) :
    decoder (.text (depth + 1)) (.object (without "error" members) ending) = .ok ⟨event, none⟩ := by
  obtain ⟨closed, _, readable, said⟩ := decoder_iff.mp decoded
  have noError : valuesAt "error" (without "error" members) = [] := Json.valuesAt_without
  refine decoder_iff.mpr ⟨closed, .inl ⟨noError, rfl⟩, ?_⟩
  rw [Json.without_eq_self noError]
  exact ⟨readable, said⟩

/-- The text of an envelope without its failure. -/
theorem decodeChars_omitted {payload stripped : List Char} {envelope : Envelope}
    (omits : Json.Omits "error" payload stripped)
    (decoded : Json.decodeChars decoder payload = .ok envelope) :
    Json.decodeChars decoder stripped = .ok ⟨envelope.event, none⟩ :=
  omits.decodeChars decoded fun _ _ read => decoder_without read

end Envelope

namespace Response

/-- What a response has beside its failure. -/
def bare :=
  Record.defaulted "id" .string "" ++ Record.defaulted "type" .string ""
    ++ Record.defaulted "role" .string ""
    ++ Record.defaulted "content" (.list ResponseBlock.decoder) []
    ++ Record.defaulted "stop_reason" StopReason.member none
    ++ Record.defaulted "usage" Usage.decoder {}

theorem named_bare :
    bare.Named ["id", "type", "role", "content", "stop_reason", "usage"] := by
  have id := Record.named_defaulted "id" .string ""
  have kind := Record.named_defaulted "type" .string ""
  have role := Record.named_defaulted "role" .string ""
  have content := Record.named_defaulted "content" (.list ResponseBlock.decoder) []
  have reason := Record.named_defaulted "stop_reason" StopReason.member none
  have usage := Record.named_defaulted "usage" Usage.decoder {}
  exact ((((id.pair kind).pair role).pair content).pair reason).pair usage

/-- Leaving out a failure leaves the rest of the response as it is. -/
theorem decoder_without {members : List (String × Reading)} {ending : Json.Ending}
    {response : Response}
    (decoded : decoder (.text Json.nestingLimit) (.object members ending) = .ok response) :
    decoder (.text Json.nestingLimit) (.object (without "error" members) ending) =
      .ok { response with error := none } := by
  have named_error := Record.named_optional "error" Fault.decoder
  have named := named_bare.pair named_error
  have apart : ∀ name ∈ ["id", "type", "role", "content", "stop_reason", "usage"],
      name ∉ ["error"] := by decide
  have enters : Source.enter (.text Json.nestingLimit) = .ok (.text 126) := rfl
  obtain ⟨closed, found, spelt⟩ := (Record.decoder_iff (named.map _) enters).mp decoded
  obtain ⟨⟨⟨⟨⟨⟨⟨id, kind⟩, role⟩, content⟩, reason⟩, usage⟩, error⟩, both, rfl⟩ :=
    Record.finds_map.mp found
  have rest := ((Record.finds_pair named_bare named_error apart).mp both).1
  refine (Record.decoder_iff (named.map _) enters).mpr ⟨closed, Record.finds_map.mpr ?_, ?_⟩
  · refine ⟨((((((id, kind), role), content), reason), usage), none), ?_, rfl⟩
    refine (Record.finds_pair named_bare named_error apart).mpr ⟨?_, ?_⟩
    · exact (Record.finds_without named_bare (by decide)).mpr rest
    · exact Record.finds_field.mpr (.inl ⟨Json.valuesAt_without, rfl⟩)
  · exact fun member kept => spelt member (List.mem_filter.mp kept).1

theorem ofText_omitted {body stripped : String} {response : Response}
    (omits : Json.Omits "error" body.toList stripped.toList) (decoded : ofText body = .ok response) :
    ofText stripped = .ok { response with error := none } :=
  omits.decodeChars decoded fun _ _ read => decoder_without read

end Response

end ChatGateway.Messages
