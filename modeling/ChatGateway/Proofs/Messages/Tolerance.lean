import ChatGateway.Proofs.Json.Changes
import ChatGateway.Proofs.Messages.EventQuotes

/-!
What the provider may change without being noticed: the order of members, and members that are not
declared, in the payload and in the objects under its declared names. An envelope declares its tag,
its failure and the fields of the event that its tag names; all but the failure is held in memory
before it is read, so what is added there has to fit. A reason to stop may be any string.
-/
namespace ChatGateway.Messages

open Json (Alike Change Decoder Held Known Reading Rearranged Record Source Spelt valuesAt without)

/-! ## The changes -/

section

variable (fits : Reading → Prop)

def Usage.Changed : Change := .object [("input_tokens", Eq), ("output_tokens", Eq)] fits

def Fault.Changed : Change := .object [("type", Eq), ("message", Eq)] fits

def ResponseBlock.Changed : Change := .object [("type", Eq), ("text", Eq)] fits

def BlockDelta.Changed : Change := .object [("type", Eq), ("text", Eq)] fits

def Ending.Changed : Change := .object [("stop_reason", Eq), ("stop_sequence", Eq)] fits

def EndingUsage.Changed : Change := .object [("output_tokens", Eq)] fits

/-- The message that starts may be an array of its fields, too; then its usage still is an object. -/
inductive MessageStart.Changed (fitsUsage : Reading → Prop) : Change where
  | object {before after : Reading}
      (changed : Change.object [("role", Eq), ("usage", Usage.Changed fitsUsage)] fits before after) :
      Changed fitsUsage before after
  | array {role before after : Reading} {rest : List Reading} {closed : Bool}
      (changed : Usage.Changed fitsUsage before after) :
      Changed fitsUsage (.array (role :: before :: rest) closed)
        (.array (role :: after :: rest) closed)

/-- What a response declares. -/
def Response.known : Known :=
  [("id", Eq), ("type", Eq), ("role", Eq), ("content", .array (ResponseBlock.Changed fits)),
    ("stop_reason", Eq), ("usage", Usage.Changed fits), ("error", Fault.Changed fits)]

def Response.Changed : Change := .object (Response.known fits) fits

end

/-- What an event declares beside its tag, by its kind, where it may be `depth` containers deep. -/
def Event.fields (depth : Nat) : List (String × Known) :=
  [("message_start",
      [("message", MessageStart.Changed (Held (depth - 1)) (Held (depth - 1 - 1)))]),
    ("content_block_delta", [("index", Eq), ("delta", BlockDelta.Changed (Held (depth - 1)))]),
    ("message_delta",
      [("delta", Ending.Changed (Held (depth - 1))),
        ("usage", EndingUsage.Changed (Held (depth - 1)))])]

/-- What an envelope declares: its tag, its failure and what the event of its kind does. -/
def Envelope.known (depth : Nat) (members : List (String × Reading)) : Known :=
  ("type", Eq) :: ("error", Fault.Changed Spelt) ::
    ((Event.kindOf members).bind fun kind => (Event.fields depth).lookup kind).getD []

inductive Envelope.Changed (depth : Nat) : Change where
  | members {before after : List (String × Reading)} {ending : Json.Ending}
      (rearranged : Rearranged (Envelope.known depth before) (Held depth) before after) :
      Changed depth (.object before ending) (.object after ending)

/-! ## The parts -/

section

variable {fits fitsUsage : Reading → Prop} (fits_spelt : ∀ value, fits value → Spelt value)
  (source : Source)

include fits_spelt

theorem Usage.tolerates : Usage.decoder.Tolerates source (Usage.Changed fits) :=
  Record.tolerates_plain (by decide) fits_spelt _ _

theorem Fault.tolerates : Fault.decoder.Tolerates source (Fault.Changed fits) :=
  Record.tolerates_plain (by decide) fits_spelt _ _

theorem ResponseBlock.tolerates :
    ResponseBlock.decoder.Tolerates source (ResponseBlock.Changed fits) :=
  Record.tolerates_plain (by decide) fits_spelt _ _

theorem BlockDelta.tolerates : BlockDelta.decoder.Tolerates source (BlockDelta.Changed fits) :=
  Record.tolerates_plain (by decide) fits_spelt _ _

theorem Ending.tolerates : Ending.decoder.Tolerates source (Ending.Changed fits) :=
  Record.tolerates_plain (by decide) fits_spelt _ _

theorem EndingUsage.tolerates : EndingUsage.decoder.Tolerates source (EndingUsage.Changed fits) := by
  have named := Record.named_defaulted "output_tokens" .u32 0
  refine Record.Tolerates.decoder (named.map _) rfl fits_spelt (fun inner _ => ?_) _
  exact (Record.tolerates_field rfl (Decoder.tolerates_eq _ inner)).map _

theorem MessageStart.tolerates (usage_spelt : ∀ value, fitsUsage value → Spelt value) :
    MessageStart.decoder.Tolerates source (MessageStart.Changed fits fitsUsage) := by
  have usage := fun inner => Usage.tolerates usage_spelt inner
  rintro _ _ (changed | changed) message
  · exact Record.tolerates_fields (by decide) fits_spelt (Decoder.tolerates_eq _) usage _ _ _ _
      changed message
  · exact Record.tolerates_second usage changed message

end

/-! ## Responses -/

/-- What is found for a response, field by field. -/
def Response.Found (source : Source) (members : List (String × Reading)) (r : Response) : Prop :=
  (Record.defaulted "id" .string "").Finds source members r.id ∧
  (Record.defaulted "type" .string "").Finds source members r.kind ∧
  (Record.defaulted "role" .string "").Finds source members r.role ∧
  (Record.defaulted "content" (.list ResponseBlock.decoder) []).Finds source members r.content ∧
  (Record.defaulted "stop_reason" StopReason.member none).Finds source members r.stopReason ∧
  (Record.defaulted "usage" Usage.decoder {}).Finds source members r.usage ∧
  (Record.optional "error" Fault.decoder).Finds source members r.error

theorem Response.decoder_iff {source inner : Source} (enters : source.enter = .ok inner)
    {members : List (String × Reading)} {ending : Json.Ending} {response : Response} :
    decoder source (.object members ending) = .ok response ↔
      ending = .closed ∧ Found inner members response ∧
        ∀ member ∈ members, member.1 ∉ (known Spelt).map Prod.fst → Spelt member.2 := by
  have id := Record.named_defaulted "id" .string ""
  have kind := Record.named_defaulted "type" .string ""
  have role := Record.named_defaulted "role" .string ""
  have content := Record.named_defaulted "content" (.list ResponseBlock.decoder) []
  have reason := Record.named_defaulted "stop_reason" StopReason.member none
  have usage := Record.named_defaulted "usage" Usage.decoder {}
  have error := Record.named_optional "error" Fault.decoder
  have three := (id.pair kind).pair role
  have five := (three.pair content).pair reason
  have all := (five.pair usage).pair error
  refine (Record.decoder_iff (all.map _) enters).trans (and_congr_right fun _ => and_congr ?_ Iff.rfl)
  rw [Record.finds_map]
  simp only [Prod.exists, Record.finds_pair (five.pair usage) error (by decide),
    Record.finds_pair five usage (by decide),
    Record.finds_pair (three.pair content) reason (by decide),
    Record.finds_pair three content (by decide), Record.finds_pair (id.pair kind) role (by decide),
    Record.finds_pair id kind (by decide)]
  constructor
  · rintro ⟨_, _, _, _, _, _, _, ⟨⟨⟨⟨⟨⟨foundId, foundKind⟩, foundRole⟩, foundContent⟩, foundReason⟩,
      foundUsage⟩, foundError⟩, rfl⟩
    exact ⟨foundId, foundKind, foundRole, foundContent, foundReason, foundUsage, foundError⟩
  · rintro ⟨foundId, foundKind, foundRole, foundContent, foundReason, foundUsage, foundError⟩
    exact ⟨_, _, _, _, _, _, _, ⟨⟨⟨⟨⟨⟨foundId, foundKind⟩, foundRole⟩, foundContent⟩, foundReason⟩,
      foundUsage⟩, foundError⟩, rfl⟩

/-- A response tolerates every change of what it does not declare. -/
theorem Response.tolerates {fits : Reading → Prop} (fits_spelt : ∀ value, fits value → Spelt value)
    (source : Source) : Response.decoder.Tolerates source (Response.Changed fits) := by
  rintro _ _ (_ | @⟨before, after, ending, rearranged⟩) response
  · exact Iff.rfl
  · cases enters : source.enter with
    | error error => simp only [decoder, Record.decoder, enters]; rfl
    | ok inner =>
      have blocks := Decoder.Tolerates.list fun source (_ : inner.enter = .ok source) =>
        ResponseBlock.tolerates fits_spelt source
      have usage := Usage.tolerates fits_spelt inner
      have error := (Fault.tolerates fits_spelt inner).option
      have alike := rearranged.alike
      have found : Found inner before response ↔ Found inner after response := by
        refine and_congr ?_ (and_congr ?_ (and_congr ?_ (and_congr ?_ (and_congr ?_
          (and_congr ?_ ?_)))))
        · exact Record.tolerates_field rfl (Decoder.tolerates_eq _ inner) _ _ alike _
        · exact Record.tolerates_field rfl (Decoder.tolerates_eq _ inner) _ _ alike _
        · exact Record.tolerates_field rfl (Decoder.tolerates_eq _ inner) _ _ alike _
        · exact Record.tolerates_field rfl blocks _ _ alike _
        · exact Record.tolerates_field rfl (Decoder.tolerates_eq _ inner) _ _ alike _
        · exact Record.tolerates_field rfl usage _ _ alike _
        · exact Record.tolerates_field rfl error _ _ alike _
      rw [decoder_iff enters, decoder_iff enters, found]
      exact and_congr_right fun _ => and_congr_right fun _ => rearranged.spelt_iff fits_spelt

/-! ## Envelopes -/

namespace Event

/-- What is found for an event: its kind, and the fields of that kind. -/
def Found (members : List (String × Reading)) : Event → Prop
  | .messageStart message =>
    kindOf members = some "message_start" ∧
    (Record.field "message" MessageStart.decoder).Finds .copy members message
  | .blockDelta index delta =>
    kindOf members = some "content_block_delta" ∧
    (Record.defaulted "index" .u32 0).Finds .copy members index ∧
    (Record.defaulted "delta" BlockDelta.decoder {}).Finds .copy members delta
  | .messageDelta ending usage =>
    kindOf members = some "message_delta" ∧
    (Record.defaulted "delta" Ending.decoder {}).Finds .copy members ending ∧
    (Record.defaulted "usage" EndingUsage.decoder {}).Finds .copy members usage
  | .messageStop => kindOf members = some "message_stop"
  | .error => kindOf members = some "error"
  | .other => kindOf members = some "other"

variable {members before after : List (String × Reading)} {event : Event}

/-- Members that can be passed over tell an event if it is found among them; a failure beside it
does not matter. -/
theorem told_iff_found (spelt : ∀ member ∈ without "error" members, Spelt member.2) :
    Told (without "error" members) event ↔ Found members event := by
  have kind : kindOf (without "error" members) = kindOf members := kindOf_without (by decide)
  have message := @Record.finds_without _ _ .copy members _ _
    (Record.named_field "message" MessageStart.decoder none none) "error" (by decide)
  have index := @Record.finds_without _ _ .copy members _ _
    (Record.named_defaulted "index" .u32 0) "error" (by decide)
  have delta := @Record.finds_without _ _ .copy members _ _
    (Record.named_defaulted "delta" BlockDelta.decoder {}) "error" (by decide)
  have ending := @Record.finds_without _ _ .copy members _ _
    (Record.named_defaulted "delta" Ending.decoder {}) "error" (by decide)
  have usage := @Record.finds_without _ _ .copy members _ _
    (Record.named_defaulted "usage" EndingUsage.decoder {}) "error" (by decide)
  have any (names : List String) :
      ∀ member ∈ without "error" members, member.1 ∉ names → Spelt member.2 :=
    fun member there _ => spelt member there
  cases event with
  | messageStart =>
    simp only [Told, Found, kind, message]
    exact and_congr_right fun _ => and_iff_left (any _)
  | blockDelta =>
    simp only [Told, Found, kind, index, delta]
    exact and_congr_right fun _ => and_congr_right fun _ => and_iff_left (any _)
  | messageDelta =>
    simp only [Told, Found, kind, ending, usage]
    exact and_congr_right fun _ => and_congr_right fun _ => and_iff_left (any _)
  | messageStop | error | other => simp only [Told, Found, kind]

/-- The kind is a matter of what stands under `type`. -/
theorem kindOf_perm (perm : (valuesAt "type" before).Perm (valuesAt "type" after)) :
    kindOf before = kindOf after := by
  unfold kindOf
  generalize valuesAt "type" before = olds at perm ⊢
  generalize valuesAt "type" after = news at perm ⊢
  match olds, perm with
  | [], perm => rw [List.nil_perm.mp perm]
  | [tag], perm => rw [List.singleton_perm.mp perm]
  | first :: second :: rest, perm =>
    match news, perm with
    | [], perm => exact absurd perm.length_eq (by simp)
    | [_], perm => exact absurd perm.length_eq (by simp)
    | _ :: _ :: _, _ => rfl

/-- What an event declares can be held after a change if it could be before. -/
theorem fields_keep {depth : Nat} :
    ∀ entry ∈ fields depth, ∀ declared ∈ entry.2, declared.2.Keeps depth := by
  have plain (first second : String) (within : Nat) :
      Change.Keeps within (.object [(first, Eq), (second, Eq)] (Held (within - 1))) :=
    Change.Keeps.object (by simp [Change.keeps_eq])
  have counted : Change.Keeps depth (EndingUsage.Changed (Held (depth - 1))) :=
    Change.Keeps.object (by simp [Change.keeps_eq])
  have message : Change.Keeps depth
      (MessageStart.Changed (Held (depth - 1)) (Held (depth - 1 - 1))) := by
    rintro _ _ (changed | changed)
    · refine Change.Keeps.object ?_ _ _ changed
      simp only [List.forall_mem_cons]
      exact ⟨Change.keeps_eq _, plain _ _ _, by simp⟩
    · have usage := plain _ _ _ _ _ changed
      simp only [Held] at usage
      simp only [Held, Reading.isReadable, Reading.allReadable, Bool.and_eq_true, usage]
  simp only [fields, List.forall_mem_cons]
  exact ⟨⟨message, by simp⟩, ⟨Change.keeps_eq _, plain _ _ _, by simp⟩, ⟨plain _ _ _, counted, by simp⟩,
    by simp⟩

end Event

namespace Envelope

variable {depth : Nat} {before after : List (String × Reading)}

theorem decoder_iff_found {members : List (String × Reading)} {ending : Json.Ending} {event : Event}
    {error : Option Fault} :
    decoder (.text (depth + 1)) (.object members ending) = .ok ⟨event, error⟩ ↔
      ending = .closed ∧ Carries (.text depth) members error ∧
      (∀ member ∈ members, member.1 ≠ "error" → Held depth member.2) ∧
      event.Found members := by
  have others : (∀ member ∈ without "error" members, Held depth member.2) ↔
      ∀ member ∈ members, member.1 ≠ "error" → Held depth member.2 := by
    simp [without, and_imp]
  rw [decoder_iff, Event.ofMembers_iff, ← others]
  refine and_congr_right fun _ => and_congr_right fun _ => and_congr_right fun held => ?_
  exact Event.told_iff_found fun member there => Reading.isSpelt_of_isReadable (held member there)

theorem known_type : List.lookup "type" (known depth before) = some Eq := rfl

theorem known_error :
    List.lookup "error" (known depth before) = some (Fault.Changed Spelt) := rfl

/-- Whatever else is declared can be held after a change if it could be before. -/
theorem known_keeps {name : String} {change : Change}
    (found : List.lookup name (known depth before) = some change) (other : name ≠ "error") :
    change.Keeps depth := by
  rcases List.mem_cons.mp (Json.mem_of_lookup found) with same | declared
  · cases same
    exact Change.keeps_eq depth
  rcases List.mem_cons.mp declared with same | declared
  · cases same
    exact absurd rfl other
  cases kind : Event.kindOf before with
  | none =>
    rw [kind] at declared
    cases declared
  | some kind' =>
    rw [kind] at declared
    change (name, change) ∈ (List.lookup kind' (Event.fields depth)).getD [] at declared
    cases listed : List.lookup kind' (Event.fields depth) with
    | none =>
      rw [listed] at declared
      cases declared
    | some fields =>
      rw [listed] at declared
      exact Event.fields_keep _ (Json.mem_of_lookup listed) _ declared

/-- The failure is what it was. -/
theorem carries_iff (alike : Alike (known depth before) before after) {error : Option Fault} :
    Carries (.text depth) before error ↔ Carries (.text depth) after error := by
  have tolerates := (Fault.tolerates (fun _ spelt => spelt) (.text depth)).option
  have same : (Record.optional "error" Fault.decoder).Finds (.text depth) before error ↔
      (Record.optional "error" Fault.decoder).Finds (.text depth) after error :=
    Record.tolerates_field known_error tolerates before after alike error
  rw [Record.optional, Record.defaulted, Record.finds_field, Record.finds_field] at same
  simpa only [Carries, Option.some.injEq, eq_comm] using same

/-- The event is what it was. -/
theorem found_iff (alike : Alike (known depth before) before after) {event : Event} :
    event.Found before ↔ event.Found after := by
  obtain ⟨_, same, perm⟩ := alike "type" Eq known_type
  rw [List.forall₂_eq_eq_eq] at same
  subst same
  have kind := Event.kindOf_perm perm
  have spelt {within : Nat} (value : Reading) (held : Held within value) : Spelt value :=
    Reading.isSpelt_of_isReadable held
  cases event with
  | messageStart message =>
    rw [Event.Found, Event.Found, ← kind]
    refine and_congr_right fun kind => ?_
    exact Record.tolerates_field (by rw [known, kind]; rfl)
      (MessageStart.tolerates spelt .copy spelt) _ _ alike message
  | blockDelta index delta =>
    rw [Event.Found, Event.Found, ← kind]
    refine and_congr_right fun kind => and_congr ?_ ?_
    · exact Record.tolerates_field (by rw [known, kind]; rfl) (Decoder.tolerates_eq _ .copy) _ _
        alike index
    · exact Record.tolerates_field (by rw [known, kind]; rfl) (BlockDelta.tolerates spelt .copy) _ _
        alike delta
  | messageDelta ending usage =>
    rw [Event.Found, Event.Found, ← kind]
    refine and_congr_right fun kind => and_congr ?_ ?_
    · exact Record.tolerates_field (by rw [known, kind]; rfl) (Ending.tolerates spelt .copy) _ _
        alike ending
    · exact Record.tolerates_field (by rw [known, kind]; rfl) (EndingUsage.tolerates spelt .copy) _ _
        alike usage
  | messageStop | error | other => rw [Event.Found, Event.Found, kind]

/-- An envelope tolerates every change of what it does not declare. -/
theorem tolerates : decoder.Tolerates (.text (depth + 1)) (Changed depth) := by
  rintro _ _ ⟨rearranged⟩ ⟨event, error⟩
  have alike := rearranged.alike
  rw [decoder_iff_found, decoder_iff_found, carries_iff alike, found_iff alike]
  refine and_congr_right fun _ => and_congr_right fun _ => and_congr_left fun _ => ?_
  refine rearranged.forall_iff ?_ fun _ _ fit _ => fit
  rintro _ _ (⟨found, changed⟩ | _)
  · exact forall_congr' fun other => known_keeps found other _ _ changed
  · exact Iff.rfl

end Envelope

end ChatGateway.Messages
