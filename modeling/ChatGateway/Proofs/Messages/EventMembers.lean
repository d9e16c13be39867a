import ChatGateway.Proofs.Json.Unions
import ChatGateway.Proofs.Messages.Envelope
import Mathlib.Data.List.Nodup

/-!
An event is what its members say. `Event.Told` lists, kind by kind, what the members of an event
have to be; `Event.ofMembers_iff` says that an event is read from members exactly when they tell it.
-/
namespace ChatGateway.Messages

open Json (Reading Record Source Variant Tagged valuesAt without)

namespace Event

/-- The kind that the tag among the members names: that of a listed event, or `other`. -/
def kindOf (members : List (String × Reading)) : Option String :=
  match valuesAt "type" members with
  | [tag] => (union.ofTag .copy tag).toOption.map Variant.tag
  | _ => none

/-- The members tell this event. Beside the fields of its kind there may be others. -/
def Told (members : List (String × Reading)) : Event → Prop
  | .messageStart message =>
    kindOf members = some "message_start" ∧
    (Record.field "message" MessageStart.decoder).Finds .copy members message ∧
    ∀ member ∈ members, member.1 ∉ ["type", "message"] → member.2.isSpelt = true
  | .blockDelta index delta =>
    kindOf members = some "content_block_delta" ∧
    (Record.defaulted "index" .u32 0).Finds .copy members index ∧
    (Record.defaulted "delta" BlockDelta.decoder {}).Finds .copy members delta ∧
    ∀ member ∈ members, member.1 ∉ ["type", "index", "delta"] → member.2.isSpelt = true
  | .messageDelta ending usage =>
    kindOf members = some "message_delta" ∧
    (Record.defaulted "delta" Ending.decoder {}).Finds .copy members ending ∧
    (Record.defaulted "usage" EndingUsage.decoder {}).Finds .copy members usage ∧
    ∀ member ∈ members, member.1 ∉ ["type", "delta", "usage"] → member.2.isSpelt = true
  | .messageStop => kindOf members = some "message_stop"
  | .error => kindOf members = some "error"
  | .other => kindOf members = some "other"

variable {members : List (String × Reading)}

theorem kindOf_tag {tag : Reading} {variant : Variant Event}
    (single : valuesAt "type" members = [tag]) (named : union.ofTag .copy tag = .ok variant) :
    kindOf members = some variant.tag := by
  rw [kindOf, single]
  simp only [named]
  rfl

theorem kindOf_eq_some {kind : String} (found : kindOf members = some kind) :
    ∃ tag variant, valuesAt "type" members = [tag] ∧ union.ofTag .copy tag = .ok variant ∧
      variant.tag = kind := by
  unfold kindOf at found
  split at found
  next tag single =>
    cases named : union.ofTag .copy tag with
    | error error =>
      rw [named] at found
      cases found
    | ok variant =>
      rw [named] at found
      exact ⟨tag, variant, single, named, Option.some.inj found⟩
  next => cases found

/-- All kinds of events, with the one for unlisted tags. -/
def kinds : List (Variant Event) := union.variants ++ [.bare "other" other]

theorem kinds_distinct : (kinds.map Variant.tag).Nodup := by decide

theorem mem_kinds {tag : Reading} {variant : Variant Event}
    (named : union.ofTag .copy tag = .ok variant) : variant ∈ kinds := by
  rcases Tagged.ofTag_listed named with listed | unlisted
  · exact List.mem_append_left _ listed
  · cases unlisted
    exact List.mem_append_right _ (List.mem_singleton.mpr rfl)

/-- An event is read from members by the variant of its kind. -/
theorem ofMembers_iff_kind {event : Event} :
    union.ofMembers .copy members true = .ok event ↔
      ∃ variant ∈ kinds, kindOf members = some variant.tag ∧
        variant.read (.members (without "type" members)) = .ok event := by
  constructor
  · intro read
    obtain ⟨tag, variant, single, named, reads⟩ := Tagged.ofMembers_copy_iff.mp read
    exact ⟨variant, mem_kinds named, kindOf_tag single named, reads⟩
  · rintro ⟨variant, listed, kind, reads⟩
    obtain ⟨tag, other, single, named, same⟩ := kindOf_eq_some kind
    obtain rfl := List.inj_on_of_nodup_map kinds_distinct (mem_kinds named) listed same
    exact Tagged.ofMembers_copy_iff.mpr ⟨tag, other, single, named, reads⟩

/-- An event is read from members exactly when they tell it. -/
theorem ofMembers_iff {event : Event} :
    union.ofMembers .copy members true = .ok event ↔ Told members event := by
  have start := Record.named_field "message" MessageStart.decoder none none
  have index := Record.named_defaulted "index" .u32 0
  have delta := Record.named_defaulted "delta" BlockDelta.decoder {}
  have ending := Record.named_defaulted "delta" Ending.decoder {}
  have usage := Record.named_defaulted "usage" EndingUsage.decoder {}
  rw [ofMembers_iff_kind]
  constructor
  · rintro ⟨variant, listed, kind, reads⟩
    simp only [kinds, union, List.cons_append, List.nil_append, List.mem_cons, List.not_mem_nil,
      or_false] at listed
    rcases listed with rfl | rfl | rfl | rfl | rfl | rfl
    · obtain ⟨found, spelt⟩ := (Tagged.fields_read (start.map _) (by decide)).mp reads
      obtain ⟨message, own, rfl⟩ := Record.finds_map.mp found
      exact ⟨kind, own, spelt⟩
    · obtain ⟨found, spelt⟩ := (Tagged.fields_read ((index.pair delta).map _) (by decide)).mp reads
      obtain ⟨⟨place, piece⟩, both, rfl⟩ := Record.finds_map.mp found
      obtain ⟨first, second⟩ := (Record.finds_pair index delta (by decide)).mp both
      exact ⟨kind, first, second, spelt⟩
    · obtain ⟨found, spelt⟩ := (Tagged.fields_read ((ending.pair usage).map _) (by decide)).mp reads
      obtain ⟨⟨reason, count⟩, both, rfl⟩ := Record.finds_map.mp found
      obtain ⟨first, second⟩ := (Record.finds_pair ending usage (by decide)).mp both
      exact ⟨kind, first, second, spelt⟩
    all_goals
      cases reads
      exact kind
  · intro told
    cases event with
    | messageStart message =>
      obtain ⟨kind, own, spelt⟩ := told
      exact ⟨_, .head _, kind, (Tagged.fields_read (start.map _) (by decide)).mpr
        ⟨Record.finds_map.mpr ⟨message, own, rfl⟩, spelt⟩⟩
    | blockDelta place piece =>
      obtain ⟨kind, first, second, spelt⟩ := told
      have both := (Record.finds_pair index delta (by decide)).mpr ⟨first, second⟩
      exact ⟨_, .tail _ (.head _), kind,
        (Tagged.fields_read ((index.pair delta).map _) (by decide)).mpr
          ⟨Record.finds_map.mpr ⟨(place, piece), both, rfl⟩, spelt⟩⟩
    | messageDelta reason count =>
      obtain ⟨kind, first, second, spelt⟩ := told
      have both := (Record.finds_pair ending usage (by decide)).mpr ⟨first, second⟩
      exact ⟨_, .tail _ (.tail _ (.head _)), kind,
        (Tagged.fields_read ((ending.pair usage).map _) (by decide)).mpr
          ⟨Record.finds_map.mpr ⟨(reason, count), both, rfl⟩, spelt⟩⟩
    | messageStop => exact ⟨.bare "message_stop" messageStop, by simp [kinds, union], told, rfl⟩
    | error => exact ⟨.bare "error" error, by simp [kinds, union], told, rfl⟩
    | other => exact ⟨.bare "other" other, by simp [kinds, union], told, rfl⟩

end Event

end ChatGateway.Messages
