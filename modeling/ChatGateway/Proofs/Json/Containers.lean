import ChatGateway.Proofs.Json.Records
import ChatGateway.Proofs.Json.RoundTrip

/-!
Values inside containers, and members that may be missing. `Source.Allows` counts the containers
that may still be entered, so that a value is read back wherever there is room for its own
containers; straight from a text of its own there is room for all of `nestingLimit`.
-/
namespace ChatGateway.Json

/-- At least `n` more containers may be entered. -/
def Source.Allows (n : Nat) : Source → Prop
  | .text depth => n ≤ depth
  | .copy => True

theorem Source.Allows.mono {source : Source} {n m : Nat} (deep : source.Allows n) (fewer : m ≤ n) :
    source.Allows m := by
  cases source with
  | copy => trivial
  | text depth => exact Nat.le_trans fewer deep

theorem Source.enter_of_allows {source : Source} {n : Nat} (deep : source.Allows (n + 1)) :
    ∃ inner, source.enter = .ok inner ∧ inner.Allows n := by
  cases source with
  | copy => exact ⟨.copy, rfl, trivial⟩
  | text depth =>
    cases depth with
    | zero => exact absurd deep (Nat.not_succ_le_zero n)
    | succ depth => exact ⟨.text depth, rfl, Nat.le_of_succ_le_succ deep⟩

variable {α : Type} {decode : Decoder α} {encode : α → Json} {source : Source}

theorem Source.hold_of_allows {n : Nat} {reading : Reading} (deep : source.Allows n)
    (readable : ∀ depth, n ≤ depth → reading.isReadable depth = true) :
    source.hold reading = .ok reading := by
  cases source with
  | copy => rfl
  | text depth => rw [Source.hold, if_pos (readable depth deep)]

/-- A value that is read back wherever `n` containers may be entered is read back from its text. -/
theorem decodeText_text {n : Nat} {json : Json} {value : α} (regular : json.isRegular = true)
    (shallow : n ≤ nestingLimit)
    (decodes : ∀ source : Source, source.Allows n →
      decode source (Reading.ofJson json) = .ok value) :
    decodeText decode json.text = .ok value := by
  rw [decodeText, Json.text, String.toList_ofList, decodeChars_chars decode json regular]
  exact decodes (.text nestingLimit) shallow

theorem itemsRegular_map (each : ∀ a, (encode a).isRegular = true) (items : List α) :
    itemsRegular (items.map encode) = true := by
  induction items with
  | nil => rfl
  | cons item items ih => rw [List.map_cons, itemsRegular, each item, ih, Bool.and_self]

theorem membersRegular_append (members more : List (String × Json)) :
    membersRegular (members ++ more) = (membersRegular members && membersRegular more) := by
  induction members with
  | nil => rfl
  | cons member members ih =>
    rw [List.cons_append, membersRegular, membersRegular, ih, Bool.and_assoc]

theorem membersRegular_optional (key : String) (encode : α → Json)
    (each : ∀ a, (encode a).isRegular = true) (value : Option α) :
    membersRegular (Json.optional key encode value) = true := by
  cases value with
  | none => rfl
  | some a => rw [Json.optional, membersRegular, membersRegular, each a, Bool.and_self]

theorem isRegular_nullable (encode : α → Json) (each : ∀ a, (encode a).isRegular = true)
    (value : Option α) : (Json.nullable encode value).isRegular = true := by
  cases value with
  | none => rfl
  | some a => exact each a

namespace Reading

theorem ofMembers_append (members more : List (String × Json)) :
    ofMembers (members ++ more) = ofMembers members ++ ofMembers more := by
  induction members with
  | nil => rfl
  | cons member members ih => rw [List.cons_append, ofMembers, ofMembers, ih, List.cons_append]

theorem allReadable_map {depth : Nat}
    (each : ∀ a, (ofJson (encode a)).isReadable depth = true) (items : List α) :
    allReadable depth (ofItems (items.map encode)) = true := by
  induction items with
  | nil => rfl
  | cons item items ih => rw [List.map_cons, ofItems, allReadable, each item, ih, Bool.and_self]

end Reading

namespace Decoder

/-- Items that are read back inside the array. -/
theorem list_ofJson {inner : Source} (enters : source.enter = .ok inner) (items : List α)
    (each : ∀ item ∈ items, decode inner (Reading.ofJson (encode item)) = .ok item) :
    list decode source (Reading.ofJson (.array (items.map encode))) = .ok items := by
  have read : (Reading.ofItems (items.map encode)).mapM (decode inner) = .ok items := by
    induction items with
    | nil => rfl
    | cons item items ih =>
      have rest := ih fun later found => each later (List.mem_cons_of_mem _ found)
      rw [List.map_cons, Reading.ofItems, List.mapM_cons, each item (List.mem_cons_self ..), rest]
      rfl
  rw [Reading.ofJson, list, enters]
  change (List.mapM (decode inner) _ >>= _) = _
  rw [read]
  rfl

/-- What is not `null` is there. -/
theorem option_some {reading : Reading} {x : α} (given : reading ≠ .null)
    (decoded : decode source reading = .ok x) : decode.option source reading = .ok (some x) := by
  rw [option, decoded]
  · rfl
  · exact given

theorem option_string (source : Source) (text : String) :
    string.option source (Reading.ofJson (.string text)) = .ok (some text) := rfl

theorem option_nullable
    (decodes : ∀ a, decode.option source (Reading.ofJson (encode a)) = .ok (some a))
    (value : Option α) :
    decode.option source (Reading.ofJson (.nullable encode value)) = .ok value := by
  cases value with
  | none => rfl
  | some a => exact decodes a

end Decoder

namespace Record

/-- A field that is left out is read as what stands in for it. -/
theorem reads_missing (name : String) (decode : Decoder α) (source : Source) (value : α)
    (ifShort : Option α := none) : (field name decode (some value) ifShort).Reads source [] value :=
  ⟨none, .nil _, rfl⟩

/-- A field that is left out when there is nothing. -/
theorem reads_omittable (name : String) {value : Option α} (ifShort : Option (Option α))
    (decodes : ∀ a, value = some a →
      decode.option source (Reading.ofJson (encode a)) = .ok (some a)) :
    (field name decode.option (some none) ifShort).Reads source
      (Reading.ofMembers (Json.optional name encode value)) value := by
  cases value with
  | none => exact reads_missing name decode.option source none ifShort
  | some a => exact reads_field name (decodes a rfl) (some none) ifShort

theorem reads_nullable (name : String)
    (decodes : ∀ a, decode.option source (Reading.ofJson (encode a)) = .ok (some a))
    (value : Option α) :
    (nullable name decode).Reads source (Reading.ofMembers (Json.optional name encode value))
      value := reads_omittable name none fun a _ => decodes a

theorem reads_optional (name : String) (value : Option α)
    (decodes : ∀ a, value = some a →
      decode.option source (Reading.ofJson (encode a)) = .ok (some a)) :
    (optional name decode).Reads source (Reading.ofMembers (Json.optional name encode value))
      value := reads_omittable name (some none) decodes

/-- A member of another name does not become the record's own by being left out. -/
theorem foreign_omittable {ρ β : Type} {r : Record ρ β} {name : String}
    (foreign : ∀ reading, r.Foreign [(name, reading)]) (value : Option α) :
    r.Foreign (Reading.ofMembers (Json.optional name encode value)) := by
  cases value with
  | none => exact fun _ found => absurd found List.not_mem_nil
  | some a => exact foreign (Reading.ofJson (encode a))

@[simp] theorem foreign_optional {name : String} {members : List (String × Reading)} :
    (optional name decode).Foreign members ↔ ∀ member ∈ members, member.1 ≠ name :=
  foreign_defaulted

@[simp] theorem foreign_nullable {name : String} {members : List (String × Reading)} :
    (nullable name decode).Foreign members ↔ ∀ member ∈ members, member.1 ≠ name :=
  foreign_field

end Record

end ChatGateway.Json
