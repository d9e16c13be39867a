import ChatGateway.Proofs.Json.Integers
import ChatGateway.Proofs.Json.Omission
import ChatGateway.Proofs.Json.Scalars
import ChatGateway.Proofs.Json.Unions

/-!
Which values a decoder accepts. `Decoder.Accepts` forgets what is made of a value, so that for a
value whose names are distinct acceptance is told from the value alone, field by field. What is
asked of a field is one of `Required`, `Omittable` and `Nullable`.
-/
namespace ChatGateway.Json

open ChatGateway.Number (Digit Numeral valueOf)

/-! ## Values -/

/-- The value of a member, if this is an object that has it. -/
def member? (name : String) : Json → Option Json
  | .object members => members.lookup name
  | _ => none

/-- The items, if this is an array. -/
def items : Json → List Json
  | .array items => items
  | _ => []

/-- This is no array, so that it is not an object in its short form. -/
def Unabridged (json : Json) : Prop := ∀ items, json ≠ .array items

mutual

/-- No object in the value has two members of one name. -/
def Distinct : Json → Prop
  | .array items => ItemsDistinct items
  | .object members => (members.map Prod.fst).Nodup ∧ MembersDistinct members
  | _ => True

def ItemsDistinct : List Json → Prop
  | [] => True
  | item :: rest => Distinct item ∧ ItemsDistinct rest

def MembersDistinct : List (String × Json) → Prop
  | [] => True
  | (_, value) :: rest => Distinct value ∧ MembersDistinct rest

end

theorem itemsDistinct_iff {items : List Json} : ItemsDistinct items ↔ ∀ item ∈ items, Distinct item := by
  induction items with
  | nil => simp [ItemsDistinct]
  | cons item items ih => rw [ItemsDistinct, ih, List.forall_mem_cons]

theorem membersDistinct_iff {members : List (String × Json)} :
    MembersDistinct members ↔ ∀ member ∈ members, Distinct member.2 := by
  induction members with
  | nil => simp [MembersDistinct]
  | cons member members ih => rw [MembersDistinct, ih, List.forall_mem_cons]

theorem ofItems_eq_map (items : List Json) : Reading.ofItems items = items.map Reading.ofJson := by
  induction items with
  | nil => rfl
  | cons item items ih => rw [Reading.ofItems, ih, List.map_cons]

theorem ofMembers_eq_map (members : List (String × Json)) :
    Reading.ofMembers members = members.map fun member => (member.1, Reading.ofJson member.2) := by
  induction members with
  | nil => rfl
  | cons member members ih => rw [Reading.ofMembers, ih, List.map_cons]

theorem allReadable_iff {depth : Nat} {items : List Reading} :
    Reading.allReadable depth items = true ↔ ∀ item ∈ items, item.isReadable depth = true := by
  induction items with
  | nil => simp [Reading.allReadable]
  | cons item items ih => rw [Reading.allReadable, Bool.and_eq_true, ih, List.forall_mem_cons]

section

variable {json inner : Json} {name : String}

theorem mem_of_member? (found : json.member? name = some inner) :
    ∃ members, json = .object members ∧ (name, inner) ∈ members := by
  cases json with
  | object members => exact ⟨members, rfl, mem_of_lookup found⟩
  | null | bool | number | string | array => cases found

theorem Distinct.member (distinct : json.Distinct) (found : json.member? name = some inner) :
    inner.Distinct := by
  obtain ⟨members, rfl, there⟩ := mem_of_member? found
  exact membersDistinct_iff.mp distinct.2 _ there

theorem Distinct.item (distinct : json.Distinct) (there : inner ∈ json.items) : inner.Distinct := by
  cases json with
  | array items => exact itemsDistinct_iff.mp distinct _ there
  | null | bool | number | string | object => cases there

/-- A value that can be held has members that can be. -/
theorem isReadable_member {depth : Nat}
    (readable : (Reading.ofJson json).isReadable (depth + 1) = true)
    (found : json.member? name = some inner) : (Reading.ofJson inner).isReadable depth = true := by
  obtain ⟨members, rfl, there⟩ := mem_of_member? found
  rw [Reading.ofJson, Reading.isReadable, Bool.and_eq_true, Reading.membersReadable_iff,
    ofMembers_eq_map] at readable
  exact readable.2 _ (List.mem_map_of_mem there)

theorem isReadable_item {depth : Nat}
    (readable : (Reading.ofJson json).isReadable (depth + 1) = true)
    (there : inner ∈ json.items) : (Reading.ofJson inner).isReadable depth = true := by
  cases json with
  | array items =>
    rw [Reading.ofJson, Reading.isReadable, Bool.and_eq_true, ofItems_eq_map] at readable
    exact allReadable_iff.mp readable.2 _ (List.mem_map_of_mem there)
  | null | bool | number | string | object => cases there

end

/-! ## What is asked of a member -/

/-- The member is there. -/
def Required (P : Json → Prop) (value : Option Json) : Prop := ∃ json, value = some json ∧ P json

/-- The member may be missing. -/
def Omittable (P : Json → Prop) (value : Option Json) : Prop := ∀ json, value = some json → P json

/-- The member may be missing or `null`. -/
def Nullable (P : Json → Prop) : Option Json → Prop := Omittable fun json => json = .null ∨ P json

def IsObject (json : Json) : Prop := ∃ members, json = .object members

def IsText (json : Json) : Prop := ∃ text, json = .string text

def IsFlag (json : Json) : Prop := ∃ flag, json = .bool flag

def IsNumber (json : Json) : Prop := ∃ numeral, json = .number numeral

/-- A numeral of digits only, of a number of 32 bits. -/
def IsCount (json : Json) : Prop :=
  ∃ numeral, json = .number numeral ∧ numeral.negative = false ∧ numeral.fraction = [] ∧
    numeral.exponent = none ∧ valueOf numeral.whole < UInt32.size

/-- An array of such items. -/
def IsList (P : Json → Prop) (json : Json) : Prop :=
  ∃ items, json = .array items ∧ ∀ item ∈ items, P item

/-! ## Readings of values -/

mutual

theorem isSpelt_ofJson : ∀ json, (Reading.ofJson json).isSpelt = true
  | .null | .bool _ | .number _ | .string _ => rfl
  | .array items => by
    rw [Reading.ofJson, Reading.isSpelt, allSpelt_ofItems items]
    rfl
  | .object members => by
    rw [Reading.ofJson, Reading.isSpelt, membersSpelt_ofMembers members]
    rfl

theorem allSpelt_ofItems : ∀ items, Reading.allSpelt (Reading.ofItems items) = true
  | [] => rfl
  | item :: rest => by
    rw [Reading.ofItems, Reading.allSpelt, isSpelt_ofJson item, allSpelt_ofItems rest]
    rfl

theorem membersSpelt_ofMembers :
    ∀ members, Reading.membersSpelt (Reading.ofMembers members) = true
  | [] => rfl
  | (_, value) :: rest => by
    rw [Reading.ofMembers, Reading.membersSpelt, isSpelt_ofJson value, membersSpelt_ofMembers rest]
    rfl

end

theorem isSpelt_of_mem_ofMembers {members : List (String × Json)} {member : String × Reading}
    (there : member ∈ Reading.ofMembers members) : member.2.isSpelt = true := by
  rw [ofMembers_eq_map] at there
  obtain ⟨own, _, rfl⟩ := List.mem_map.mp there
  exact isSpelt_ofJson own.2

/-- Under a name stands what the object has there, since no name comes twice. -/
theorem valuesAt_ofMembers (name : String) {members : List (String × Json)}
    (distinct : (members.map Prod.fst).Nodup) :
    valuesAt name (Reading.ofMembers members) =
      ((members.lookup name).map Reading.ofJson).toList := by
  induction members with
  | nil => rfl
  | cons member members ih =>
    rw [List.map_cons, List.nodup_cons] at distinct
    rw [Reading.ofMembers, List.lookup_cons]
    by_cases own : member.1 = name
    · subst own
      have noMore : valuesAt member.1 (Reading.ofMembers members) = [] := by
        rw [ih distinct.2, lookup_eq_none.mpr distinct.1]
        rfl
      rw [valuesAt_self, noMore, beq_self_eq_true]
      rfl
    · rw [valuesAt_other own, ih distinct.2, beq_false_of_ne (Ne.symm own)]

/-- All items can be matched when each of them can. -/
theorem exists_forall₂ {α β : Type} {R : α → β → Prop} {items : List α} :
    (∃ xs, List.Forall₂ R items xs) ↔ ∀ item ∈ items, ∃ x, R item x := by
  induction items with
  | nil => exact iff_of_true ⟨[], .nil⟩ (by simp)
  | cons item items ih =>
    rw [List.forall_mem_cons, ← ih]
    constructor
    · rintro ⟨_, _ | ⟨first, rest⟩⟩
      exact ⟨⟨_, first⟩, _, rest⟩
    · rintro ⟨⟨x, first⟩, xs, rest⟩
      exact ⟨x :: xs, .cons first rest⟩

/-! ## Decoders -/

/-- The decoder makes something of the value. -/
def Decoder.Accepts {α : Type} (decode : Decoder α) (source : Source) (value : Reading) : Prop :=
  ∃ x, decode source value = .ok x

/-- The record makes something of the members. -/
def Record.Accepts {ρ α : Type} (r : Record ρ α) (source : Source)
    (members : List (String × Reading)) : Prop :=
  ∃ x, r.Finds source members x

variable {ρ σ α β : Type} {source : Source} {json : Json}

namespace Decoder

theorem accepts_string : string.Accepts source (Reading.ofJson json) ↔ IsText json := by
  simp only [Accepts, string_iff, IsText]
  cases json <;> simp [Reading.ofJson]

theorem accepts_bool : bool.Accepts source (Reading.ofJson json) ↔ IsFlag json := by
  simp only [Accepts, bool_iff, IsFlag]
  cases json <;> simp [Reading.ofJson]

theorem accepts_u32 : u32.Accepts source (Reading.ofJson json) ↔ IsCount json := by
  have size : UInt32.size = 4294967296 := rfl
  have limit : wordLimit = 18446744073709551615 := rfl
  simp only [Accepts, u32_iff, ofNumeral?_natural_iff, IsCount, Numeral.isPlain, Bool.and_eq_true,
    List.isEmpty_iff, Option.isNone_iff_eq_none]
  constructor
  · rintro ⟨n, numeral, read, ⟨fraction, exponent⟩, positive, value, _⟩
    have small := n.toNat_lt
    refine ⟨numeral, ?_, positive, fraction, exponent, by omega⟩
    cases json <;> simp_all [Reading.ofJson]
  · rintro ⟨numeral, rfl, positive, fraction, exponent, small⟩
    refine ⟨UInt32.ofNat (valueOf numeral.whole), numeral, rfl, ⟨fraction, exponent⟩, positive, ?_, ?_⟩
    · rw [UInt32.toNat_ofNat_of_lt' small]
    · have := (UInt32.ofNat (valueOf numeral.whole)).toNat_lt
      omega

/-- A value that is held for a decoder is accepted if it can be held and the decoder does. -/
theorem accepts_held {decode : Reading → Except Error α} {depth : Nat} {value : Reading}
    (readable : value.isReadable depth = true) :
    (held decode).Accepts (.text depth) value ↔ ∃ x, decode value = .ok x := by
  rw [Accepts, held, Source.hold, if_pos readable]
  rfl

/-- Every number in range is a float. -/
theorem accepts_f32 {depth : Nat} (readable : (Reading.ofJson json).isReadable depth = true) :
    f32.Accepts source (Reading.ofJson json) ↔ IsNumber json := by
  cases json with
  | number numeral =>
    rw [Reading.ofJson, Reading.isReadable] at readable
    obtain ⟨number, said⟩ := Option.isSome_iff_exists.mp readable
    refine iff_of_true ?_ ⟨numeral, rfl⟩
    cases number with
    | integer value => exact ⟨_, by rw [Reading.ofJson, f32, said]⟩
    | float value => exact ⟨_, by rw [Reading.ofJson, f32, said]⟩
  | null | bool | string | array | object =>
    simp [Accepts, IsNumber, Reading.ofJson, f32, mismatch_ne_ok]

/-- An optional value is `null` or what it is when it is given. -/
theorem accepts_option {decode : Decoder α} {P : Json → Prop}
    (each : decode.Accepts source (Reading.ofJson json) ↔ P json) :
    decode.option.Accepts source (Reading.ofJson json) ↔ json = .null ∨ P json := by
  rw [← each]
  cases json with
  | null => exact iff_of_true ⟨none, rfl⟩ (.inl rfl)
  | bool | number | string | array | object =>
    simp [Accepts, option_iff, Reading.ofJson]

theorem accepts_list {decode : Decoder α} {P : Json → Prop} {inner : Source}
    (enters : source.enter = .ok inner)
    (each : ∀ item ∈ json.items, decode.Accepts inner (Reading.ofJson item) ↔ P item) :
    (list decode).Accepts source (Reading.ofJson json) ↔ IsList P json := by
  cases json with
  | array items =>
    simp only [Accepts, Reading.ofJson, list_iff enters, ofItems_eq_map, List.forall₂_map_left_iff,
      true_and, IsList, Json.array.injEq, exists_eq_left', exists_forall₂]
    exact forall₂_congr each
  | null | bool | number | string | object =>
    simp [Accepts, IsList, Reading.ofJson, list, mismatch_ne_ok]

theorem lookup_isSome_iff {names : List (String × α)} {name : String} :
    (∃ x, names.lookup name = some x) ↔ name ∈ names.map Prod.fst := by
  rw [← Option.isSome_iff_exists, ← Option.ne_none_iff_isSome, Ne, lookup_eq_none, not_not]

theorem enumeration_string_iff {names : List (String × α)} {name : String} {x : α} :
    enumeration names none source (.string name) = .ok x ↔ names.lookup name = some x := by
  simp only [enumeration]
  cases names.lookup name <;> simp

theorem enumeration_object_iff {names : List (String × α)} {name : String} {content : Reading}
    {rest : List (String × Reading)} {ending : Ending} {inner : Source}
    (enters : source.enter = .ok inner) {x : α} :
    enumeration names none source (.object ((name, content) :: rest) ending) = .ok x ↔
      names.lookup name = some x ∧ content = .null ∧ rest = [] ∧ ending = .closed := by
  simp only [enumeration, enters]
  cases names.lookup name with
  | none => simp [bind, Except.bind]
  | some y =>
    cases content with
    | null =>
      by_cases only : rest = [] ∧ ending = .closed
      · simp [bind, Except.bind, only, pure, Except.pure]
      · simp only [bind, Except.bind, List.isEmpty_iff, Bool.and_eq_true, decide_eq_true_eq, only,
          if_false, throw, throwThe, MonadExceptOf.throw, reduceCtorEq, and_false]
    | bool | number | string | unpaired | array | object | broken =>
      simp [bind, Except.bind, mismatch_ne_ok]

/-- A listed name is accepted as a string, or as the only member of an object, with `null`. -/
theorem accepts_enumeration {names : List (String × α)} {inner : Source}
    (enters : source.enter = .ok inner) :
    (enumeration names).Accepts source (Reading.ofJson json) ↔
      ∃ name, name ∈ names.map Prod.fst ∧ (json = .string name ∨ json = .object [(name, .null)]) := by
  cases json with
  | string own =>
    simp only [Accepts, Reading.ofJson, enumeration_string_iff, lookup_isSome_iff]
    simp
  | object members =>
    cases members with
    | nil => simp [Accepts, Reading.ofJson, Reading.ofMembers, enumeration, enters, bind, Except.bind]
    | cons member rest =>
      obtain ⟨own, content⟩ := member
      simp only [Accepts, Reading.ofJson, Reading.ofMembers, enumeration_object_iff enters,
        exists_and_right, lookup_isSome_iff]
      have null : Reading.ofJson content = .null ↔ content = .null := by
        cases content <;> simp [Reading.ofJson]
      have nil : Reading.ofMembers rest = [] ↔ rest = [] := by
        cases rest <;> simp [Reading.ofMembers]
      simp [null, nil, and_comm]
  | null | bool | number | array => simp [Accepts, enumeration, Reading.ofJson]

end Decoder

/-! ## Records -/

namespace Record

variable {members : List (String × Json)} {name : String} {decode : Decoder α} {P : Json → Prop}

theorem accepts_pair {a : Record ρ α} {b : Record σ β} {names more : List String}
    {readings : List (String × Reading)} (first : a.Named names) (second : b.Named more)
    (apart : ∀ name ∈ names, name ∉ more) :
    (a ++ b).Accepts source readings ↔ a.Accepts source readings ∧ b.Accepts source readings := by
  simp only [Accepts, Prod.exists, finds_pair first second apart, exists_and_left, exists_and_right]

theorem accepts_map {r : Record ρ α} {f : α → β} {readings : List (String × Reading)} :
    (r.map f).Accepts source readings ↔ r.Accepts source readings := by
  simp only [Accepts, finds_map]
  constructor
  · rintro ⟨_, x, found, _⟩
    exact ⟨x, found⟩
  · rintro ⟨x, found⟩
    exact ⟨_, x, found, rfl⟩

section

variable (distinct : (members.map Prod.fst).Nodup)
  (each : ∀ json, members.lookup name = some json →
    (decode.Accepts source (Reading.ofJson json) ↔ P json))

include distinct each

theorem accepts_required :
    (field name decode).Accepts source (Reading.ofMembers members) ↔
      Required P (members.lookup name) := by
  simp only [Accepts, finds_field, valuesAt_ofMembers name distinct, Required]
  cases found : members.lookup name with
  | none => simp
  | some json => simpa [Decoder.Accepts] using each json found

theorem accepts_defaulted {absent : α} :
    (defaulted name decode absent).Accepts source (Reading.ofMembers members) ↔
      Omittable P (members.lookup name) := by
  simp only [Accepts, defaulted, finds_field, valuesAt_ofMembers name distinct, Omittable]
  cases found : members.lookup name with
  | none => simp
  | some json => simpa [Decoder.Accepts] using each json found

theorem accepts_optional :
    (optional name decode).Accepts source (Reading.ofMembers members) ↔
      Nullable P (members.lookup name) :=
  accepts_defaulted distinct fun json found => Decoder.accepts_option (each json found)

end

/-- Of values that are no arrays, a record accepts the objects among whose members it finds what it
asks for. -/
theorem accepts_decoder {r : Record ρ α} {names : List String} {inner : Source} {Q : Prop}
    (named : r.Named names) (enters : source.enter = .ok inner) (whole : json.Unabridged)
    (asks : ∀ members, json = .object members →
      (r.Accepts inner (Reading.ofMembers members) ↔ Q)) {label : String} :
    (r.decoder label).Accepts source (Reading.ofJson json) ↔ IsObject json ∧ Q := by
  cases json with
  | object members =>
    have spelt : ∀ member ∈ Reading.ofMembers members, member.1 ∉ names → member.2.isSpelt = true :=
      fun member there _ => isSpelt_of_mem_ofMembers there
    rw [← asks members rfl, and_iff_right ⟨members, rfl⟩]
    simp only [Decoder.Accepts, Reading.ofJson, decoder_iff named enters, true_and, Accepts]
    exact exists_congr fun x => and_iff_left spelt
  | array items => exact absurd rfl (whole items)
  | null | bool | number | string =>
    simp [Decoder.Accepts, IsObject, Reading.ofJson, decoder, mismatch_ne_ok]

end Record

/-! ## Unions -/

namespace Tagged

variable {t : Tagged α} {members : List (String × Json)}

/-- A tag that is no number names the variant of that name. -/
theorem ofTag_ofJson_iff (listed : t.other = none) (apart : (t.variants.map Variant.tag).Nodup)
    {tag : Json} (noNumber : ∀ numeral, tag ≠ .number numeral) {variant : Variant α} :
    t.ofTag source (Reading.ofJson tag) = .ok variant ↔
      variant ∈ t.variants ∧ tag = .string variant.tag := by
  cases tag with
  | number numeral => exact absurd rfl (noNumber numeral)
  | string name =>
    rw [Reading.ofJson, ofTag_string_iff listed apart, Json.string.injEq, eq_comm (a := name)]
  | null | bool | array | object => simp [ofTag, Reading.ofJson, mismatch_ne_ok]

/-- An object is accepted by the variant that its tag names. -/
theorem accepts_object (listed : t.other = none) (apart : (t.variants.map Variant.tag).Nodup)
    (distinct : (members.map Prod.fst).Nodup)
    (noNumber : ∀ numeral, members.lookup tagKey ≠ some (.number numeral)) :
    t.decoder.Accepts .copy (Reading.ofJson (.object members)) ↔
      ∃ variant ∈ t.variants, members.lookup tagKey = some (.string variant.tag) ∧
        ∃ x, variant.read (.members (without tagKey (Reading.ofMembers members))) = .ok x := by
  have read (x : α) : t.decoder .copy (Reading.ofJson (.object members)) = .ok x ↔
      ∃ tag variant, valuesAt tagKey (Reading.ofMembers members) = [tag] ∧
        t.ofTag .copy tag = .ok variant ∧
        variant.read (.members (without tagKey (Reading.ofMembers members))) = .ok x :=
    ofMembers_copy_iff
  simp only [Decoder.Accepts, read, valuesAt_ofMembers tagKey distinct]
  cases found : members.lookup tagKey with
  | none => simp
  | some tag =>
    have named := @ofTag_ofJson_iff α .copy t listed apart tag fun numeral same =>
      noNumber numeral (found.trans (congrArg some same))
    simp only [Option.map_some, Option.toList_some, List.cons.injEq, and_true, exists_eq_left',
      exists_and_left, named, Option.some.injEq]
    constructor
    · rintro ⟨x, variant, ⟨there, own⟩, reads⟩
      exact ⟨variant, there, own, x, reads⟩
    · rintro ⟨variant, there, own, x, reads⟩
      exact ⟨x, variant, ⟨there, own⟩, reads⟩

/-- A variant with fields accepts what its record does. -/
theorem accepts_fields {r : Record ρ α} {names : List String} (named : r.Named names)
    (noTag : tagKey ∉ names) {tag label : String} :
    (∃ x, (Variant.fields tag label r).read
        (.members (without tagKey (Reading.ofMembers members))) = .ok x) ↔
      r.Accepts .copy (Reading.ofMembers members) := by
  simp only [fields_read named noTag, Record.Accepts]
  exact exists_congr fun x => and_iff_left fun member there _ => isSpelt_of_mem_ofMembers there

end Tagged

end ChatGateway.Json
