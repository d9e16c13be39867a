import ChatGateway.Proofs.Json.Members
import Mathlib.Data.List.Forall2

/-!
What the elementary decoders accept. Each lemma names the readings that are decoded and the value
they are decoded to; everything else is refused.
-/
namespace ChatGateway.Json

/-- A reading of a wrong type is never accepted. -/
theorem mismatch_ne_ok {α : Type} (reading : Reading) (expected : String) (x : α) :
    mismatch reading expected ≠ (.ok x : Except Error α) := by
  intro accepted
  obtain ⟨_, _, failed⟩ := bind_eq_ok_iff.mp accepted
  cases failed

namespace Decoder

variable {α : Type} {source : Source} {value : Reading}

theorem string_iff {text : String} : string source value = .ok text ↔ value = .string text := by
  cases value with
  | string own => simp [string]
  | null | bool | number | unpaired | array | object | broken => simp [string, mismatch_ne_ok]

theorem bool_iff {flag : Bool} : bool source value = .ok flag ↔ value = .bool flag := by
  cases value with
  | bool own => simp [bool]
  | null | string | number | unpaired | array | object | broken => simp [bool, mismatch_ne_ok]

/-- An integer is read from a numeral of an integer within the bounds. -/
theorem integer_iff {name : String} {low high n : Int} :
    integer name low high source value = .ok n ↔
      ∃ numeral, value = .number numeral ∧ Number.ofNumeral? numeral = some (.integer n) ∧
        low ≤ n ∧ n ≤ high := by
  cases value with
  | number numeral =>
    simp only [integer, Reading.number.injEq, exists_eq_left']
    cases said : Number.ofNumeral? numeral with
    | none => simp
    | some number =>
      cases number with
      | float x => simp
      | integer m =>
        by_cases within : low ≤ m ∧ m ≤ high
        · simp only [within, and_self, if_true, Except.ok.injEq, Option.some.injEq,
            Number.integer.injEq]
          constructor
          · rintro rfl
            exact ⟨rfl, within⟩
          · rintro ⟨same, _⟩
            exact same
        · simp only [within, if_false, reduceCtorEq, Option.some.injEq, Number.integer.injEq,
            false_iff]
          rintro ⟨rfl, bounds⟩
          exact within bounds
  | null | bool | string | unpaired | array | object | broken => simp [integer, mismatch_ne_ok]

/-- A count of 32 bits is read from a numeral of just that number. -/
theorem u32_iff {n : UInt32} :
    u32 source value = .ok n ↔
      ∃ numeral, value = .number numeral ∧
        Number.ofNumeral? numeral = some (.integer n.toNat) := by
  have size : (UInt32.size : Int) = 4294967296 := rfl
  change (fun m : Int => UInt32.ofNat m.toNat) <$> integer "u32" 0 (UInt32.size - 1) source value =
    .ok n ↔ _
  simp only [map_eq_ok_iff, integer_iff]
  constructor
  · rintro ⟨m, ⟨numeral, rfl, said, least, most⟩, rfl⟩
    have same : (UInt32.ofNat m.toNat).toNat = m.toNat := by
      rw [UInt32.toNat_ofNat_of_lt']
      have : UInt32.size = 4294967296 := rfl
      omega
    exact ⟨numeral, rfl, by rw [same, Int.toNat_of_nonneg least]; exact said⟩
  · rintro ⟨numeral, rfl, said⟩
    have small := n.toNat_lt
    exact ⟨n.toNat, ⟨numeral, rfl, said, by omega, by omega⟩, by simp⟩

/-- `null` is read as nothing, everything else as what it is. -/
theorem option_iff {decode : Decoder α} {x? : Option α} :
    decode.option source value = .ok x? ↔
      (value = .null ∧ x? = none) ∨
        ∃ x, value ≠ .null ∧ decode source value = .ok x ∧ x? = some x := by
  cases value with
  | null => simp [option, eq_comm]
  | bool | string | number | unpaired | array | object | broken =>
    simp [option, map_eq_ok_iff, eq_comm (a := x?)]

end Decoder

/-- Work on every item of a list succeeds when it does on each. -/
theorem mapM_eq_ok_iff {ε α β : Type} {work : α → Except ε β} {items : List α} {results : List β} :
    items.mapM work = .ok results ↔
      List.Forall₂ (fun item result => work item = .ok result) items results := by
  induction items generalizing results with
  | nil =>
    simp only [List.mapM_nil, pure, Except.pure, Except.ok.injEq, List.forall₂_nil_left_iff]
    exact eq_comm
  | cons item items ih =>
    simp only [List.mapM_cons, bind_eq_ok_iff, ih, List.forall₂_cons_left_iff]
    constructor
    · rintro ⟨first, done, rest, all, same⟩
      cases same
      exact ⟨first, rest, done, all, rfl⟩
    · rintro ⟨first, rest, done, all, rfl⟩
      exact ⟨first, done, rest, all, rfl⟩

/-- A list is read from a closed array, item by item. -/
theorem Decoder.list_iff {α : Type} {source : Source} {decode : Decoder α} {items : List Reading}
    {closed : Bool} {inner : Source} (enters : source.enter = .ok inner) {xs : List α} :
    Decoder.list decode source (.array items closed) = .ok xs ↔
      closed = true ∧ List.Forall₂ (fun item x => decode inner item = .ok x) items xs := by
  rw [Decoder.list, enters]
  change (items.mapM (decode inner) >>= _) = _ ↔ _
  simp only [bind_eq_ok_iff, mapM_eq_ok_iff]
  cases closed with
  | true => simp [pure, Except.pure]
  | false => simp [throw, throwThe, MonadExceptOf.throw]

end ChatGateway.Json
