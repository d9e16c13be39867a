import ChatGateway.Json.Decoder
import ChatGateway.Proofs.Json.Spelling

/-!
Integers written in digits. The digits of a number have its value and no needless zero in front, so
an integer of 64 bits is written as a numeral that stands for it again and decoders of a range get
it back.
-/
namespace ChatGateway

namespace Number

theorem valueOf_append (digits more : List Digit) :
    valueOf (digits ++ more) = more.foldl (fun n d => n * 10 + d.val) (valueOf digits) :=
  List.foldl_append ..

theorem mod_ten_lt (n : Nat) : n % 10 < 10 := Nat.mod_lt n (by decide)

def lastDigit (n : Nat) : Digit := ⟨n % 10, mod_ten_lt n⟩

theorem lastDigit_val (n : Nat) : (lastDigit n).val = n % 10 := rfl

theorem valueOf_single (d : Digit) : valueOf [d] = d.val := by
  simp only [valueOf, List.foldl_cons, List.foldl_nil, Nat.zero_mul, Nat.zero_add]

theorem digitsOf_go_small {n : Nat} (small : n < 10) (fuel : Nat) (acc : List Digit) :
    digitsOf.go (fuel + 1) n acc = lastDigit n :: acc ∧ valueOf [lastDigit n] = n := by
  constructor
  · rw [digitsOf.go, if_pos small]
    rfl
  · rw [valueOf_single, lastDigit_val, Nat.mod_eq_of_lt small]

/-- With as many divisions as digits, the digits in front of `acc` are those of the number. -/
theorem digitsOf_go (fuel n : Nat) (acc : List Digit) (enough : n < Nat.pow 10 (fuel + 1)) :
    ∃ digits, digitsOf.go (fuel + 1) n acc = digits ++ acc ∧ valueOf digits = n ∧
      ∃ d rest, digits = d :: rest ∧ (d.val = 0 → rest = []) := by
  induction fuel generalizing n acc with
  | zero =>
    obtain ⟨same, value⟩ := digitsOf_go_small enough 0 acc
    exact ⟨[lastDigit n], same, value, _, [], rfl, fun _ => rfl⟩
  | succ fuel ih =>
    by_cases small : n < 10
    · obtain ⟨same, value⟩ := digitsOf_go_small small (fuel + 1) acc
      exact ⟨[lastDigit n], same, value, _, [], rfl, fun _ => rfl⟩
    · have shorter : n / 10 < Nat.pow 10 (fuel + 1) := Nat.div_lt_of_lt_mul (by
        rw [Nat.mul_comm]
        exact enough)
      obtain ⟨digits, same, value, d, rest, rfl, noLead⟩ := ih (n / 10) (lastDigit n :: acc) shorter
      refine ⟨d :: rest ++ [lastDigit n], ?_, ?_, d, rest ++ [lastDigit n], rfl, ?_⟩
      · rw [digitsOf.go, if_neg small, List.append_assoc]
        exact same
      · rw [valueOf_append, value, List.foldl_cons, List.foldl_nil, lastDigit_val]
        omega
      · intro zero
        rw [noLead zero, valueOf_single, zero] at value
        omega

theorem digitsOf_spec (n : Nat) :
    valueOf (digitsOf n) = n ∧ ∃ d rest, digitsOf n = d :: rest ∧ (d.val = 0 → rest = []) := by
  have binary : n < 2 ^ (n.log2 + 1) := Nat.lt_log2_self
  have enough : n < Nat.pow 10 (n.log2 + 1) :=
    Nat.lt_of_lt_of_le binary (Nat.pow_le_pow_left (by decide) _)
  obtain ⟨digits, same, value, shape⟩ := digitsOf_go n.log2 n [] enough
  rw [List.append_nil] at same
  rw [digitsOf, same]
  exact ⟨value, shape⟩

theorem Numeral.isJson_ofInt (n : Int) : (Numeral.ofInt n).isJson = true := by
  obtain ⟨_, d, rest, shape, noLead⟩ := digitsOf_spec n.natAbs
  rw [Numeral.isJson, Numeral.ofInt, shape]
  by_cases zero : d.val = 0
  · simp [noLead zero]
  · simp [zero]

end Number

namespace Json

open ChatGateway.Number

/-- Reading digits never lowers a value. -/
theorem le_foldl_digits (digits : List Digit) (n : Nat) :
    n ≤ digits.foldl (fun n d => n * 10 + d.val) n := by
  induction digits generalizing n with
  | nil => exact Nat.le_refl n
  | cons d digits ih =>
    rw [List.foldl_cons]
    exact Nat.le_trans (by omega) (ih _)

/-- Digits whose value fits are all kept. -/
theorem pushWhole_digits (digits : List Digit) (n : Nat)
    (fits : digits.foldl (fun n d => n * 10 + d.val) n ≤ wordLimit) :
    digits.foldl Leading.pushWhole ⟨n, 0, false⟩ =
      ⟨digits.foldl (fun n d => n * 10 + d.val) n, 0, false⟩ := by
  induction digits generalizing n with
  | nil => rfl
  | cons d digits ih =>
    rw [List.foldl_cons] at fits ⊢
    have small : n * 10 + d.val ≤ wordLimit :=
      Nat.le_trans (le_foldl_digits digits _) fits
    rw [Leading.pushWhole]
    simp only [small, Bool.not_false, decide_true, Bool.and_self, if_true]
    exact ih _ fits

theorem pushWhole_full (digits : List Digit) {leading : Leading} (full : leading.full = true) :
    (digits.foldl Leading.pushWhole leading).full = true := by
  induction digits generalizing leading with
  | nil => exact full
  | cons d digits ih =>
    rw [List.foldl_cons]
    exact ih (by simp [Leading.pushWhole, full])

/-- Of digits whose value does not fit one is left out. -/
theorem pushWhole_overflow (digits : List Digit) (n : Nat) (fits : n ≤ wordLimit)
    (beyond : wordLimit < digits.foldl (fun n d => n * 10 + d.val) n) :
    (digits.foldl Leading.pushWhole ⟨n, 0, false⟩).full = true := by
  induction digits generalizing n with
  | nil => exact absurd beyond (Nat.not_lt.mpr fits)
  | cons d digits ih =>
    rw [List.foldl_cons] at beyond ⊢
    by_cases small : n * 10 + d.val ≤ wordLimit
    · have pushed : Leading.pushWhole ⟨n, 0, false⟩ d = ⟨n * 10 + d.val, 0, false⟩ := by
        simp [Leading.pushWhole, small]
      rw [pushed]
      exact ih _ small beyond
    · exact pushWhole_full digits (by simp [Leading.pushWhole, small])

/-- A natural number is what a plain numeral without a sign stands for, if it fits. -/
theorem ofNumeral?_natural_iff {numeral : Numeral} {n : Nat} :
    Number.ofNumeral? numeral = some (.integer n) ↔
      numeral.isPlain = true ∧ numeral.negative = false ∧ valueOf numeral.whole = n ∧
        n ≤ wordLimit := by
  have kept (fits : valueOf numeral.whole ≤ wordLimit) :
      numeral.whole.foldl Leading.pushWhole ⟨0, 0, false⟩ = ⟨valueOf numeral.whole, 0, false⟩ :=
    pushWhole_digits numeral.whole 0 fits
  constructor
  · intro said
    unfold Number.ofNumeral? at said
    dsimp only at said
    split at said
    next integer =>
      simp only [Bool.and_eq_true, Bool.or_eq_true, Bool.not_eq_true', decide_eq_true_eq] at integer
      obtain ⟨⟨plain, whole⟩, sign⟩ := integer
      have fits : valueOf numeral.whole ≤ wordLimit := by
        refine Nat.le_of_not_lt fun beyond => ?_
        rw [pushWhole_overflow _ 0 (Nat.zero_le _) beyond] at whole
        cases whole
      rw [kept fits] at said sign
      cases negative : numeral.negative with
      | true =>
        simp only [negative, if_true, Option.some.injEq, Number.integer.injEq] at said sign
        rcases sign with unsigned | ⟨positive, _⟩
        · cases unsigned
        · omega
      | false =>
        simp only [negative, Bool.false_eq_true, if_false, Option.some.injEq, Number.integer.injEq]
          at said
        obtain rfl := Int.ofNat.inj said
        exact ⟨plain, rfl, rfl, fits⟩
    next =>
      split at said
      next =>
        obtain ⟨_, _, other⟩ := Option.map_eq_some_iff.mp said
        cases other
      next =>
        split at said
        next =>
          split at said
          next => cases said
          next => cases said
        next =>
          obtain ⟨_, _, other⟩ := Option.map_eq_some_iff.mp said
          cases other
  · rintro ⟨plain, positive, rfl, fits⟩
    simp [Number.ofNumeral?, kept fits, plain, positive]

/-- An integer from the range of 64 bits, signed or not, is read back from its numeral. -/
theorem ofNumeral?_ofInt (n : Int) (low : -(UInt64.size / 2 : Nat) ≤ n) (high : n < UInt64.size) :
    Number.ofNumeral? (.ofInt n) = some (.integer n) := by
  obtain ⟨value, _⟩ := digitsOf_spec n.natAbs
  have size : UInt64.size = 18446744073709551616 := rfl
  have limit : wordLimit = 18446744073709551615 := rfl
  have kept := pushWhole_digits (digitsOf n.natAbs) 0 (by
    change valueOf _ ≤ _
    rw [value]
    omega)
  have leading :
      (digitsOf n.natAbs).foldl Leading.pushWhole ⟨0, 0, false⟩ = ⟨n.natAbs, 0, false⟩ := by
    rw [kept]
    change (⟨valueOf _, 0, false⟩ : Leading) = _
    rw [value]
  have accepted : (!decide (n < 0) ||
      (decide (0 < n.natAbs) && decide (n.natAbs ≤ UInt64.size / 2))) = true := by
    by_cases negative : n < 0
    · have positive : 0 < n.natAbs := by omega
      have bounded : n.natAbs ≤ UInt64.size / 2 := by omega
      rw [decide_eq_true positive, decide_eq_true bounded, Bool.and_true, Bool.or_true]
    · rw [decide_eq_false negative]
      rfl
  have signed : (if decide (n < 0) = true then -(n.natAbs : Int) else n.natAbs) = n := by
    split
    next negative =>
      have below := of_decide_eq_true negative
      omega
    next positive =>
      have above : ¬ n < 0 := fun below => positive (decide_eq_true below)
      omega
  rw [Number.ofNumeral?, Numeral.ofInt]
  simp only [leading, Numeral.isPlain, List.isEmpty_nil, Option.isNone_none, Bool.not_false,
    Bool.and_self, accepted, if_true, signed]

namespace Decoder

theorem string_ok (source : Source) (text : String) : string source (.string text) = .ok text := rfl

theorem bool_ok (source : Source) (value : Bool) : bool source (.bool value) = .ok value := rfl

/-- A decoder of a range within 64 bits gets a number of the range back. -/
theorem integer_ofInt (name : String) (low high : Int) (source : Source) (n : Int)
    (least : -(UInt64.size / 2 : Nat) ≤ low) (greatest : high < UInt64.size)
    (atLeast : low ≤ n) (atMost : n ≤ high) :
    integer name low high source (Reading.ofJson (.ofInt n)) = .ok n := by
  have known := ofNumeral?_ofInt n (by omega) (by omega)
  simp only [integer, Json.ofInt, Reading.ofJson, known, atLeast, atMost, and_self, if_true]

/-- A type of the numbers below `size` gets its numbers back. -/
theorem unsigned_ofInt {α : Type} (name : String) (size : Nat) (ofNat : Nat → α) (toNat : α → Nat)
    (source : Source) (x : α) (small : toNat x < size) (within : size ≤ UInt64.size)
    (same : ofNat (toNat x) = x) :
    ((integer name 0 (size - 1)).map fun n => ofNat n.toNat) source
      (Reading.ofJson (.ofInt (toNat x))) = .ok x := by
  have limit : UInt64.size = 18446744073709551616 := rfl
  have known := integer_ofInt name 0 (size - 1) source (toNat x) (by omega) (by omega) (by omega)
    (by omega)
  rw [map, known]
  change Except.ok (ofNat (toNat x : Int).toNat) = _
  rw [Int.toNat_natCast, same]

theorem u16_ofInt (source : Source) (n : UInt16) :
    u16 source (Reading.ofJson (.ofInt n.toNat)) = .ok n :=
  unsigned_ofInt "u16" UInt16.size UInt16.ofNat UInt16.toNat source n n.toNat_lt (by decide) (by simp)

theorem u32_ofInt (source : Source) (n : UInt32) :
    u32 source (Reading.ofJson (.ofInt n.toNat)) = .ok n :=
  unsigned_ofInt "u32" UInt32.size UInt32.ofNat UInt32.toNat source n n.toNat_lt (by decide) (by simp)

theorem u64_ofInt (source : Source) (n : UInt64) :
    u64 source (Reading.ofJson (.ofInt n.toNat)) = .ok n :=
  unsigned_ofInt "u64" UInt64.size UInt64.ofNat UInt64.toNat source n n.toNat_lt (Nat.le_refl _)
    (by simp)

theorem size_ofInt (source : Source) (n : UInt64) :
    size source (Reading.ofJson (.ofInt n.toNat)) = .ok n :=
  unsigned_ofInt "usize" UInt64.size UInt64.ofNat UInt64.toNat source n n.toNat_lt (Nat.le_refl _)
    (by simp)

theorem i64_ofInt (source : Source) (n : Int64) :
    i64 source (Reading.ofJson (.ofInt n.toInt)) = .ok n := by
  have least := n.minValue_le_toInt
  have greatest := n.toInt_le
  have known := integer_ofInt "i64" Int64.minValue.toInt Int64.maxValue.toInt source n.toInt
    (by decide) (by decide) least greatest
  rw [i64, map, known]
  simp [Functor.map, Except.map]

end Decoder

end Json

end ChatGateway
