import ChatGateway.Proofs.Json.Containers
import ChatGateway.Proofs.Json.Integers

/-!
Floats written in digits. Whatever the shortest decimal of a magnitude is, it is not zero unless the
magnitude is, so its numeral has no needless zero in front; hence a float may stand in any text. That
its digits read back as the same float is a matter of that float: `ReadsBack`.
-/
namespace ChatGateway

namespace Number

theorem commonScale_pos (ten two : Int) :
    0 < (commonScale ten two).1 ∧ 0 < (commonScale ten two).2 := by
  have power (n : Nat) : 0 < Nat.pow 10 n := Nat.pow_pos (by decide)
  simp only [commonScale, Nat.shiftLeft_eq]
  exact ⟨Nat.mul_pos (power _) (Nat.two_pow_pos _), Nat.mul_pos (power _) (Nat.two_pow_pos _)⟩

/-- No point of the grid that rounds to a positive magnitude is zero. -/
theorem Format.onGrid_ne_zero {f : Format} {m : Magnitude} (positive : m.mantissa ≠ 0) {ten : Int}
    {d : Decimal} (found : f.onGrid m ten = some d) : d.digits ≠ 0 := by
  obtain ⟨_, scaled⟩ := commonScale_pos ten (m.exponent - 2)
  rw [onGrid] at found
  generalize commonScale ten (m.exponent - 2) = scale at found scaled
  obtain ⟨a, b⟩ := scale
  dsimp only at found scaled
  generalize lowIs : (4 * m.mantissa - (if m.mantissa = 1 <<< (f.precision - 1) ∧
    f.lowest < m.exponent then 1 else 2)) * b = low at found
  have above : 0 < low := by
    rw [← lowIs]
    refine Nat.mul_pos ?_ scaled
    split <;> omega
  generalize (4 * m.mantissa + 2) * b = high at found
  generalize 4 * m.mantissa * b / a = below at found
  have apart (inside : (if m.mantissa % 2 == 0 then decide (low ≤ below * a) &&
      decide (below * a ≤ high) else decide (low < below * a) && decide (below * a < high)) =
        true) : below ≠ 0 := by
    rintro rfl
    rw [Nat.zero_mul] at inside
    split at inside
    · rw [Bool.and_eq_true, decide_eq_true_eq] at inside
      omega
    · rw [Bool.and_eq_true, decide_eq_true_eq] at inside
      omega
  split at found
  next inside _ =>
    have lower := apart inside
    cases found
    simp only
    split
    · exact lower
    · split <;> omega
  next inside _ =>
    cases found
    exact apart inside
  · cases found
    exact Nat.succ_ne_zero below
  · cases found

theorem Decimal.trim_ne_zero (fuel : Nat) (d : Decimal) (positive : d.digits ≠ 0) :
    (d.trim fuel).digits ≠ 0 := by
  induction fuel generalizing d with
  | zero => exact positive
  | succ fuel ih =>
    rw [trim]
    split
    next divides => exact ih _ (by simp only; omega)
    · exact positive

theorem Format.shortest_ne_zero (f : Format) {m : Magnitude} (positive : m.mantissa ≠ 0) :
    (f.shortest m).digits ≠ 0 := by
  unfold shortest
  dsimp only
  split
  next d found =>
    obtain ⟨n, _, onGrid⟩ := List.exists_of_findSome?_eq_some found
    exact d.trim_ne_zero 20 (onGrid_ne_zero positive onGrid)
  · exact positive

/-- The digits of a positive number do not begin with zero. -/
theorem digitsOf_pos {n : Nat} (positive : n ≠ 0) :
    ∃ d rest, digitsOf n = d :: rest ∧ d.val ≠ 0 := by
  obtain ⟨value, d, rest, shape, noLead⟩ := digitsOf_spec n
  refine ⟨d, rest, shape, fun zero => positive ?_⟩
  rw [shape, noLead zero, valueOf_single] at value
  rw [← value, zero]

theorem Layout.decimal_isJson (l : Layout) (negative : Bool) (d : Decimal) (positive : d.digits ≠ 0) :
    (l.decimal negative d).isJson = true := by
  obtain ⟨first, rest, shape, noLead⟩ := digitsOf_pos positive
  obtain ⟨_, mark, marks, written, _⟩ :=
    digitsOf_spec (d.exponent + (digitsOf d.digits).length - 1).natAbs
  rw [decimal]
  dsimp only
  rw [written]
  split
  · split
    · simp [Numeral.isJson, shape, noLead]
    · split
      · simp [Numeral.isJson, shape, noLead, List.splitAt_eq]
      · simp [Numeral.isJson]
  · simp [Numeral.isJson, shape]

theorem Layout.numeral?_isJson (l : Layout) (f : Format) {x : Floating} {n : Numeral}
    (written : l.numeral? f x = some n) : n.isJson = true := by
  cases x with
  | infinite | nan => cases written
  | finite negative m =>
    rw [numeral?] at written
    split at written
    · cases written
      rfl
    next zero =>
      cases written
      exact l.decimal_isJson negative _ (f.shortest_ne_zero (by simpa [Magnitude.isZero] using zero))

end Number

namespace Json

open ChatGateway.Number

theorem isRegular_ofF32 (x : Floating) : (ofF32 x).isRegular = true := by
  rw [ofF32]
  cases written : f32Layout.numeral? single x with
  | none => rfl
  | some numeral => exact Layout.numeral?_isJson _ _ written

/-- A float that has a text, and whose text reads back as this float. -/
structure ReadsBack (x : Floating) : Prop where
  finite : x.isFinite = true
  back : decodeText Decoder.f32 (ofF32 x).text = .ok x

theorem ReadsBack.f32_ofF32 {x : Floating} (reads : ReadsBack x) (source : Source) :
    Decoder.f32 source (Reading.ofJson (ofF32 x)) = .ok x := by
  have back := reads.back
  rw [decodeText, Json.text, String.toList_ofList, decodeChars_chars _ _ (isRegular_ofF32 x)] at back
  exact back

theorem ReadsBack.option_ofF32 {x : Floating} (reads : ReadsBack x) (source : Source) :
    Decoder.f32.option source (Reading.ofJson (ofF32 x)) = .ok (some x) := by
  refine Decoder.option_some ?_ (reads.f32_ofF32 source)
  intro absent
  have decoded := reads.f32_ofF32 source
  rw [absent] at decoded
  cases decoded

end Json

end ChatGateway
