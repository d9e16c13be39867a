import ChatGateway.Json.Basic

/-!
The compact text of a value is a single line: whatever strings the value holds, its text has no
control character, since every control character of a string is escaped.
-/
namespace ChatGateway

open Number (Digit Numeral)

/-- The text has no control character. -/
def Visible (text : List Char) : Prop := ∀ c ∈ text, 0x20 ≤ c.toNat

namespace Visible

@[simp] theorem nil : Visible [] := fun _ member => absurd member List.not_mem_nil

@[simp] theorem cons_iff {c : Char} {text : List Char} :
    Visible (c :: text) ↔ 0x20 ≤ c.toNat ∧ Visible text := List.forall_mem_cons

@[simp] theorem append_iff {text more : List Char} :
    Visible (text ++ more) ↔ Visible text ∧ Visible more := List.forall_mem_append

theorem not_mem_newline {text : List Char} (visible : Visible text) : '\n' ∉ text := by
  intro member
  have least := visible '\n' member
  exact absurd least (by decide)

end Visible

namespace Json

theorem digitChar_visible : ∀ n < 16, 0x20 ≤ (Nat.digitChar n).toNat := by decide

theorem escapeChar_visible (c : Char) : Visible (escapeChar c) := by
  unfold escapeChar
  split
  -- the escapes by a letter are plain texts
  all_goals try simp
  split
  next control =>
    have high := digitChar_visible (c.toNat / 16) (by omega)
    have low := digitChar_visible (c.toNat % 16) (by omega)
    simp [high, low]
  next visible =>
    simp only [Visible.cons_iff, Visible.nil, and_true]
    omega

theorem quote_visible (text : String) : Visible (quote text) := by
  have body : Visible (text.toList.flatMap escapeChar) := by
    intro c member
    obtain ⟨source, _, escaped⟩ := List.mem_flatMap.mp member
    exact escapeChar_visible source c escaped
  simp [quote, body]

theorem digits_visible (digits : List Digit) : Visible (digits.map Digit.toChar) := by
  have each : ∀ d : Digit, 0x20 ≤ d.toChar.toNat := by decide
  intro c member
  obtain ⟨d, _, rfl⟩ := List.mem_map.mp member
  exact each d

theorem numeral_visible (n : Numeral) : Visible n.chars := by
  obtain ⟨negative, whole, fraction, exponent⟩ := n
  have sign : Visible (if negative then ['-'] else []) := by cases negative <;> simp
  have digits := digits_visible
  simp only [Numeral.chars, Visible.append_iff]
  refine ⟨⟨⟨sign, digits whole⟩, ?_⟩, ?_⟩
  · split
    · exact .nil
    · exact Visible.cons_iff.mpr ⟨by decide, digits _⟩
  · cases exponent with
    | none => exact .nil
    | some power =>
      obtain ⟨minus, power⟩ := power
      cases minus <;> simp [digits]

mutual

theorem chars_visible (json : Json) : Visible json.chars := by
  cases json with
  | null => simp [chars]
  | bool b => cases b <;> simp [chars]
  | number n =>
    rw [chars]
    exact numeral_visible n
  | string text =>
    rw [chars]
    exact quote_visible text
  | array items => simp [chars, itemChars_visible items]
  | object members => simp [chars, memberChars_visible members]

theorem itemChars_visible (items : List Json) : Visible (itemChars items) := by
  match items with
  | [] => exact .nil
  | [item] => exact chars_visible item
  | item :: other :: items =>
    have later := itemChars_visible (other :: items)
    simp [itemChars, chars_visible item, later]

theorem memberChars_visible (members : List (String × Json)) : Visible (memberChars members) := by
  match members with
  | [] => exact .nil
  | [(key, value)] => simp [memberChars, quote_visible key, chars_visible value]
  | (key, value) :: other :: members =>
    have later := memberChars_visible (other :: members)
    simp [memberChars, quote_visible key, chars_visible value, later]

end

/-- The text of an object begins with a brace. -/
theorem text_object_ne (members : List (String × Json)) {text : String}
    (other : text.toList.head? ≠ some '\x7b') : (object members).text ≠ text := by
  rintro rfl
  exact other (by rw [Json.text, chars, String.toList_ofList]; rfl)

end Json

end ChatGateway
