import ChatGateway.Proofs.Text.Utf8.Lossy

/-!
A character that is spelt by one byte stands wherever that byte does, whatever is around it: the
byte belongs to no other character and ends every invalid part. So the bytes may be cut there
before they are read, and what has been read may be cut there after.
-/
namespace ChatGateway.Text.Utf8

theorem high_of_mem_lastBytes {b : UInt8} {k n : Nat} (member : b ∈ lastBytes k n) :
    0x80 ≤ b.toNat := by
  induction k with
  | zero => cases member
  | succ k ih =>
    rw [lastBytes, List.mem_cons] at member
    obtain rfl | later := member
    · rw [toNat_lastByte]
      omega
    · exact ih later

theorem high_of_mem_spelling {b : UInt8} {c : Char} (wide : 0x80 ≤ c.toNat)
    (member : b ∈ String.utf8EncodeChar c) : 0x80 ≤ b.toNat := by
  have valid : c.toNat.isValidChar := c.valid
  unfold Nat.isValidChar at valid
  have lead {n k : Nat} (high : 0x80 ≤ n) (byte : n < UInt8.size)
      (member : b ∈ UInt8.ofNat n :: lastBytes k c.toNat) : 0x80 ≤ b.toNat := by
    obtain rfl | later := List.mem_cons.mp member
    · rwa [UInt8.toNat_ofNat_of_lt' byte]
    · exact high_of_mem_lastBytes later
  have size : UInt8.size = 256 := rfl
  rw [utf8EncodeChar_eq, if_neg (Nat.not_lt_of_le wide)] at member
  split at member
  · exact lead (by omega) (by omega) member
  split at member
  · exact lead (by omega) (by omega) member
  · exact lead (by omega) (by omega) member

section

variable {b : UInt8} {c : Char} (single : String.utf8EncodeChar c = [b])
include single

theorem toNat_of_single : c.toNat < 0x80 ∧ b.toNat = c.toNat := by
  rw [utf8EncodeChar_eq] at single
  split at single
  · next small =>
    obtain ⟨rfl, -⟩ := List.cons.inj single
    exact ⟨small, UInt8.toNat_ofNat_of_lt' (Nat.lt_trans small (by decide))⟩
  split at single
  · cases single
  split at single
  · cases single
  · cases single

/-- The byte is part of no other character. -/
theorem eq_of_mem_spelling {d : Char} (member : b ∈ String.utf8EncodeChar d) : d = c := by
  obtain ⟨small, same⟩ := toNat_of_single single
  by_cases wide : 0x80 ≤ d.toNat
  · have high := high_of_mem_spelling wide member
    omega
  · rw [utf8EncodeChar_eq, if_pos (Nat.lt_of_not_le wide), List.mem_singleton] at member
    have own : b.toNat = d.toNat := by
      rw [member]
      exact UInt8.toNat_ofNat_of_lt' (Nat.lt_trans (Nat.lt_of_not_le wide) (by decide))
    exact Char.toNat_inj.mp (own.symm.trans same)

theorem InvalidPart.extend {part rest : List UInt8} (found : InvalidPart part rest)
    (more : List UInt8) : InvalidPart part (rest ++ b :: more) := by
  -- a character with the byte among others, as after this part, there is not
  have alone {d : Char} {before tail : List UInt8}
      (spelling : String.utf8EncodeChar d = part ++ before ++ b :: tail) : False := by
    have member : b ∈ String.utf8EncodeChar d := by simp [spelling]
    have own := eq_of_mem_spelling single member
    rw [own, single] at spelling
    have sizes := congrArg List.length spelling
    have some := List.length_pos_iff.mpr found.nonempty
    simp only [List.length_append, List.length_cons, List.length_nil] at sizes
    omega
  refine ⟨found.nonempty, ?_, found.begun, ?_⟩
  · rintro d ⟨behind, whole⟩
    rw [← List.append_assoc] at whole
    obtain ⟨left, inside, -⟩ | ⟨left, spelling, ends⟩ := List.append_eq_append_iff.mp whole
    · exact found.noCharacter d ⟨left, inside.symm⟩
    · cases left with
      | nil =>
        rw [List.append_nil] at spelling
        exact found.noCharacter d ⟨[], by rw [spelling, List.append_nil]⟩
      | cons e tail =>
        obtain ⟨rfl, -⟩ := List.cons.inj ends
        exact alone spelling
  · intro e later goesOn
    cases rest with
    | nil =>
      obtain ⟨rfl, -⟩ := List.cons.inj goesOn
      rintro ⟨d, tail, spelling⟩
      have whole : String.utf8EncodeChar d = part ++ [] ++ b :: tail := by
        rw [← spelling]
        simp
      exact alone whole
    | cons first rest =>
      obtain ⟨rfl, -⟩ := List.cons.inj goesOn
      exact found.longest _ rest rfl

theorem ReadsAs.append_single {left right : List UInt8} {front back : List Char}
    (first : ReadsAs left front) (second : ReadsAs right back) :
    ReadsAs (left ++ b :: right) (front ++ c :: back) := by
  induction first with
  | nil =>
    have here := ReadsAs.character c second
    rwa [single] at here
  | character d later ih =>
    rw [List.append_assoc]
    exact .character d ih
  | invalid found later ih =>
    rw [List.append_assoc]
    exact .invalid (found.extend single right) ih

theorem ReadsAs.mem {bytes : List UInt8} {text : List Char} (reads : ReadsAs bytes text)
    (member : c ∈ text) : b ∈ bytes := by
  have small := (toNat_of_single single).1
  induction reads with
  | nil => cases member
  | @character d rest text later ih =>
    obtain rfl | member := List.mem_cons.mp member
    · simp [single]
    · exact List.mem_append_right _ (ih member)
  | @invalid part rest text found later ih =>
    obtain rfl | member := List.mem_cons.mp member
    · exact absurd small (by decide)
    · exact List.mem_append_right _ (ih member)

theorem ReadsAs.getLast? {bytes : List UInt8} {text : List Char} (reads : ReadsAs bytes text)
    (last : text.getLast? = some c) : bytes.getLast? = some b := by
  have small := (toNat_of_single single).1
  induction reads with
  | nil => cases last
  | @character d rest text later ih =>
    cases ends : text.getLast? with
    | none =>
      obtain rfl := List.getLast?_eq_none_iff.mp ends
      cases later
      obtain rfl : d = c := by simpa using last
      simp [single]
    | some e =>
      obtain rfl : e = c := by simpa [List.getLast?_cons, ends] using last
      rw [List.getLast?_append, ih ends, Option.some_or]
  | @invalid part rest text found later ih =>
    cases ends : text.getLast? with
    | none =>
      obtain rfl : '\uFFFD' = c := by simpa [List.getLast?_cons, ends] using last
      exact absurd small (by decide)
    | some e =>
      obtain rfl : e = c := by simpa [List.getLast?_cons, ends] using last
      rw [List.getLast?_append, ih ends, Option.some_or]

theorem decodeLossy_append_single (left right : List UInt8) :
    decodeLossy (left ++ b :: right) = decodeLossy left ++ c :: decodeLossy right :=
  (readsAs_iff.mp
    (ReadsAs.append_single single (readsAs_iff.mpr rfl) (readsAs_iff.mpr rfl))).symm

theorem mem_of_mem_decodeLossy {bytes : List UInt8} (member : c ∈ decodeLossy bytes) : b ∈ bytes :=
  ReadsAs.mem single (readsAs_iff.mpr rfl) member

theorem getLast?_decodeLossy {bytes : List UInt8} :
    (decodeLossy bytes).getLast? = some c ↔ bytes.getLast? = some b := by
  refine ⟨ReadsAs.getLast? single (readsAs_iff.mpr rfl), fun last => ?_⟩
  obtain ⟨front, rfl⟩ := List.getLast?_eq_some_iff.mp last
  rw [decodeLossy_append_single single, List.getLast?_append]
  rfl

end

end ChatGateway.Text.Utf8
