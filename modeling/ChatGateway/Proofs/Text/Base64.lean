import ChatGateway.Text.Base64

/-!
Base64 is a change of base. Three bytes and the four digits that stand for them are the same number,
written once to base 256 and once to base 64; a short last group is that with its last bits zero
and `=` for the digits that are not needed. `Spells` defines this for whole texts, without the
encoder and the decoder. `encode` writes the one text that spells the bytes, and `decode?` reads a
text exactly when it spells bytes.
-/
namespace ChatGateway.Text.Base64

/-- The digits in the order of what they stand for. -/
def alphabet : List Char :=
  "ABCDEFGHIJKLMNOPQRSTUVWXYZabcdefghijklmnopqrstuvwxyz0123456789+/".toList

/-- The character is the digit for the number. -/
def IsDigit (c : Char) (n : Nat) : Prop := alphabet[n]? = some c

/-- The text is base64 for the bytes, filled up with `=` and with zero for the bits left over. -/
inductive Spells : List Char → List UInt8 → Prop where
  | nil : Spells [] []
  | one {a b : Char} {m n : Nat} {p : UInt8} (first : IsDigit a m) (second : IsDigit b n)
      (same : m * 64 + n = p.toNat * 16) : Spells [a, b, '=', '='] [p]
  | two {a b c : Char} {m n k : Nat} {p q : UInt8} (first : IsDigit a m) (second : IsDigit b n)
      (third : IsDigit c k)
      (same : (m * 64 + n) * 64 + k = (p.toNat * 256 + q.toNat) * 4) : Spells [a, b, c, '='] [p, q]
  | three {a b c d : Char} {m n k l : Nat} {p q r : UInt8} {text : List Char} {bytes : List UInt8}
      (first : IsDigit a m) (second : IsDigit b n) (third : IsDigit c k) (fourth : IsDigit d l)
      (same : ((m * 64 + n) * 64 + k) * 64 + l = (p.toNat * 256 + q.toNat) * 256 + r.toNat)
      (later : Spells text bytes) : Spells (a :: b :: c :: d :: text) (p :: q :: r :: bytes)

instance (c : Char) (n : Nat) : Decidable (IsDigit c n) :=
  inferInstanceAs (Decidable (alphabet[n]? = some c))

theorem isDigit_digit {n : Nat} (small : n < 64) : IsDigit (digit n) n := by
  have all : ((List.range 64).all fun n => IsDigit (digit n) n) = true := by decide +kernel
  exact of_decide_eq_true (List.all_eq_true.mp all n (List.mem_range.mpr small))

namespace IsDigit

variable {c : Char} {n : Nat}

theorem lt (isDigit : IsDigit c n) : n < 64 :=
  (List.getElem?_eq_some_iff.mp isDigit).1

theorem eq_digit (isDigit : IsDigit c n) : c = digit n :=
  Option.some.inj (isDigit.symm.trans (isDigit_digit isDigit.lt))

theorem value? (isDigit : IsDigit c n) : value? c = some n := by
  have all : ((List.range 64).all fun n => Base64.value? (digit n) = some n) = true := by
    decide +kernel
  rw [isDigit.eq_digit]
  exact of_decide_eq_true (List.all_eq_true.mp all n (List.mem_range.mpr isDigit.lt))

/-- A number has one digit. -/
theorem unique {d : Char} {k : Nat} (isDigit : IsDigit c n) (other : IsDigit d k)
    (same : n = k) : d = c := by
  subst same
  exact Option.some.inj (other.symm.trans isDigit)

/-- The sign that fills up a group is no digit. -/
theorem ne_pad (isDigit : IsDigit c n) : c ≠ '=' := by
  rintro rfl
  cases isDigit.value?

end IsDigit

theorem toNat_of_value? {c : Char} {n : Nat} (found : value? c = some n) : c.toNat < 128 := by
  have whole : c.toNat = c.val.toNat := rfl
  unfold value? at found
  simp only [Char.le_def, UInt32.le_iff_toNat_le] at found
  split at found
  · next upper =>
    have last : 'Z'.val.toNat = 90 := rfl
    omega
  split at found
  · next lower =>
    have last : 'z'.val.toNat = 122 := rfl
    omega
  split at found
  · next decimal =>
    have last : '9'.val.toNat = 57 := rfl
    omega
  split at found
  · next plus =>
    rw [plus]
    decide
  split at found
  · next slash =>
    rw [slash]
    decide
  cases found

theorem value?_iff {c : Char} {n : Nat} : value? c = some n ↔ IsDigit c n := by
  refine ⟨fun found => ?_, IsDigit.value?⟩
  have all : ((List.range 128).all fun code =>
      (value? (Char.ofNat code)).all fun n => IsDigit (Char.ofNat code) n) = true := by
    decide +kernel
  have own := List.all_eq_true.mp all c.toNat (List.mem_range.mpr (toNat_of_value? found))
  rw [Char.ofNat_toNat, found] at own
  exact of_decide_eq_true own

/-- The text is written back to front. -/
theorem encodeOnto_spells (acc : List Char) (bytes : List UInt8) :
    ∃ text, encodeOnto acc bytes = text.reverse ++ acc ∧ Spells text bytes := by
  induction acc, bytes using encodeOnto.induct with
  | case1 acc => exact ⟨[], rfl, .nil⟩
  | case2 acc a =>
    have aByte := a.toNat_lt
    have spells : Spells [digit (a.toNat / 4), digit (a.toNat % 4 * 16), '=', '='] [a] :=
      .one (isDigit_digit (by omega)) (isDigit_digit (by omega)) (by omega)
    exact ⟨_, rfl, spells⟩
  | case3 acc a b =>
    have aByte := a.toNat_lt
    have bByte := b.toNat_lt
    have spells : Spells [digit (a.toNat / 4), digit (a.toNat % 4 * 16 + b.toNat / 16),
        digit (b.toNat % 16 * 4), '='] [a, b] :=
      .two (isDigit_digit (by omega)) (isDigit_digit (by omega)) (isDigit_digit (by omega))
        (by omega)
    exact ⟨_, rfl, spells⟩
  | case4 acc a b c rest ih =>
    have aByte := a.toNat_lt
    have bByte := b.toNat_lt
    have cByte := c.toNat_lt
    obtain ⟨text, written, later⟩ := ih
    have spells : Spells (digit (a.toNat / 4) :: digit (a.toNat % 4 * 16 + b.toNat / 16) ::
        digit (b.toNat % 16 * 4 + c.toNat / 64) :: digit (c.toNat % 64) :: text)
        (a :: b :: c :: rest) :=
      .three (isDigit_digit (by omega)) (isDigit_digit (by omega)) (isDigit_digit (by omega))
        (isDigit_digit (by omega)) (by omega) later
    refine ⟨_, ?_, spells⟩
    rw [encodeOnto, written]
    simp

theorem spells_encode (bytes : List UInt8) : Spells (encode bytes) bytes := by
  obtain ⟨text, written, spells⟩ := encodeOnto_spells [] bytes
  rw [encode, written, List.append_nil, List.reverse_reverse]
  exact spells

theorem toUInt8_eq {n : Nat} {p : UInt8} (same : n = p.toNat) : n.toUInt8 = p := by
  subst same
  exact UInt8.ofNat_toNat

theorem toNat_toUInt8 {n : Nat} (small : n < 256) : n.toUInt8.toNat = n :=
  UInt8.toNat_ofNat_of_lt' small

namespace Spells

variable {text other : List Char} {bytes : List UInt8}

/-- Bytes are spelt in one way, since a number has its digits to base 64 in one way. -/
theorem unique (spells : Spells text bytes) (again : Spells other bytes) : other = text := by
  induction spells generalizing other with
  | nil =>
    cases again with
    | nil => rfl
  | one first second same =>
    cases again with
    | one first' second' same' =>
      have low := second.lt
      have low' := second'.lt
      rw [first.unique first' (by omega), second.unique second' (by omega)]
  | two first second third same =>
    cases again with
    | two first' second' third' same' =>
      have middle := second.lt
      have middle' := second'.lt
      have low := third.lt
      have low' := third'.lt
      rw [first.unique first' (by omega), second.unique second' (by omega),
        third.unique third' (by omega)]
  | three first second third fourth same later ih =>
    cases again with
    | three first' second' third' fourth' same' later' =>
      have second64 := second.lt
      have second64' := second'.lt
      have third64 := third.lt
      have third64' := third'.lt
      have low := fourth.lt
      have low' := fourth'.lt
      rw [first.unique first' (by omega), second.unique second' (by omega),
        third.unique third' (by omega), fourth.unique fourth' (by omega), ih later']

/-- Bytes are read back to front. -/
theorem decodeOnto (spells : Spells text bytes) (acc : List UInt8) :
    decodeOnto acc text = some (bytes.reverse ++ acc) := by
  induction spells generalizing acc with
  | nil => rfl
  | @one a b m n p first second same =>
    have low := second.lt
    have zero : n % 16 = 0 := by omega
    have byte : (m * 4 + n / 16).toUInt8 = p := toUInt8_eq (by omega)
    rw [Base64.decodeOnto.eq_2]
    simp only [first.value?, second.value?, Option.bind_eq_bind, Option.bind_some, if_pos zero,
      byte]
    rfl
  | @two a b c m n k p q first second third same =>
    have middle := second.lt
    have low := third.lt
    have byteBound := q.toNat_lt
    have zero : k % 4 = 0 := by omega
    have byte : (m * 4 + n / 16).toUInt8 = p := toUInt8_eq (by omega)
    have lastByte : (n % 16 * 16 + k / 4).toUInt8 = q := toUInt8_eq (by omega)
    rw [Base64.decodeOnto.eq_3 _ _ _ _ third.ne_pad]
    simp only [first.value?, second.value?, third.value?, Option.bind_eq_bind, Option.bind_some,
      if_pos zero, byte, lastByte]
    rfl
  | @three a b c d m n k l p q r text bytes first second third fourth same later ih =>
    have second64 := second.lt
    have third64 := third.lt
    have low := fourth.lt
    have secondByte := q.toNat_lt
    have thirdByte := r.toNat_lt
    have byte : (m * 4 + n / 16).toUInt8 = p := toUInt8_eq (by omega)
    have byte' : (n % 16 * 16 + k / 4).toUInt8 = q := toUInt8_eq (by omega)
    have byte'' : (k % 4 * 64 + l).toUInt8 = r := toUInt8_eq (by omega)
    rw [Base64.decodeOnto.eq_4 _ _ _ _ _ _ (fun padded => absurd padded third.ne_pad)
      (fun padded => absurd padded fourth.ne_pad)]
    simp only [first.value?, second.value?, third.value?, fourth.value?, byte, byte', byte'']
    rw [ih]
    simp

/-- Nothing but digits and the sign that fills up a group. -/
theorem mem {c : Char} (spells : Spells text bytes) (member : c ∈ text) :
    c = '=' ∨ ∃ n, IsDigit c n := by
  induction spells with
  | nil => cases member
  | one first second same =>
    simp only [List.mem_cons, List.not_mem_nil, or_false] at member
    rcases member with rfl | rfl | pad | pad
    · exact .inr ⟨_, first⟩
    · exact .inr ⟨_, second⟩
    · exact .inl pad
    · exact .inl pad
  | two first second third same =>
    simp only [List.mem_cons, List.not_mem_nil, or_false] at member
    rcases member with rfl | rfl | rfl | pad
    · exact .inr ⟨_, first⟩
    · exact .inr ⟨_, second⟩
    · exact .inr ⟨_, third⟩
    · exact .inl pad
  | three first second third fourth same later ih =>
    simp only [List.mem_cons] at member
    rcases member with rfl | rfl | rfl | rfl | member
    · exact .inr ⟨_, first⟩
    · exact .inr ⟨_, second⟩
    · exact .inr ⟨_, third⟩
    · exact .inr ⟨_, fourth⟩
    · exact ih member

end Spells

/-- Whatever the decoder takes spells the bytes it gives. -/
theorem spells_of_decodeOnto {acc out : List UInt8} {text : List Char}
    (read : decodeOnto acc text = some out) :
    ∃ bytes, out = bytes.reverse ++ acc ∧ Spells text bytes := by
  induction acc, text using decodeOnto.induct generalizing out with
  | case1 acc =>
    cases read
    exact ⟨[], rfl, .nil⟩
  | case2 acc a b =>
    rw [decodeOnto.eq_2] at read
    obtain ⟨m, first, read⟩ := Option.bind_eq_some_iff.mp read
    obtain ⟨n, second, read⟩ := Option.bind_eq_some_iff.mp read
    rw [value?_iff] at first second
    have high := first.lt
    have low := second.lt
    split at read
    · next zero =>
      cases read
      refine ⟨[_], rfl, .one first second ?_⟩
      rw [toNat_toUInt8 (by omega)]
      omega
    · cases read
  | case3 acc a b c notPad =>
    rw [decodeOnto.eq_3 _ _ _ _ notPad] at read
    obtain ⟨m, first, read⟩ := Option.bind_eq_some_iff.mp read
    obtain ⟨n, second, read⟩ := Option.bind_eq_some_iff.mp read
    obtain ⟨k, third, read⟩ := Option.bind_eq_some_iff.mp read
    rw [value?_iff] at first second third
    have high := first.lt
    have middle := second.lt
    have low := third.lt
    split at read
    · next zero =>
      cases read
      refine ⟨[_, _], rfl, .two first second third ?_⟩
      rw [toNat_toUInt8 (by omega), toNat_toUInt8 (by omega)]
      omega
    · cases read
  | case4 acc a b c d rest notPad notPad' m n k l fourth third second first ih =>
    rw [decodeOnto.eq_4 _ _ _ _ _ _ notPad notPad'] at read
    simp only [first, second, third, fourth] at read
    obtain ⟨bytes, rfl, later⟩ := ih read
    rw [value?_iff] at first second third fourth
    have high := first.lt
    have second64 := second.lt
    have third64 := third.lt
    have low := fourth.lt
    have spells : Spells (a :: b :: c :: d :: rest) ((m * 4 + n / 16).toUInt8 ::
        (n % 16 * 16 + k / 4).toUInt8 :: (k % 4 * 64 + l).toUInt8 :: bytes) := by
      refine .three first second third fourth ?_ later
      rw [toNat_toUInt8 (by omega), toNat_toUInt8 (by omega), toNat_toUInt8 (by omega)]
      omega
    refine ⟨_, ?_, spells⟩
    simp only [List.reverse_cons, List.append_assoc, List.cons_append, List.nil_append]
  | case5 acc a b c d rest notPad notPad' noDigits =>
    rw [decodeOnto.eq_4 _ _ _ _ _ _ notPad notPad'] at read
    split at read
    · next m n k l first second third fourth =>
      exact absurd fourth (noDigits m n k l first second third)
    · cases read
  | case6 text acc notNil notOne notTwo notThree =>
    rw [decodeOnto.eq_5 _ _ notNil notOne notTwo notThree] at read
    cases read

theorem decode?_iff {text : List Char} {bytes : List UInt8} :
    decode? text = some bytes ↔ Spells text bytes := by
  rw [decode?, Option.map_eq_some_iff]
  constructor
  · rintro ⟨out, read, rfl⟩
    obtain ⟨bytes, rfl, spells⟩ := spells_of_decodeOnto read
    simpa using spells
  · intro spells
    refine ⟨_, spells.decodeOnto [], ?_⟩
    rw [List.append_nil, List.reverse_reverse]

/-- The one text for the bytes is the one that is written. -/
theorem spells_iff_eq_encode {text : List Char} {bytes : List UInt8} :
    Spells text bytes ↔ text = encode bytes := by
  constructor
  · exact fun spells => (spells_encode bytes).unique spells
  · rintro rfl
    exact spells_encode bytes

end ChatGateway.Text.Base64
