import ChatGateway.Text.Utf8

/-!
The automaton takes a character exactly from the bytes that spell it. What it has read of a
character stands for the numbers that can still come of it: their front is known, their next six
bits lie between two bounds and the rest is free. So one induction on the missing bytes settles all
starts, and only the bytes that begin a character are looked at case by case.
-/
namespace ChatGateway.Text.Utf8

/-- Reading the bytes from what is pending gives the character with the last byte and nothing
before. -/
inductive Completes (c : Char) : Pending → List UInt8 → Prop where
  | last {pending : Pending} {b : UInt8} (done : step pending b = ([some c], .none)) :
      Completes c pending [b]
  | more {pending next : Pending} {b : UInt8} {tail : List UInt8}
      (kept : step pending b = ([], next)) (later : Completes c next tail) :
      Completes c pending (b :: tail)

/-- A number without its last groups of six bits. -/
def front : Nat → Nat → Nat
  | 0, n => n
  | k + 1, n => front k n / 64

/-- The bytes for the last groups of six bits. -/
def lastBytes : Nat → Nat → List UInt8
  | 0, _ => []
  | k + 1, n => UInt8.ofNat (0x80 + front k n % 64) :: lastBytes k n

theorem exists_front (k m : Nat) : ∃ n, front k n = m := by
  induction k generalizing m with
  | zero => exact ⟨m, rfl⟩
  | succ k ih =>
    obtain ⟨n, same⟩ := ih (m * 64)
    refine ⟨n, ?_⟩
    rw [front, same]
    omega

theorem toNat_lastByte (n : Nat) : (UInt8.ofNat (0x80 + n % 64)).toNat = 0x80 + n % 64 := by
  apply UInt8.toNat_ofNat_of_lt'
  have small := Nat.mod_lt n (y := 64) (by decide)
  have size : UInt8.size = 256 := rfl
  omega

/-- A state that reading comes to: the bounds of the next byte leave room and are within those of
every byte that is not the first. -/
inductive Pending.IsOpen : Pending → Prop where
  | none : IsOpen .none
  | started {bits k : Nat} {low high : UInt8} (least : 0x80 ≤ low.toNat)
      (room : low.toNat ≤ high.toNat) (most : high.toNat ≤ 0xBF) :
      IsOpen (.started bits (k + 1) low high)

theorem Pending.IsOpen.later (bits k : Nat) : (Pending.started bits (k + 1) 0x80 0xBF).IsOpen :=
  .started (by decide) (by decide) (by decide)

/-- The number can come of a start that wants `k + 1` bytes more, the next from `low` to `high`. -/
structure Wants (bits k : Nat) (low high : UInt8) (n : Nat) : Prop where
  begins : front k n / 64 = bits
  least : low.toNat ≤ 0x80 + front k n % 64
  most : 0x80 + front k n % 64 ≤ high.toNat

section

variable {bits missing k : Nat} {low high b : UInt8}

theorem step_inside_last (least : low.toNat ≤ b.toNat) (most : b.toNat ≤ high.toNat) :
    step (.started bits 1 low high) b =
      ([some (Char.ofNat (bits * 64 + (b.toNat - 0x80)))], .none) := by
  have inside : low ≤ b ∧ b ≤ high :=
    ⟨UInt8.le_iff_toNat_le.mpr least, UInt8.le_iff_toNat_le.mpr most⟩
  rw [step, if_pos inside, if_pos (Nat.le_refl 1)]

theorem step_inside_more (least : low.toNat ≤ b.toNat) (most : b.toNat ≤ high.toNat) :
    step (.started bits (k + 2) low high) b =
      ([], .started (bits * 64 + (b.toNat - 0x80)) (k + 1) 0x80 0xBF) := by
  have inside : low ≤ b ∧ b ≤ high :=
    ⟨UInt8.le_iff_toNat_le.mpr least, UInt8.le_iff_toNat_le.mpr most⟩
  rw [step, if_pos inside, if_neg (by omega)]
  rfl

/-- A byte that does not go on with the character is read afresh after it. -/
theorem step_outside (outside : ¬ (low.toNat ≤ b.toNat ∧ b.toNat ≤ high.toNat)) :
    step (.started bits missing low high) b =
      (none :: (step .none b).1, (step .none b).2) := by
  have refused : ¬ (low ≤ b ∧ b ≤ high) := by simpa only [UInt8.le_iff_toNat_le] using outside
  exact if_neg refused

end

theorem Wants.completes {bits k : Nat} {low high : UInt8} {n : Nat}
    (wants : Wants bits k low high n) :
    Completes (Char.ofNat n) (.started bits (k + 1) low high) (lastBytes (k + 1) n) := by
  -- the bounds hold for the next byte alone, so they change from step to step
  induction k generalizing bits low high with
  | zero =>
    obtain ⟨begins, least, most⟩ := wants
    rw [← toNat_lastByte] at least most
    have whole : bits * 64 + ((UInt8.ofNat (0x80 + front 0 n % 64)).toNat - 0x80) = n := by
      rw [toNat_lastByte, ← begins, front]
      omega
    apply Completes.last
    rw [step_inside_last least most, whole]
  | succ k ih =>
    obtain ⟨begins, least, most⟩ := wants
    rw [← toNat_lastByte] at least most
    refine Completes.more (step_inside_more least most) (ih ⟨?_, ?_, ?_⟩)
    · rw [toNat_lastByte, ← begins, front]
      omega
    · exact Nat.le_add_right ..
    · have small := Nat.mod_lt (front k n) (y := 64) (by decide)
      have bound : (0xBF : UInt8).toNat = 0xBF := rfl
      omega

/-- A byte out of bounds shows an invalid part, and no character comes of it. -/
theorem Completes.inside {c : Char} {bits missing : Nat} {low high b : UInt8} {tail : List UInt8}
    (completes : Completes c (.started bits missing low high) (b :: tail)) :
    low.toNat ≤ b.toNat ∧ b.toNat ≤ high.toNat := by
  apply Decidable.byContradiction
  intro outside
  cases completes with
  | last done =>
    rw [step_outside outside] at done
    cases done
  | more kept later =>
    rw [step_outside outside] at kept
    cases kept

/-- A byte within the bounds holds the next six bits of the number. -/
theorem Wants.of_byte {bits k n : Nat} {low high b : UInt8}
    (isOpen : (Pending.started bits (k + 1) low high).IsOpen) (least : low.toNat ≤ b.toNat)
    (most : b.toNat ≤ high.toNat) (known : front k n = bits * 64 + (b.toNat - 0x80)) :
    Wants bits k low high n ∧ UInt8.ofNat (0x80 + front k n % 64) = b := by
  obtain ⟨low_least, -, high_most⟩ := isOpen
  have digit : 0x80 + front k n % 64 = b.toNat := by omega
  refine ⟨⟨?_, ?_, ?_⟩, ?_⟩
  · omega
  · rwa [digit]
  · rwa [digit]
  · rw [digit, UInt8.ofNat_toNat]

/-- A character that comes of a start is one that the start wants. -/
theorem Completes.exists_wants {c : Char} {bits k : Nat} {low high : UInt8} {tail : List UInt8}
    (completes : Completes c (.started bits (k + 1) low high) tail)
    (isOpen : (Pending.started bits (k + 1) low high).IsOpen) :
    ∃ n, Wants bits k low high n ∧ tail = lastBytes (k + 1) n ∧ c = Char.ofNat n := by
  induction k generalizing bits low high tail with
  | zero =>
    cases completes with
    | @last _ b done =>
      obtain ⟨least, most⟩ := (Completes.last done).inside
      rw [step_inside_last least most] at done
      simp only [Prod.mk.injEq, List.cons.injEq, Option.some.injEq, and_true] at done
      have known : front 0 (bits * 64 + (b.toNat - 0x80)) = bits * 64 + (b.toNat - 0x80) := by
        rw [front]
      obtain ⟨wanted, byte⟩ := Wants.of_byte isOpen least most known
      refine ⟨bits * 64 + (b.toNat - 0x80), wanted, ?_, done.symm⟩
      rw [lastBytes, byte, lastBytes]
    | more kept later =>
      obtain ⟨least, most⟩ := (Completes.more kept later).inside
      rw [step_inside_last least most] at kept
      cases kept
  | succ k ih =>
    cases completes with
    | last done =>
      obtain ⟨least, most⟩ := (Completes.last done).inside
      rw [step_inside_more least most] at done
      cases done
    | @more _ _ b _ kept later =>
      obtain ⟨least, most⟩ := (Completes.more kept later).inside
      rw [step_inside_more least most] at kept
      obtain ⟨-, rfl⟩ := Prod.mk.inj kept
      obtain ⟨n, ⟨begins, -, -⟩, rfl, rfl⟩ := ih later (.later ..)
      obtain ⟨wanted, byte⟩ := Wants.of_byte isOpen least most begins
      exact ⟨n, wanted, congrArg (· :: lastBytes (k + 1) n) byte.symm, rfl⟩

/-! The rows of the table of first bytes. -/

/-- A bound of the second byte, which one first byte makes narrower. -/
def bound (special bits : Nat) (narrow wide : UInt8) : UInt8 :=
  if bits = special then narrow else wide

theorem bound_cases (special bits : Nat) (narrow wide : UInt8) :
    bits = special ∧ (bound special bits narrow wide).toNat = narrow.toNat ∨
      bits ≠ special ∧ (bound special bits narrow wide).toNat = wide.toNat := by
  by_cases same : bits = special <;> simp [bound, same]

theorem ofByte_one {b : UInt8} (small : b.toNat < 0x80) :
    Lead.ofByte b = .complete (Char.ofNat b.toNat) :=
  if_pos (UInt8.lt_iff_toNat_lt.mpr small)

theorem ofByte_two : ∀ bits < 32, 2 ≤ bits →
    Lead.ofByte (UInt8.ofNat (0xC0 + bits)) = .start bits 1 0x80 0xBF := by
  decide

theorem ofByte_three : ∀ bits < 16, Lead.ofByte (UInt8.ofNat (0xE0 + bits)) =
    .start bits 2 (bound 0 bits 0xA0 0x80) (bound 0xD bits 0x9F 0xBF) := by
  decide

theorem ofByte_four : ∀ bits < 5, Lead.ofByte (UInt8.ofNat (0xF0 + bits)) =
    .start bits 3 (bound 0 bits 0x90 0x80) (bound 4 bits 0x8F 0xBF) := by
  decide

theorem ofByte_between : ∀ n < 66, Lead.ofByte (UInt8.ofNat (0x80 + n)) = .invalid := by
  decide

theorem ofByte_above : ∀ n < 11, Lead.ofByte (UInt8.ofNat (0xF5 + n)) = .invalid := by
  decide

/-- What a byte can lead to when it is the first one. -/
inductive Row : UInt8 → Lead → Prop where
  | one {b : UInt8} (small : b.toNat < 0x80) : Row b (.complete (Char.ofNat b.toNat))
  | two {bits : Nat} (bounds : 2 ≤ bits ∧ bits < 32) :
      Row (UInt8.ofNat (0xC0 + bits)) (.start bits 1 0x80 0xBF)
  | three {bits : Nat} (small : bits < 16) :
      Row (UInt8.ofNat (0xE0 + bits)) (.start bits 2 (bound 0 bits 0xA0 0x80)
        (bound 0xD bits 0x9F 0xBF))
  | four {bits : Nat} (small : bits < 5) :
      Row (UInt8.ofNat (0xF0 + bits)) (.start bits 3 (bound 0 bits 0x90 0x80)
        (bound 4 bits 0x8F 0xBF))
  | none {b : UInt8} : Row b .invalid

theorem row_ofByte (b : UInt8) : Row b (Lead.ofByte b) := by
  have byte := b.toNat_lt
  have whole (least : Nat) (above : least ≤ b.toNat) :
      b = UInt8.ofNat (least + (b.toNat - least)) := by
    rw [Nat.add_sub_cancel' above, UInt8.ofNat_toNat]
  by_cases one : b.toNat < 0x80
  · rw [ofByte_one one]
    exact .one one
  by_cases between : b.toNat < 0xC2
  · rw [whole 0x80 (by omega), ofByte_between _ (by omega)]
    exact .none
  by_cases two : b.toNat < 0xE0
  · rw [whole 0xC0 (by omega), ofByte_two _ (by omega) (by omega)]
    exact .two (by omega)
  by_cases three : b.toNat < 0xF0
  · rw [whole 0xE0 (by omega), ofByte_three _ (by omega)]
    exact .three (by omega)
  by_cases four : b.toNat < 0xF5
  · rw [whole 0xF0 (by omega), ofByte_four _ (by omega)]
    exact .four (by omega)
  · rw [whole 0xF5 (by omega), ofByte_above _ (by omega)]
    exact .none

section

variable {n bits : Nat}

theorem wants_two : (2 ≤ bits ∧ bits < 32) ∧ Wants bits 0 0x80 0xBF n ↔
    n / 64 = bits ∧ 0x80 ≤ n ∧ n < 0x800 := by
  have low : (0x80 : UInt8).toNat = 0x80 := rfl
  have high : (0xBF : UInt8).toNat = 0xBF := rfl
  constructor
  · rintro ⟨bounds, begins, least, most⟩
    simp only [front] at begins
    omega
  · rintro ⟨begins, bounds⟩
    refine ⟨by omega, by simpa only [front] using begins, ?_, ?_⟩
    all_goals omega

theorem wants_three : bits < 16 ∧ Wants bits 1 (bound 0 bits 0xA0 0x80)
      (bound 0xD bits 0x9F 0xBF) n ↔
    n / 4096 = bits ∧ 0x800 ≤ n ∧ n < 0x10000 ∧ n.isValidChar := by
  have low := bound_cases 0 bits 0xA0 0x80
  have high := bound_cases 0xD bits 0x9F 0xBF
  simp only [UInt8.reduceToNat] at low high
  constructor
  · rintro ⟨small, begins, least, most⟩
    simp only [front] at begins least most
    unfold Nat.isValidChar
    omega
  · rintro ⟨begins, bounds, valid⟩
    unfold Nat.isValidChar at valid
    refine ⟨by omega, ?_, ?_, ?_⟩
    all_goals
      simp only [front]
      omega

theorem wants_four : bits < 5 ∧ Wants bits 2 (bound 0 bits 0x90 0x80)
      (bound 4 bits 0x8F 0xBF) n ↔
    n / 262144 = bits ∧ 0x10000 ≤ n ∧ n.isValidChar := by
  have low := bound_cases 0 bits 0x90 0x80
  have high := bound_cases 4 bits 0x8F 0xBF
  simp only [UInt8.reduceToNat] at low high
  constructor
  · rintro ⟨small, begins, least, most⟩
    simp only [front] at begins least most
    unfold Nat.isValidChar
    omega
  · rintro ⟨begins, bounds, valid⟩
    unfold Nat.isValidChar at valid
    refine ⟨by omega, ?_, ?_, ?_⟩
    all_goals
      simp only [front]
      omega

end

theorem utf8EncodeChar_eq (c : Char) :
    String.utf8EncodeChar c =
      if c.toNat < 0x80 then [UInt8.ofNat c.toNat]
      else if c.toNat < 0x800 then UInt8.ofNat (0xC0 + c.toNat / 64) :: lastBytes 1 c.toNat
      else if c.toNat < 0x10000 then UInt8.ofNat (0xE0 + c.toNat / 4096) :: lastBytes 2 c.toNat
      else UInt8.ofNat (0xF0 + c.toNat / 262144) :: lastBytes 3 c.toNat := by
  have valid := c.valid
  simp only [UInt32.isValidChar, Nat.isValidChar, Char.toNat_val] at valid
  have one : c.toNat ≤ 0x7f ↔ c.toNat < 0x80 := by omega
  have two : c.toNat ≤ 0x7ff ↔ c.toNat < 0x800 := by omega
  have three : c.toNat ≤ 0xffff ↔ c.toNat < 0x10000 := by omega
  simp only [String.utf8EncodeChar, Char.toNat_val, one, two, three, front, lastBytes,
    Nat.div_div_eq_div_mul, Nat.reduceMul, Nat.add_comm (0x80)]
  split
  · rfl
  split
  · rw [Nat.mod_eq_of_lt (by omega), Nat.add_comm]
  split
  · rw [Nat.mod_eq_of_lt (b := 0x10) (by omega), Nat.add_comm 0xE0]
  · rw [Nat.mod_eq_of_lt (b := 0x08) (by omega), Nat.add_comm 0xF0]

theorem Wants.completes_first {c : Char} {b : UInt8} {bits k : Nat} {low high : UInt8}
    (wants : Wants bits k low high c.toNat)
    (starts : Lead.ofByte b = .start bits (k + 1) low high) :
    Completes c .none (b :: lastBytes (k + 1) c.toNat) := by
  have later := wants.completes
  rw [Char.ofNat_toNat] at later
  refine Completes.more ?_ later
  rw [step, afresh, starts]

theorem completes_spelling (c : Char) : Completes c .none (String.utf8EncodeChar c) := by
  have valid : c.toNat.isValidChar := c.valid
  rw [utf8EncodeChar_eq]
  split
  · next small =>
    have byte : (UInt8.ofNat c.toNat).toNat = c.toNat :=
      UInt8.toNat_ofNat_of_lt' (Nat.lt_trans small (by decide))
    apply Completes.last
    rw [step, afresh, ofByte_one (byte.symm ▸ small), byte, Char.ofNat_toNat]
  split
  · next above below =>
    obtain ⟨⟨above, below⟩, wants⟩ := wants_two.mpr ⟨rfl, Nat.le_of_not_lt above, below⟩
    exact wants.completes_first (ofByte_two _ below above)
  split
  · next above below =>
    obtain ⟨small, wants⟩ := wants_three.mpr ⟨rfl, Nat.le_of_not_lt above, below, valid⟩
    exact wants.completes_first (ofByte_three _ small)
  · next above =>
    obtain ⟨small, wants⟩ := wants_four.mpr ⟨rfl, Nat.le_of_not_lt above, valid⟩
    exact wants.completes_first (ofByte_four _ small)

theorem toNat_ofNat {n : Nat} (valid : n.isValidChar) : (Char.ofNat n).toNat = n := by
  rw [Char.ofNat, dif_pos valid]
  rfl

theorem Row.isOpen {b : UInt8} {bits missing : Nat} {low high : UInt8}
    (row : Row b (.start bits missing low high)) :
    (Pending.started bits missing low high).IsOpen := by
  cases row with
  | two bounds => exact .later ..
  | three small =>
    have low := bound_cases 0 bits 0xA0 0x80
    have high := bound_cases 0xD bits 0x9F 0xBF
    simp only [UInt8.reduceToNat] at low high
    exact .started (by omega) (by omega) (by omega)
  | four small =>
    have low := bound_cases 0 bits 0x90 0x80
    have high := bound_cases 4 bits 0x8F 0xBF
    simp only [UInt8.reduceToNat] at low high
    exact .started (by omega) (by omega) (by omega)

theorem Completes.eq_spelling {c : Char} {bytes : List UInt8}
    (completes : Completes c .none bytes) : bytes = String.utf8EncodeChar c := by
  cases completes with
  | @last _ b done =>
    have row := row_ofByte b
    rw [step, afresh] at done
    generalize Lead.ofByte b = lead at row done
    cases row with
    | one small =>
      simp only [Prod.mk.injEq, List.cons.injEq, Option.some.injEq, and_true] at done
      have valid : b.toNat.isValidChar := .inl (by omega)
      rw [utf8EncodeChar_eq, ← done, toNat_ofNat valid, if_pos small, UInt8.ofNat_toNat]
    | two bounds => cases done
    | three small => cases done
    | four small => cases done
    | none => cases done
  | @more _ next b tail kept later =>
    have row := row_ofByte b
    rw [step, afresh] at kept
    generalize Lead.ofByte b = lead at row kept
    cases row with
    | one small => cases kept
    | none => cases kept
    | two bounds =>
      obtain ⟨-, rfl⟩ := Prod.mk.inj kept
      obtain ⟨n, wants, rfl, rfl⟩ := later.exists_wants (Row.two bounds).isOpen
      obtain ⟨begins, above, below⟩ := wants_two.mp ⟨bounds, wants⟩
      have valid : n.isValidChar := .inl (by omega)
      rw [utf8EncodeChar_eq, toNat_ofNat valid, if_neg (by omega), if_pos below, begins]
    | three small =>
      obtain ⟨-, rfl⟩ := Prod.mk.inj kept
      obtain ⟨n, wants, rfl, rfl⟩ := later.exists_wants (Row.three small).isOpen
      obtain ⟨begins, above, below, valid⟩ := wants_three.mp ⟨small, wants⟩
      rw [utf8EncodeChar_eq, toNat_ofNat valid, if_neg (by omega), if_neg (by omega),
        if_pos below, begins]
    | four small =>
      obtain ⟨-, rfl⟩ := Prod.mk.inj kept
      obtain ⟨n, wants, rfl, rfl⟩ := later.exists_wants (Row.four small).isOpen
      obtain ⟨begins, above, valid⟩ := wants_four.mp ⟨small, wants⟩
      rw [utf8EncodeChar_eq, toNat_ofNat valid, if_neg (by omega), if_neg (by omega),
        if_neg (by omega), begins]

/-- All that a byte can do. -/
inductive Reaction (b : UInt8) : Pending → Prop where
  | last {pending : Pending} {c : Char} (done : step pending b = ([some c], .none)) :
      Reaction b pending
  | more {pending next : Pending} (kept : step pending b = ([], next)) (isOpen : next.IsOpen)
      (started : next ≠ .none) : Reaction b pending
  | invalid (refused : step .none b = ([none], .none)) : Reaction b .none
  | afresh {bits missing : Nat} {low high : UInt8}
      (left : step (.started bits missing low high) b =
        (none :: (step .none b).1, (step .none b).2)) : Reaction b (.started bits missing low high)

theorem Pending.IsOpen.reaction {pending : Pending} (isOpen : pending.IsOpen) (b : UInt8) :
    Reaction b pending := by
  cases isOpen with
  | none =>
    have row := row_ofByte b
    cases lead : Lead.ofByte b with
    | complete c =>
      apply Reaction.last
      rw [step, afresh, lead]
    | invalid =>
      apply Reaction.invalid
      rw [step, afresh, lead]
    | start bits missing low high =>
      refine Reaction.more ?_ (lead ▸ row).isOpen (by simp)
      rw [step, afresh, lead]
  | @started bits k low high least room most =>
    by_cases inside : low.toNat ≤ b.toNat ∧ b.toNat ≤ high.toNat
    · cases k with
      | zero => exact .last (step_inside_last inside.1 inside.2)
      | succ k =>
        exact .more (step_inside_more inside.1 inside.2) (.later ..) (by simp)
    · exact .afresh (step_outside inside)

/-- Whatever has been read of a character, there is one that begins so. -/
theorem Pending.IsOpen.exists_completes {pending : Pending} (isOpen : pending.IsOpen) :
    ∃ c tail, Completes c pending tail := by
  cases isOpen with
  | none => exact ⟨'a', _, completes_spelling 'a'⟩
  | @started bits k low high least room most =>
    obtain ⟨n, same⟩ := exists_front k (bits * 64 + (low.toNat - 0x80))
    have wants : Wants bits k low high n := ⟨by omega, by omega, by omega⟩
    exact ⟨_, _, wants.completes⟩

/-- No character is spelt by the beginning of the bytes of another one. -/
theorem Completes.unique {c d : Char} {pending : Pending} {bytes more : List UInt8}
    (first : Completes c pending bytes) (second : Completes d pending (bytes ++ more)) :
    d = c ∧ more = [] := by
  generalize whole : bytes ++ more = all at second
  induction first generalizing all with
  | last done =>
    cases second with
    | last again =>
      obtain ⟨rfl, rest⟩ := List.cons.inj whole
      rw [done] at again
      simp only [Prod.mk.injEq, List.cons.injEq, Option.some.injEq, and_true] at again
      exact ⟨again.symm, rest⟩
    | more kept later =>
      obtain ⟨rfl, -⟩ := List.cons.inj whole
      rw [done] at kept
      cases kept
  | more kept later ih =>
    cases second with
    | last done =>
      obtain ⟨rfl, -⟩ := List.cons.inj whole
      rw [kept] at done
      cases done
    | more again further =>
      obtain ⟨rfl, rest⟩ := List.cons.inj whole
      rw [kept] at again
      obtain ⟨-, rfl⟩ := Prod.mk.inj again
      exact ih _ rest further

/-- The automaton takes a character from the bytes that spell it, and from no others. -/
theorem completes_iff {c : Char} {bytes : List UInt8} :
    Completes c .none bytes ↔ bytes = String.utf8EncodeChar c :=
  ⟨Completes.eq_spelling, fun same => same ▸ completes_spelling c⟩

end ChatGateway.Text.Utf8
