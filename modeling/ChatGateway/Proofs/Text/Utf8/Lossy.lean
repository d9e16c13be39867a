import ChatGateway.Proofs.Text.Utf8.Spelling

/-!
What bytes mean when they need not be UTF-8: characters as they are spelt, and a replacement
character for every maximal invalid part. `ReadsAs` says this without the automaton; there is one
such text, and the automaton gives it.
-/
namespace ChatGateway.Text.Utf8

/-- Some character is spelt by bytes that begin so. -/
def Begins (part : List UInt8) : Prop := ∃ c, part <+: String.utf8EncodeChar c

/-- The bytes in front of `rest` at which no character stands: as long a beginning of one as there
is, or a single byte that begins none. -/
structure InvalidPart (part rest : List UInt8) : Prop where
  nonempty : part ≠ []
  noCharacter : ∀ c, ¬ String.utf8EncodeChar c <+: part ++ rest
  begun : part.length = 1 ∨ Begins part
  longest : ∀ b more, rest = b :: more → ¬ Begins (part ++ [b])

/-- The text that bytes are read as. -/
inductive ReadsAs : List UInt8 → List Char → Prop where
  | nil : ReadsAs [] []
  | character (c : Char) {rest : List UInt8} {text : List Char} (later : ReadsAs rest text) :
      ReadsAs (String.utf8EncodeChar c ++ rest) (c :: text)
  | invalid {part rest : List UInt8} {text : List Char} (found : InvalidPart part rest)
      (later : ReadsAs rest text) : ReadsAs (part ++ rest) ('\uFFFD' :: text)

theorem spelling_ne_nil (c : Char) : String.utf8EncodeChar c ≠ [] := by
  intro none
  have completes := completes_spelling c
  rw [none] at completes
  cases completes

/-- The bytes of a text tell where its characters end. -/
theorem spelling_inj {c d : Char} {x y : List UInt8}
    (same : String.utf8EncodeChar c ++ x = String.utf8EncodeChar d ++ y) : c = d ∧ x = y := by
  have cSpelt := completes_spelling c
  have dSpelt := completes_spelling d
  obtain ⟨more, spelling, rfl⟩ | ⟨more, spelling, rfl⟩ := List.append_eq_append_iff.mp same
  · rw [spelling] at dSpelt
    obtain ⟨rfl, rfl⟩ := cSpelt.unique dSpelt
    exact ⟨rfl, rfl⟩
  · rw [spelling] at cSpelt
    obtain ⟨rfl, rfl⟩ := dSpelt.unique cSpelt
    exact ⟨rfl, rfl⟩

/-- No part goes on where a shorter one ends: the shorter one would go on as well. -/
theorem InvalidPart.not_longer {part left right tail : List UInt8} {b : UInt8}
    (found : InvalidPart part (b :: left)) : ¬ InvalidPart (part ++ b :: tail) right := by
  intro longer
  apply found.longest b left rfl
  obtain single | ⟨c, spelt⟩ := longer.begun
  · have some := List.length_pos_iff.mpr found.nonempty
    rw [List.length_append, List.length_cons] at single
    omega
  · exact ⟨c, List.IsPrefix.trans ⟨tail, by simp⟩ spelt⟩

theorem InvalidPart.unique {part other rest more : List UInt8} (found : InvalidPart part rest)
    (again : InvalidPart other more) (same : part ++ rest = other ++ more) :
    part = other ∧ rest = more := by
  obtain ⟨between, rfl, rfl⟩ | ⟨between, rfl, rfl⟩ := List.append_eq_append_iff.mp same
  · cases between with
    | nil => exact ⟨(List.append_nil part).symm, rfl⟩
    | cons b tail => exact absurd again found.not_longer
  · cases between with
    | nil => exact ⟨List.append_nil other, rfl⟩
    | cons b tail => exact absurd found again.not_longer

theorem ReadsAs.unique {bytes : List UInt8} {text other : List Char} (reads : ReadsAs bytes text)
    (again : ReadsAs bytes other) : text = other := by
  induction reads generalizing other with
  | nil =>
    generalize empty : [] = bytes at again
    cases again with
    | nil => rfl
    | character c later => exact absurd (List.append_eq_nil_iff.mp empty.symm).1 (spelling_ne_nil c)
    | invalid found later => exact absurd (List.append_eq_nil_iff.mp empty.symm).1 found.nonempty
  | @character c rest text later ih =>
    generalize whole : String.utf8EncodeChar c ++ rest = bytes at again
    cases again with
    | nil => exact absurd (List.append_eq_nil_iff.mp whole).1 (spelling_ne_nil c)
    | character d further =>
      obtain ⟨rfl, rfl⟩ := spelling_inj whole
      rw [ih further]
    | invalid found further => exact absurd ⟨rest, whole⟩ (found.noCharacter c)
  | @invalid part rest text found later ih =>
    generalize whole : part ++ rest = bytes at again
    cases again with
    | nil => exact absurd (List.append_eq_nil_iff.mp whole).1 found.nonempty
    | @character d more _ further => exact absurd ⟨more, whole.symm⟩ (found.noCharacter d)
    | invalid again further =>
      obtain ⟨rfl, rfl⟩ := found.unique again whole
      rw [ih further]

/-- The parts of the bytes that follow what is pending. -/
def partsFrom : Pending → List UInt8 → List (Option Char)
  | pending, [] => pending.flush
  | pending, b :: rest => (step pending b).1 ++ partsFrom (step pending b).2 rest

theorem foldl_parts (push : List (Option Char) × Pending → UInt8 → List (Option Char) × Pending)
    (pushes : ∀ reversed pending b, push (reversed, pending) b =
      ((step pending b).1.reverseAux reversed, (step pending b).2))
    (bytes : List UInt8) (reversed : List (Option Char)) (pending : Pending) :
    ((bytes.foldl push (reversed, pending)).2.flush.reverseAux
        (bytes.foldl push (reversed, pending)).1).reverse =
      reversed.reverse ++ partsFrom pending bytes := by
  induction bytes generalizing reversed pending with
  | nil => simp [partsFrom, List.reverseAux_eq]
  | cons b rest ih =>
    rw [List.foldl_cons, pushes, ih, partsFrom]
    simp [List.reverseAux_eq]

theorem parts_eq (bytes : List UInt8) : parts bytes = partsFrom .none bytes :=
  foldl_parts _ (fun _ _ _ => rfl) bytes [] .none

/-- The text of the bytes that follow what is pending. -/
def textFrom (pending : Pending) (bytes : List UInt8) : List Char :=
  (partsFrom pending bytes).map (·.getD '\uFFFD')

theorem textFrom_cons (pending : Pending) (b : UInt8) (rest : List UInt8) :
    textFrom pending (b :: rest) =
      (step pending b).1.map (·.getD '\uFFFD') ++ textFrom (step pending b).2 rest := by
  rw [textFrom, partsFrom, List.map_append, textFrom]

/-- `read` is what the automaton has read of a character when this is pending. -/
structure Stands (read : List UInt8) (pending : Pending) : Prop where
  isOpen : pending.IsOpen
  begun : read = [] ↔ pending = .none
  spells : ∀ c tail, Completes c pending tail ↔ read ++ tail = String.utf8EncodeChar c

namespace Stands

variable {read rest : List UInt8} {pending next : Pending} {b : UInt8} {c : Char}

theorem nothing : Stands [] .none where
  isOpen := .none
  begun := by simp
  spells _ _ := completes_iff

theorem last (stands : Stands read pending) (done : step pending b = ([some c], .none)) :
    read ++ [b] = String.utf8EncodeChar c :=
  (stands.spells c [b]).mp (.last done)

theorem more (stands : Stands read pending) (kept : step pending b = ([], next))
    (isOpen : next.IsOpen) (started : next ≠ .none) : Stands (read ++ [b]) next where
  isOpen := isOpen
  begun := by simp [started]
  spells c tail := by
    rw [List.append_assoc, List.singleton_append, ← stands.spells c (b :: tail)]
    refine ⟨.more kept, fun completes => ?_⟩
    cases completes with
    | last done =>
      rw [kept] at done
      cases done
    | more again later =>
      rw [kept] at again
      obtain ⟨-, rfl⟩ := Prod.mk.inj again
      exact later

/-- What has been read of a character spells no other one. -/
theorem not_spelt (stands : Stands read pending) (c : Char) (more : List UInt8) :
    read ≠ String.utf8EncodeChar c ++ more := by
  rintro rfl
  obtain ⟨d, tail, completes⟩ := stands.isOpen.exists_completes
  have spelling := (stands.spells d tail).mp completes
  have same : String.utf8EncodeChar c ++ (more ++ tail) = String.utf8EncodeChar d ++ [] := by
    rw [← List.append_assoc, spelling, List.append_nil]
  obtain ⟨-, none⟩ := List.append_eq_nil_iff.mp (spelling_inj same).2
  rw [none] at completes
  cases completes

/-- What has been read is an invalid part when no character goes on with what follows. -/
theorem invalidPart (stands : Stands read pending) (started : pending ≠ .none)
    (stuck : ∀ b more, rest = b :: more → ∀ c tail, ¬ Completes c pending (b :: tail)) :
    InvalidPart read rest where
  nonempty := mt stands.begun.mp started
  noCharacter c := by
    rintro ⟨behind, whole⟩
    obtain ⟨more, spelling, -⟩ | ⟨more, spelling, ends⟩ := List.append_eq_append_iff.mp whole
    · exact stands.not_spelt c more spelling
    · have completes := (stands.spells c more).mpr spelling.symm
      cases more with
      | nil => cases completes
      | cons b tail => exact stuck b _ ends c tail completes
  begun := by
    obtain ⟨c, tail, completes⟩ := stands.isOpen.exists_completes
    exact .inr ⟨c, tail, (stands.spells c tail).mp completes⟩
  longest b more goesOn := by
    rintro ⟨c, tail, spelling⟩
    rw [List.append_assoc, List.singleton_append] at spelling
    exact stuck b more goesOn c tail ((stands.spells c (b :: tail)).mpr spelling)

end Stands

/-- A byte that shows an invalid part goes on with no character. -/
theorem not_completes {pending : Pending} {b : UInt8} {out : List (Option Char)}
    (shows : (step pending b).1 = none :: out) (c : Char) (tail : List UInt8) :
    ¬ Completes c pending (b :: tail) := by
  intro completes
  cases completes with
  | last done =>
    rw [done] at shows
    cases shows
  | more kept later =>
    rw [kept] at shows
    cases shows

theorem invalidPart_single {b : UInt8} {rest : List UInt8}
    (stuck : ∀ c tail, ¬ Completes c .none (b :: tail)) : InvalidPart [b] rest where
  nonempty := by simp
  noCharacter c := by
    rintro ⟨behind, whole⟩
    cases spelling : String.utf8EncodeChar c with
    | nil => exact spelling_ne_nil c spelling
    | cons first tail =>
      rw [spelling] at whole
      obtain ⟨rfl, -⟩ := List.cons.inj whole
      exact stuck c tail (completes_iff.mpr spelling.symm)
  begun := .inl rfl
  longest d more goesOn := by
    rintro ⟨c, tail, spelling⟩
    exact stuck c (d :: tail) (completes_iff.mpr spelling)

/-- A byte is read on, given that the rest is, and that the byte itself is when nothing is
pending. -/
theorem Stands.readsAs_cons {read rest : List UInt8} {pending : Pending} {b : UInt8}
    (stands : Stands read pending)
    (ih : ∀ read pending, Stands read pending → ReadsAs (read ++ rest) (textFrom pending rest))
    (fresh : pending ≠ .none → ReadsAs (b :: rest) (textFrom .none (b :: rest))) :
    ReadsAs (read ++ b :: rest) (textFrom pending (b :: rest)) := by
  have apart : read ++ b :: rest = (read ++ [b]) ++ rest := by simp
  rw [textFrom_cons]
  cases stands.isOpen.reaction b with
  | last done =>
    rw [done, apart, stands.last done]
    exact .character _ (ih [] .none .nothing)
  | more kept isOpen started =>
    rw [kept, apart]
    exact ih _ _ (stands.more kept isOpen started)
  | invalid refused =>
    rw [refused, apart, stands.begun.mpr rfl]
    have stuck := not_completes (congrArg Prod.fst refused)
    exact .invalid (invalidPart_single stuck) (ih [] .none .nothing)
  | @afresh bits missing low high left =>
    have started : Pending.started bits missing low high ≠ .none := by simp
    have stuck := not_completes (congrArg Prod.fst left)
    have part : InvalidPart read (b :: rest) := by
      apply stands.invalidPart started
      rintro _ _ ⟨⟩
      exact stuck
    -- the byte that ends the part is read once more, with nothing pending
    have later := fresh started
    rw [textFrom_cons] at later
    rw [left]
    exact .invalid part later

theorem readsAs_textFrom (rest : List UInt8) {read : List UInt8} {pending : Pending}
    (stands : Stands read pending) : ReadsAs (read ++ rest) (textFrom pending rest) := by
  induction rest generalizing read pending with
  | nil =>
    cases pending with
    | none =>
      rw [stands.begun.mpr rfl]
      exact .nil
    | started bits missing low high =>
      refine .invalid (stands.invalidPart (by simp) ?_) .nil
      rintro _ _ ⟨⟩
  | cons b rest ih =>
    have fresh := Stands.nothing.readsAs_cons (b := b) (fun _ _ => ih) (absurd rfl)
    exact stands.readsAs_cons (fun _ _ => ih) fun _ => fresh

/-- There is one text that bytes are read as, and it is the decoded one. -/
theorem readsAs_iff {bytes : List UInt8} {text : List Char} :
    ReadsAs bytes text ↔ text = decodeLossy bytes := by
  have decoded : ReadsAs bytes (decodeLossy bytes) := by
    rw [decodeLossy, parts_eq]
    exact readsAs_textFrom bytes .nothing
  refine ⟨fun reads => reads.unique decoded, ?_⟩
  rintro rfl
  exact decoded

/-- A surrogate is no character, and neither two nor three of its bytes begin one. -/
example : decodeLossy [0xED, 0xA0, 0x80] = ['\uFFFD', '\uFFFD', '\uFFFD'] := by decide

theorem decodeLossy_eq_nil_iff {bytes : List UInt8} : decodeLossy bytes = [] ↔ bytes = [] := by
  refine ⟨fun none => ?_, fun none => none ▸ rfl⟩
  have reads : ReadsAs bytes (decodeLossy bytes) := readsAs_iff.mpr rfl
  rw [none] at reads
  cases reads
  rfl

/-- A text is read back from its bytes. -/
theorem decodeLossy_spelling (text : List Char) :
    decodeLossy (text.flatMap String.utf8EncodeChar) = text := by
  refine (readsAs_iff.mp ?_).symm
  induction text with
  | nil => exact .nil
  | cons c rest ih =>
    rw [List.flatMap_cons]
    exact .character c ih

/-- The bytes of a string are read as the string. -/
theorem decodeLossy_toByteArray (text : String) :
    decodeLossy text.toByteArray.data.toList = text.toList := by
  rw [← String.utf8Encode_toList, List.utf8Encode, List.toList_data_toByteArray,
    decodeLossy_spelling]

end ChatGateway.Text.Utf8
