import ChatGateway.Logging.Redaction
import ChatGateway.Proofs.Text.Cut

/-!
Redaction removes every key and nothing else. `Scanned` cuts a text from left to right into its
keys, each as long as it reaches, and the characters outside of them, and the redacted text is that
list with a mask for each key. The mask begins with a character that no key holds, so that no key
comes into being across its edges; a lead holds its first character only once, so that no key begins
inside of another lead. From the one follows that the result is clean, and from the other that
secrets do not matter.
-/
namespace ChatGateway.Logging

/-- A letter or digit of ASCII, an underscore or a hyphen. -/
def IsKeyLetter (c : Char) : Prop :=
  ('A' ≤ c ∧ c ≤ 'Z') ∨ ('a' ≤ c ∧ c ≤ 'z') ∨ ('0' ≤ c ∧ c ≤ '9') ∨ c = '_' ∨ c = '-'

/-- What stands after the lead of a key. -/
structure IsSecret (secret : List Char) : Prop where
  given : secret ≠ []
  letters : ∀ c ∈ secret, IsKeyLetter c

/-- The text begins with a key, taken as long as it reaches. -/
structure KeyAt (text secret rest : List Char) : Prop where
  whole : text = keyLead.toList ++ (secret ++ rest)
  isSecret : IsSecret secret
  longest : ∀ c, rest.head? = some c → ¬ IsKeyLetter c

inductive Piece where
  | char (c : Char)
  | key (secret : List Char)

namespace Piece

def source : Piece → List Char
  | char c => [c]
  | key secret => keyLead.toList ++ secret

def shown : Piece → List Char
  | char c => [c]
  | key _ => keyMask.toList

end Piece

/-- The pieces of a text, found from left to right without overlap. -/
inductive Scanned : List Char → List Piece → Prop
  | nil : Scanned [] []
  | char {c : Char} {rest : List Char} {pieces : List Piece}
      (noKey : ∀ secret after, ¬ KeyAt (c :: rest) secret after) (later : Scanned rest pieces) :
      Scanned (c :: rest) (.char c :: pieces)
  | key {text secret rest : List Char} {pieces : List Piece}
      (isKey : KeyAt text secret rest) (later : Scanned rest pieces) :
      Scanned text (.key secret :: pieces)

/-- The texts are the same but for the secrets of keys. -/
inductive SameButSecrets : List Char → List Char → Prop
  | nil : SameButSecrets [] []
  | char (c : Char) {text other : List Char} (later : SameButSecrets text other) :
      SameButSecrets (c :: text) (c :: other)
  | key {secret another text other : List Char} (isSecret : IsSecret secret)
      (isAnother : IsSecret another) (later : SameButSecrets text other) :
      SameButSecrets (keyLead.toList ++ (secret ++ text)) (keyLead.toList ++ (another ++ other))

/-- No place of the text is the beginning of a key. -/
def IsClean (text : List Char) : Prop :=
  ∀ front rest, text = front ++ rest → ∀ secret after, ¬ KeyAt rest secret after

theorem isKeyChar_iff {c : Char} : isKeyChar c = true ↔ IsKeyLetter c := by
  have spelt : isKeyChar c =
      (decide ('A' ≤ c ∧ c ≤ 'Z') || (decide ('a' ≤ c) && decide (c ≤ 'z')) ||
        (decide ('0' ≤ c) && decide (c ≤ '9')) || decide (c = '_') || decide (c = '-')) := by
    rfl
  rw [spelt, IsKeyLetter]
  simp only [Bool.or_eq_true, Bool.and_eq_true, decide_eq_true_eq, or_assoc]

theorem isSecret_of_all {secret : List Char} (given : secret ≠ [])
    (all : secret.all isKeyChar = true) : IsSecret secret :=
  ⟨given, fun c member => isKeyChar_iff.mp (List.all_eq_true.mp all c member)⟩

namespace IsSecret

variable {secret : List Char}

theorem exists_cons (isSecret : IsSecret secret) :
    ∃ c more, secret = c :: more ∧ IsKeyLetter c := by
  obtain ⟨given, letters⟩ := isSecret
  obtain ⟨c, more, rfl⟩ := List.exists_cons_of_ne_nil given
  exact ⟨c, more, rfl, letters c List.mem_cons_self⟩

theorem dropWhile (isSecret : IsSecret secret) (rest : List Char) :
    (secret ++ rest).dropWhile isKeyChar = rest.dropWhile isKeyChar :=
  List.dropWhile_append_of_pos fun c member => isKeyChar_iff.mpr (isSecret.letters c member)

end IsSecret

theorem lead_dropWhile (rest : List Char) :
    (keyLead.toList ++ rest).dropWhile isKeyChar = rest.dropWhile isKeyChar :=
  List.dropWhile_append_of_pos (List.all_eq_true.mp (by decide))

/-- What follows a letter to the end of the letters is the rest of a secret. -/
theorem keyAt_of_letter {c : Char} (letter : IsKeyLetter c) (rest : List Char) :
    KeyAt (keyLead.toList ++ c :: rest) (c :: rest.takeWhile isKeyChar)
      (rest.dropWhile isKeyChar) where
  whole := by rw [List.cons_append, List.takeWhile_append_dropWhile]
  isSecret :=
    { given := List.cons_ne_nil _ _
      letters := by
        intro d member
        rcases List.mem_cons.mp member with rfl | later
        · exact letter
        · exact isKeyChar_iff.mp (List.mem_takeWhile_imp later) }
  longest := by
    intro d first isLetter
    have stops := List.head?_dropWhile_not isKeyChar rest
    rw [first] at stops
    simp [isKeyChar_iff.mpr isLetter] at stops

theorem afterKey?_eq_some_iff {text rest : List Char} :
    afterKey? text = some rest ↔ ∃ secret, KeyAt text secret rest := by
  constructor
  · intro found
    unfold afterKey? at found
    split at found
    · next c more cut =>
      obtain rfl := Text.afterLead_eq_some_iff.mp cut
      split at found
      · next letter =>
        cases found
        exact ⟨_, keyAt_of_letter (isKeyChar_iff.mp letter) more⟩
      · cases found
    · cases found
  · rintro ⟨secret, rfl, isSecret, longest⟩
    have noMore : rest.dropWhile isKeyChar = rest := by
      cases rest with
      | nil => rfl
      | cons d more =>
        have stops : ¬ isKeyChar d = true := fun letter => longest d rfl (isKeyChar_iff.mp letter)
        exact List.dropWhile_cons_of_neg stops
    have dropped := isSecret.dropWhile rest
    obtain ⟨c, more, rfl, isLetter⟩ := isSecret.exists_cons
    have letter : isKeyChar c = true := isKeyChar_iff.mpr isLetter
    rw [List.cons_append, List.dropWhile_cons_of_pos letter, noMore] at dropped
    rw [afterKey?, Text.afterLead_eq_some_iff.mpr rfl]
    simp [letter, dropped]

theorem afterKey?_eq_none_iff {text : List Char} :
    afterKey? text = none ↔ ∀ secret after, ¬ KeyAt text secret after := by
  rw [Option.eq_none_iff_forall_ne_some]
  constructor
  · exact fun none secret after found => none after (afterKey?_eq_some_iff.mpr ⟨secret, found⟩)
  · intro noKey after found
    obtain ⟨secret, isKey⟩ := afterKey?_eq_some_iff.mp found
    exact noKey secret after isKey

theorem KeyAt.unique {text secret rest another after : List Char} (found : KeyAt text secret rest)
    (again : KeyAt text another after) : secret = another ∧ rest = after := by
  have sameRest : rest = after := by
    have first := afterKey?_eq_some_iff.mpr ⟨secret, found⟩
    rw [afterKey?_eq_some_iff.mpr ⟨another, again⟩] at first
    exact (Option.some.inj first).symm
  subst sameRest
  have whole := found.whole.symm.trans again.whole
  exact ⟨List.append_cancel_right (List.append_cancel_left whole), rfl⟩

theorem redactChars_key {text secret rest : List Char} (isKey : KeyAt text secret rest) :
    redactChars text = keyMask.toList ++ redactChars rest := by
  rw [redactChars]
  split
  · next after found =>
    obtain ⟨another, isAnother⟩ := afterKey?_eq_some_iff.mp found
    rw [(isKey.unique isAnother).2]
  · next none => exact absurd isKey (afterKey?_eq_none_iff.mp none _ _)

theorem redactChars_char {c : Char} {rest : List Char}
    (noKey : ∀ secret after, ¬ KeyAt (c :: rest) secret after) :
    redactChars (c :: rest) = c :: redactChars rest := by
  rw [redactChars]
  split
  · next after found =>
    obtain ⟨secret, isKey⟩ := afterKey?_eq_some_iff.mp found
    exact absurd isKey (noKey _ _)
  · rfl

/-- Every text has its pieces. -/
theorem exists_scanned (text : List Char) : ∃ pieces, Scanned text pieces := by
  induction text using redactChars.induct with
  | case1 text rest found ih =>
    obtain ⟨secret, isKey⟩ := afterKey?_eq_some_iff.mp found
    obtain ⟨pieces, later⟩ := ih
    exact ⟨_, .key isKey later⟩
  | case2 none => exact ⟨_, .nil⟩
  | case3 c rest none ih =>
    obtain ⟨pieces, later⟩ := ih
    exact ⟨_, .char (afterKey?_eq_none_iff.mp none) later⟩

theorem not_keyAt_nil (secret rest : List Char) : ¬ KeyAt [] secret rest :=
  fun isKey => List.cons_ne_nil _ _ isKey.whole.symm

namespace Scanned

variable {text : List Char} {pieces others : List Piece}

theorem unique (scanned : Scanned text pieces) (again : Scanned text others) : others = pieces := by
  induction scanned generalizing others with
  | nil =>
    cases again with
    | nil => rfl
    | key isKey => exact absurd isKey (not_keyAt_nil _ _)
  | char noKey _ ih =>
    cases again with
    | char _ later => rw [ih later]
    | key isKey => exact absurd isKey (noKey _ _)
  | key isKey _ ih =>
    cases again with
    | nil => exact absurd isKey (not_keyAt_nil _ _)
    | char noKey => exact absurd isKey (noKey _ _)
    | key isAnother later =>
      obtain ⟨rfl, rfl⟩ := isKey.unique isAnother
      rw [ih later]

theorem source_eq (scanned : Scanned text pieces) : text = pieces.flatMap Piece.source := by
  induction scanned with
  | nil => rfl
  | char _ _ ih => rw [List.flatMap_cons, ← ih, Piece.source, List.singleton_append]
  | key isKey _ ih =>
    rw [List.flatMap_cons, ← ih, Piece.source, isKey.whole, List.append_assoc]

theorem redactChars_eq (scanned : Scanned text pieces) :
    redactChars text = pieces.flatMap Piece.shown := by
  induction scanned with
  | nil => rw [redactChars]; rfl
  | char noKey _ ih => rw [redactChars_char noKey, ih]; rfl
  | key isKey _ ih => rw [redactChars_key isKey, ih]; rfl

end Scanned

/-- The mask begins with a character that no lead holds, so what stands before the first mask of the
redacted text stood there before. -/
theorem prefix_of_redacted {front text : List Char} (noMask : '[' ∉ front)
    (stands : front <+: redactChars text) : front <+: text := by
  induction text using redactChars.induct generalizing front with
  | case1 text rest found _ =>
    obtain ⟨secret, isKey⟩ := afterKey?_eq_some_iff.mp found
    rw [redactChars_key isKey] at stands
    cases front with
    | nil => exact List.nil_prefix
    | cons c more =>
      have first : c = '[' := (List.cons_prefix_cons.mp stands).1
      exact absurd (first ▸ List.mem_cons_self) noMask
  | case2 none =>
    rw [redactChars] at stands
    exact stands
  | case3 c rest none ih =>
    rw [redactChars_char (afterKey?_eq_none_iff.mp none)] at stands
    cases front with
    | nil => exact List.nil_prefix
    | cons d more =>
      obtain ⟨rfl, later⟩ := List.cons_prefix_cons.mp stands
      exact List.cons_prefix_cons.mpr
        ⟨rfl, ih (fun member => noMask (List.mem_cons_of_mem _ member)) later⟩

/-- What stands at the front of a key: the lead and one letter. -/
theorem KeyAt.front {text secret rest : List Char} (isKey : KeyAt text secret rest) :
    ∃ c, IsKeyLetter c ∧ keyLead.toList ++ [c] <+: text := by
  obtain ⟨rfl, isSecret, -⟩ := isKey
  obtain ⟨c, more, rfl, letter⟩ := isSecret.exists_cons
  exact ⟨c, letter, more ++ rest, by simp⟩

theorem keyAt_of_front {text : List Char} {c : Char} (letter : IsKeyLetter c)
    (stands : keyLead.toList ++ [c] <+: text) : ∃ secret rest, KeyAt text secret rest := by
  obtain ⟨rest, rfl⟩ := stands
  rw [List.append_assoc]
  exact ⟨_, _, keyAt_of_letter letter rest⟩

theorem isClean_cons_iff {c : Char} {rest : List Char} :
    IsClean (c :: rest) ↔ (∀ secret after, ¬ KeyAt (c :: rest) secret after) ∧ IsClean rest := by
  constructor
  · intro clean
    exact ⟨clean [] _ rfl, fun front tail split => clean (c :: front) tail (by rw [split]; rfl)⟩
  · rintro ⟨here, later⟩ front tail split
    cases front with
    | nil =>
      rw [List.nil_append] at split
      exact split ▸ here
    | cons d more => exact later more tail (List.cons.inj split).2

theorem IsClean.masked {text : List Char} (clean : IsClean text) :
    IsClean (keyMask.toList ++ text) := by
  -- No key begins inside of the mask, because a key begins with a small letter.
  have small : 's' ∉ keyMask.toList := by decide
  generalize keyMask.toList = mask at small
  induction mask with
  | nil => exact clean
  | cons c more ih =>
    rw [List.mem_cons, not_or] at small
    apply isClean_cons_iff.mpr
    refine ⟨fun secret after isKey => ?_, ih small.2⟩
    have first : c = 's' := (List.cons.inj isKey.whole).1
    exact small.1 first.symm

theorem isClean_redactChars (text : List Char) : IsClean (redactChars text) := by
  induction text using redactChars.induct with
  | case1 text rest found ih =>
    obtain ⟨secret, isKey⟩ := afterKey?_eq_some_iff.mp found
    rw [redactChars_key isKey]
    exact ih.masked
  | case2 none =>
    rw [redactChars]
    intro front rest split
    rw [(List.append_eq_nil_iff.mp split.symm).2]
    exact not_keyAt_nil
  | case3 c rest none ih =>
    have noKey := afterKey?_eq_none_iff.mp none
    have shown := redactChars_char noKey
    rw [shown]
    refine isClean_cons_iff.mpr ⟨?_, ih⟩
    intro secret after isKey
    obtain ⟨d, letter, stands⟩ := isKey.front
    have noMask : '[' ∉ keyLead.toList ++ [d] := by
      rw [List.mem_append, List.mem_singleton, not_or]
      refine ⟨by decide, ?_⟩
      rintro rfl
      exact absurd (isKeyChar_iff.mpr letter) (by decide)
    obtain ⟨_, _, wasKey⟩ := keyAt_of_front letter (prefix_of_redacted noMask (shown ▸ stands))
    exact noKey _ _ wasKey

theorem IsClean.redactChars_eq {text : List Char} (clean : IsClean text) :
    redactChars text = text := by
  induction text with
  | nil => rw [redactChars]; rfl
  | cons c rest ih =>
    obtain ⟨noKey, later⟩ := isClean_cons_iff.mp clean
    rw [redactChars_char noKey, ih later]

namespace SameButSecrets

variable {text other : List Char}

/-- What is dropped up to the end of the letters takes whole keys with it. -/
theorem dropWhile (same : SameButSecrets text other) :
    SameButSecrets (text.dropWhile isKeyChar) (other.dropWhile isKeyChar) := by
  induction same with
  | nil => exact .nil
  | char c later ih =>
    by_cases letter : isKeyChar c = true
    · rwa [List.dropWhile_cons_of_pos letter, List.dropWhile_cons_of_pos letter]
    · rw [List.dropWhile_cons_of_neg letter, List.dropWhile_cons_of_neg letter]
      exact .char c later
  | key isSecret isAnother later ih =>
    rwa [lead_dropWhile, isSecret.dropWhile, lead_dropWhile, isAnother.dropWhile]

/-- A front that begins no lead is the front of both texts. -/
theorem append {front rest : List Char} (noLead : 's' ∉ front)
    (same : SameButSecrets (front ++ rest) other) :
    ∃ more, other = front ++ more ∧ SameButSecrets rest more := by
  induction front generalizing other with
  | nil => exact ⟨other, rfl, same⟩
  | cons c front ih =>
    rw [List.cons_append] at same
    generalize whole : c :: (front ++ rest) = text at same
    cases same with
    | nil => cases whole
    | char d later =>
      cases whole
      obtain ⟨more, rfl, sameRest⟩ := ih (fun member => noLead (.tail _ member)) later
      exact ⟨more, rfl, sameRest⟩
    | key isSecret isAnother later =>
      have first : c = 's' := (List.cons.inj whole).1
      exact absurd (first ▸ List.mem_cons_self) noLead

/-- A letter stands where a letter stood. -/
theorem letter {c : Char} {rest : List Char} (isLetter : IsKeyLetter c)
    (same : SameButSecrets (c :: rest) other) :
    ∃ d more, other = d :: more ∧ IsKeyLetter d := by
  generalize whole : c :: rest = text at same
  cases same with
  | nil => cases whole
  | char d later =>
    cases whole
    exact ⟨_, _, rfl, isLetter⟩
  | key => exact ⟨'s', _, rfl, isKeyChar_iff.mp (by decide)⟩

/-- Keys begin at the same places. -/
theorem front {c : Char} {rest : List Char} (isLetter : IsKeyLetter c)
    (same : SameButSecrets (keyLead.toList ++ c :: rest) other) :
    ∃ d more, other = keyLead.toList ++ d :: more ∧ IsKeyLetter d := by
  have lead : keyLead.toList = 's' :: "k-ant-".toList := by decide
  generalize whole : keyLead.toList ++ c :: rest = text at same
  cases same with
  | nil => cases whole
  | char d later =>
    rw [lead, List.cons_append] at whole
    obtain ⟨rfl, rfl⟩ := List.cons.inj whole
    obtain ⟨_, rfl, fromLetter⟩ := append (by decide) later
    obtain ⟨d, more, rfl, stillLetter⟩ := letter isLetter fromLetter
    exact ⟨d, more, by rw [lead]; rfl, stillLetter⟩
  | key isSecret isAnother later =>
    obtain ⟨d, more, rfl, stillLetter⟩ := isAnother.exists_cons
    exact ⟨d, _, rfl, stillLetter⟩

/-- What follows a key and what follows the key in its place are again the same but for secrets. -/
theorem keyAt {secret rest : List Char} (same : SameButSecrets text other)
    (isKey : KeyAt text secret rest) :
    ∃ another more, KeyAt other another more ∧ SameButSecrets rest more := by
  obtain ⟨c, letter, begins⟩ := isKey.front
  obtain ⟨tail, rfl⟩ := begins
  rw [List.append_assoc, List.singleton_append] at same isKey
  obtain ⟨d, more, rfl, stillLetter⟩ := same.front letter
  have later := same.dropWhile
  rw [lead_dropWhile, lead_dropWhile, List.dropWhile_cons_of_pos (isKeyChar_iff.mpr letter),
    List.dropWhile_cons_of_pos (isKeyChar_iff.mpr stillLetter)] at later
  rw [(isKey.unique (keyAt_of_letter letter tail)).2]
  exact ⟨_, _, keyAt_of_letter stillLetter more, later⟩

theorem symm (same : SameButSecrets text other) : SameButSecrets other text := by
  induction same with
  | nil => exact .nil
  | char c _ ih => exact .char c ih
  | key isSecret isAnother _ ih => exact .key isAnother isSecret ih

/-- Nothing of a secret is seen in the redacted text. -/
theorem redactChars_eq (same : SameButSecrets text other) :
    redactChars other = redactChars text := by
  induction text using redactChars.induct generalizing other with
  | case1 text rest found ih =>
    obtain ⟨secret, isKey⟩ := afterKey?_eq_some_iff.mp found
    obtain ⟨another, more, isAnother, later⟩ := same.keyAt isKey
    rw [redactChars_key isKey, redactChars_key isAnother, ih later]
  | case2 none =>
    generalize nothing : [] = text at same
    cases same with
    | nil => rfl
    | char => cases nothing
    | key => cases nothing
  | case3 c rest none ih =>
    have noKey := afterKey?_eq_none_iff.mp none
    have otherNoKey : ∀ secret after, ¬ KeyAt other secret after := by
      intro secret after isKey
      obtain ⟨_, _, wasKey, _⟩ := same.symm.keyAt isKey
      exact noKey _ _ wasKey
    generalize whole : c :: rest = text at same
    cases same with
    | nil => cases whole
    | char d later =>
      cases whole
      rw [redactChars_char noKey, redactChars_char otherNoKey, ih later]
    | key isSecret isAnother later =>
      obtain ⟨d, more, rfl, letter⟩ := isSecret.exists_cons
      exact absurd (whole ▸ keyAt_of_letter letter _) (noKey _ _)

end SameButSecrets

/-- In the redacted text no lead is followed by a letter of a key. The text has pieces in one way
only, and redaction shows each of them: a key as the mask and every other character as it is.
Redacting again changes nothing, and texts that are the same but for the secrets of keys are the
same once redacted, whatever the secrets are and however long. -/
theorem redaction_masks_keys_only (text : String) :
    (∀ front c rest, IsKeyLetter c →
      (redact text).toList ≠ front ++ (keyLead.toList ++ c :: rest)) ∧
    (∃ pieces, Scanned text.toList pieces ∧
      (∀ others, Scanned text.toList others → others = pieces) ∧
      text.toList = pieces.flatMap Piece.source ∧
      (redact text).toList = pieces.flatMap Piece.shown) ∧
    redact (redact text) = redact text ∧
    ∀ other : String, SameButSecrets text.toList other.toList → redact other = redact text := by
  have clean := isClean_redactChars text.toList
  refine ⟨?_, ?_, ?_, ?_⟩
  · intro front c rest letter whole
    rw [redact, String.toList_ofList] at whole
    exact clean front _ whole _ _ (keyAt_of_letter letter rest)
  · obtain ⟨pieces, scanned⟩ := exists_scanned text.toList
    refine ⟨pieces, scanned, fun others again => scanned.unique again, scanned.source_eq, ?_⟩
    rw [redact, String.toList_ofList, scanned.redactChars_eq]
  · rw [redact, redact, String.toList_ofList, clean.redactChars_eq]
  · intro other same
    rw [redact, redact, same.redactChars_eq]

/-- Part of a lead comes first, and the secret has the look of a key itself. -/
def nested : String := "sk-sk-ant-sk-ant-x!"

theorem nested_secret : IsSecret "sk-ant-x".toList := isSecret_of_all (by decide) (by decide)

theorem nested_scanned :
    Scanned nested.toList
      [.char 's', .char 'k', .char '-', .key "sk-ant-x".toList, .char '!'] := by
  have noKey {text : List Char} (none : afterKey? text = none) := afterKey?_eq_none_iff.mp none
  have isKey : KeyAt "sk-ant-sk-ant-x!".toList "sk-ant-x".toList ['!'] := by
    refine ⟨by decide, nested_secret, ?_⟩
    intro c first letter
    cases first
    exact absurd (isKeyChar_iff.mpr letter) (by decide)
  exact .char (noKey (by decide)) (.char (noKey (by decide)) (.char (noKey (by decide))
    (.key isKey (.char (noKey (by decide)) .nil))))

theorem nested_masked :
    (redact nested).toList ≠ [] ++ (keyLead.toList ++ 'x' :: ['!']) ∧
      redact nested = "sk-[REDACTED_API_KEY]!" ∧ redact "sk-sk-ant-0!" = redact nested := by
  obtain ⟨clean, ⟨pieces, _, unique, _, shown⟩, _, same⟩ := redaction_masks_keys_only nested
  have x : IsKeyLetter 'x' := isKeyChar_iff.mp (by decide)
  have zero : IsSecret ['0'] := isSecret_of_all (by decide) (by decide)
  rw [← unique _ nested_scanned] at shown
  refine ⟨clean [] 'x' ['!'] x, String.toList_inj.mp shown, same _ ?_⟩
  exact .char 's' (.char 'k' (.char '-' (.key nested_secret zero (.char '!' .nil))))

end ChatGateway.Logging
