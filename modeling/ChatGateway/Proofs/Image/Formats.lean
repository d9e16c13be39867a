import ChatGateway.Image.Inline
import ChatGateway.Proofs.Text.Cut

/-!
What the format of an image is. `Declares` and `Signed` say when a declared type names a format and
when bytes carry its signature; the two look-ups give a format exactly then, and the declared one
comes first. `Canonical` is the way back, from a format to the one type it is passed on as.
-/
namespace ChatGateway.Image

open Text (Trimmed isBlank)

/-- The types that name a format. -/
inductive Names : String → Format → Prop where
  | jpeg : Names "image/jpeg" .jpeg
  | jpg : Names "image/jpg" .jpeg
  | png : Names "image/png" .png
  | webP : Names "image/webp" .webP
  | gif : Names "image/gif" .gif

/-- The type that an image of the format is passed on as, whichever of its names was declared. -/
inductive Canonical : Format → String → Prop where
  | jpeg : Canonical .jpeg "image/jpeg"
  | png : Canonical .png "image/png"
  | webP : Canonical .webP "image/webp"
  | gif : Canonical .gif "image/gif"

theorem Canonical.unique {format : Format} {type other : String} (canonical : Canonical format type)
    (too : Canonical format other) : type = other := by
  cases canonical <;> cases too <;> rfl

/-- The declared type names the format: in any letter case, with white space around it, and perhaps
with parameters after a semicolon. -/
inductive Declares : List Char → Format → Prop where
  | mk {name : String} {format : Format} {left core right parameters : List Char}
      (names : Names name format) (letters : core.map Char.toLower = name.toList)
      (leftBlank : ∀ c ∈ left, isBlank c = true) (rightBlank : ∀ c ∈ right, isBlank c = true)
      (ends : ∀ c, parameters.head? = some c → c = ';') :
      Declares (left ++ (core ++ right) ++ parameters) format

/-- The bytes begin with the signature of the format. -/
inductive Signed : List UInt8 → Format → Prop where
  | jpeg (rest : List UInt8) : Signed ([0xFF, 0xD8, 0xFF] ++ rest) .jpeg
  | png (rest : List UInt8) :
      Signed ([0x89, 0x50, 0x4E, 0x47, 0x0D, 0x0A, 0x1A, 0x0A] ++ rest) .png
  | gif87 (rest : List UInt8) : Signed ([0x47, 0x49, 0x46, 0x38, 0x37, 0x61] ++ rest) .gif
  | gif89 (rest : List UInt8) : Signed ([0x47, 0x49, 0x46, 0x38, 0x39, 0x61] ++ rest) .gif
  | webP (a b c d : UInt8) (rest : List UInt8) :
      Signed ([0x52, 0x49, 0x46, 0x46, a, b, c, d, 0x57, 0x45, 0x42, 0x50] ++ rest) .webP

namespace Format

variable {format : Format}

theorem canonical_mediaType (format : Format) : Canonical format format.mediaType := by
  cases format with
  | jpeg => exact .jpeg
  | png => exact .png
  | webP => exact .webP
  | gif => exact .gif

theorem lookup_iff {name : String} : mediaTypes.lookup name = some format ↔ Names name format := by
  constructor
  · intro found
    have listed : (name, format) ∈ mediaTypes := by
      obtain ⟨front, back, split, _⟩ := List.lookup_eq_some_iff.mp found
      rw [split]
      exact List.mem_append_right front List.mem_cons_self
    simp only [mediaTypes, List.mem_cons, Prod.mk.injEq, List.not_mem_nil, or_false] at listed
    rcases listed with ⟨rfl, rfl⟩ | ⟨rfl, rfl⟩ | ⟨rfl, rfl⟩ | ⟨rfl, rfl⟩ | ⟨rfl, rfl⟩
    · exact .jpeg
    · exact .jpg
    · exact .png
    · exact .webP
    · exact .gif
  · intro names
    cases names <;> decide

theorem detect?_iff {bytes : List UInt8} : detect? bytes = some format ↔ Signed bytes format := by
  constructor
  · intro found
    simp only [detect?, Bool.or_eq_true, Bool.and_eq_true, List.isPrefixOf_iff_prefix] at found
    split at found
    · next signed =>
      obtain ⟨rest, rfl⟩ := signed
      cases found
      exact .jpeg rest
    split at found
    · next signed =>
      obtain ⟨rest, rfl⟩ := signed
      cases found
      exact .png rest
    split at found
    · next signed =>
      cases found
      rcases signed with ⟨rest, rfl⟩ | ⟨rest, rfl⟩
      · exact .gif87 rest
      · exact .gif89 rest
    split at found
    · next signed =>
      cases found
      obtain ⟨⟨more, rfl⟩, rest, inner⟩ := signed
      -- The length of the container stands between the two parts.
      rcases more with _ | ⟨a, _ | ⟨b, _ | ⟨c, _ | ⟨d, more⟩⟩⟩⟩
      iterate 4 cases inner
      have tail : more = [0x57, 0x45, 0x42, 0x50] ++ rest := inner.symm
      rw [tail]
      exact .webP a b c d rest
    cases found
  · intro signed
    cases signed <;> simp [detect?]

theorem lowerChar_eq_iff {c d : Char} (noK : d ≠ 'k') (noKelvin : d ≠ '\u212A') :
    Text.lowerChar c = d ↔ c.toLower = d := by
  by_cases kelvin : c = '\u212A'
  · have stays : Char.toLower '\u212A' = '\u212A' := by decide
    rw [Text.lowerChar, if_pos kelvin, kelvin, stays]
    exact ⟨fun same => absurd same.symm noK, fun same => absurd same.symm noKelvin⟩
  · rw [Text.lowerChar, if_neg kelvin]

/-- No name of a format holds a letter that has capitals outside of ASCII. -/
theorem lower_eq_iff {name : String} (names : Names name format) (core : List Char) :
    Text.lower (String.ofList core) = name ↔ core.map Char.toLower = name.toList := by
  have noK : 'k' ∉ name.toList := by
    cases names <;> decide
  have noKelvin : '\u212A' ∉ name.toList := by
    cases names <;> decide
  rw [Text.lower, ← String.toList_inj, String.toList_ofList, String.toList_ofList]
  generalize name.toList = letters at noK noKelvin
  induction core generalizing letters with
  | nil => rfl
  | cons c core ih =>
    cases letters with
    | nil => simp
    | cons d letters =>
      rw [List.mem_cons, not_or] at noK noKelvin
      rw [List.map_cons, List.map_cons, List.cons_eq_cons, List.cons_eq_cons]
      exact and_congr (lowerChar_eq_iff (Ne.symm noK.1) (Ne.symm noKelvin.1))
        (ih letters noK.2 noKelvin.2)

/-- A letter of a name is neither white space nor the end of it. -/
theorem letter_plain {name : String} (names : Names name format) {c : Char}
    (member : c.toLower ∈ name.toList) : isBlank c = false ∧ c ≠ ';' := by
  have small : name.toList.all (fun d => !isBlank d && d ≠ ';') = true := by
    cases names <;> decide
  unfold Char.toLower at member
  split at member
  · next capital =>
    have whole : c.toNat = c.val.toNat := rfl
    have least : 'A'.val.toNat = 65 := rfl
    have last : 'Z'.val.toNat = 90 := rfl
    simp only [ge_iff_le, UInt32.le_iff_toNat_le] at capital
    refine ⟨?_, ?_⟩
    · simp only [isBlank, Text.inRanges, Text.blankRanges, List.any_cons, List.any_nil,
        Bool.or_false, Bool.or_eq_false_iff, Bool.and_eq_false_imp, decide_eq_true_eq,
        decide_eq_false_iff_not]
      omega
    · rintro rfl
      exact absurd capital (by decide)
  · have own := List.all_eq_true.mp small c member
    simpa using own

theorem ofMediaType?_iff {declared : String} :
    ofMediaType? declared = some format ↔ Declares declared.toList format := by
  rw [ofMediaType?, lookup_iff]
  constructor
  · intro names
    have letters := (lower_eq_iff names _).mp rfl
    obtain ⟨⟨left, right, whole, leftBlank, rightBlank⟩, _, _⟩ :=
      Text.trimmed_trim (Text.before ';' declared.toList)
    have split := List.takeWhile_append_dropWhile (p := (· ≠ ';')) (l := declared.toList)
    rw [Text.before] at whole
    rw [whole] at split
    rw [← split]
    refine .mk names letters leftBlank rightBlank fun c first => ?_
    have stops := List.head?_dropWhile_not (· ≠ ';') declared.toList
    rw [first] at stops
    simpa using stops
  · generalize declared.toList = text
    rintro ⟨names, letters, leftBlank, rightBlank, ends⟩
    next name left core right parameters =>
    have plain : ∀ c ∈ core, isBlank c = false ∧ c ≠ ';' := by
      intro c member
      exact letter_plain names (letters ▸ List.mem_map_of_mem member)
    have blankPlain : ∀ c, isBlank c = true → c ≠ ';' := by
      rintro _ blank rfl
      cases blank
    have trimmed : Trimmed (left ++ (core ++ right)) core :=
      ⟨⟨left, right, rfl, leftBlank, rightBlank⟩,
        fun c first => (plain c (List.mem_of_head? first)).1,
        fun c last => (plain c (List.mem_of_getLast? last)).1⟩
    have front : Text.before ';' (left ++ (core ++ right) ++ parameters) =
        left ++ (core ++ right) := by
      have noMark : ∀ c ∈ left ++ (core ++ right), decide (c ≠ ';') = true := by
        intro c member
        rw [List.mem_append, List.mem_append] at member
        refine decide_eq_true ?_
        rcases member with blank | inner | blank
        · exact blankPlain c (leftBlank c blank)
        · exact (plain c inner).2
        · exact blankPlain c (rightBlank c blank)
      rw [Text.before, List.takeWhile_append_of_pos noMark]
      cases parameters with
      | nil => simp
      | cons c more => simp [ends c rfl]
    rw [front, trimmed.trim_eq, (lower_eq_iff names core).mpr letters]
    exact names

end Format

/-- The format of an image: the one that is declared, or else the one that its bytes carry. -/
inductive HasFormat (declared : Option String) (bytes : List UInt8) : Format → Prop where
  | declared {type : String} {format : Format} (given : declared = some type)
      (declares : Declares type.toList format) : HasFormat declared bytes format
  | shown {format : Format}
      (silent : ∀ type, declared = some type → ∀ other, ¬ Declares type.toList other)
      (signed : Signed bytes format) : HasFormat declared bytes format

theorem HasFormat.unique {declared : Option String} {bytes : List UInt8} {format other : Format}
    (has : HasFormat declared bytes format) (too : HasFormat declared bytes other) :
    format = other := by
  cases has with
  | declared given declares =>
    cases too with
    | declared given' declares' =>
      cases given.symm.trans given'
      rw [← Format.ofMediaType?_iff] at declares declares'
      exact Option.some.inj (declares.symm.trans declares')
    | shown silent => exact absurd declares (silent _ given _)
  | shown silent signed =>
    cases too with
    | declared given declares => exact absurd declares (silent _ given _)
    | shown _ signed' =>
      rw [← Format.detect?_iff] at signed signed'
      exact Option.some.inj (signed.symm.trans signed')

/-- The format is found if there is one, and else what was declared is told. -/
theorem formatOf_found (declared : Option String) (bytes : List UInt8) :
    (∃ format, formatOf declared bytes = .ok format ∧ HasFormat declared bytes format) ∨
      formatOf declared bytes = .error (.unsupportedFormat (declared.getD "unknown")) ∧
        ∀ format, ¬ HasFormat declared bytes format := by
  unfold formatOf
  cases chosen : declared.bind Format.ofMediaType? with
  | some format =>
    obtain ⟨type, given, declares⟩ := Option.bind_eq_some_iff.mp chosen
    exact .inl ⟨format, rfl, .declared given (Format.ofMediaType?_iff.mp declares)⟩
  | none =>
    have silent : ∀ type, declared = some type → ∀ other, ¬ Declares type.toList other := by
      intro type given other declares
      rw [given, Option.bind_some, Format.ofMediaType?_iff.mpr declares] at chosen
      cases chosen
    cases shown : Format.detect? bytes with
    | some format => exact .inl ⟨format, rfl, .shown silent (Format.detect?_iff.mp shown)⟩
    | none =>
      refine .inr ⟨rfl, fun format has => ?_⟩
      cases has with
      | declared given declares => exact silent _ given _ declares
      | shown _ signed =>
        rw [← Format.detect?_iff, shown] at signed
        cases signed

end ChatGateway.Image
