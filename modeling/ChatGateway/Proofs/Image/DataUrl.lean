import ChatGateway.Image.Fetch
import ChatGateway.Proofs.Image.Formats
import ChatGateway.Proofs.Text.Base64

/-!
Which data URLs are read, and what becomes of the others. `Shaped` is the form of a data URL and
`Spells` that of its payload; once the bytes are there, `Resolves` says what an image of these bytes
and this declared type amounts to, wherever it comes from. `Reading` puts the three in the order in
which they are asked about, so that of several faults the first is the one that is told.
-/
namespace ChatGateway.Image

open Text (Trimmed isBlank)
open Text.Base64 (Spells)

/-- What an image amounts to: its size is looked at before its format. -/
inductive Resolves (limit : Nat) (declared : Option String) (bytes : List UInt8) :
    Except Error Inline → Prop where
  | tooLarge (beyond : limit < bytes.length) :
      Resolves limit declared bytes (.error (.tooLarge bytes.length limit))
  | unsupported (fits : bytes.length ≤ limit)
      (noFormat : ∀ format, ¬ HasFormat declared bytes format) :
      Resolves limit declared bytes (.error (.unsupportedFormat (declared.getD "unknown")))
  | image {format : Format} {mediaType data : String} (fits : bytes.length ≤ limit)
      (hasFormat : HasFormat declared bytes format) (canonical : Canonical format mediaType)
      (spells : Spells data.toList bytes) :
      Resolves limit declared bytes (.ok ⟨mediaType, data⟩)

/-- What follows `data:` is a type, the word for base64, the first comma and the payload, perhaps
with white space around it. -/
structure Shaped (rest declared payload : List Char) : Prop where
  whole : ∃ content, rest = declared ++ (";base64".toList ++ ',' :: content) ∧
    Trimmed content payload
  noComma : ',' ∉ declared

/-- An empty type declares nothing. -/
def given (declared : List Char) : Option String :=
  if declared.isEmpty then none else some (String.ofList declared)

/-- What becomes of the data URL with this text after `data:`. -/
inductive Reading (limit : Nat) (rest : List Char) : Except Error Inline → Prop where
  | malformed (shapeless : ∀ declared payload, ¬ Shaped rest declared payload) :
      Reading limit rest (.error .malformedDataUrl)
  | undecodable {declared payload : List Char} (shaped : Shaped rest declared payload)
      (senseless : ∀ bytes, ¬ Spells payload bytes) : Reading limit rest (.error .base64)
  | decoded {declared payload : List Char} {bytes : List UInt8} {outcome : Except Error Inline}
      (shaped : Shaped rest declared payload) (spells : Spells payload bytes)
      (resolves : Resolves limit (given declared) bytes outcome) : Reading limit rest outcome

section Resolution

variable {limit : Nat} {declared : Option String} {bytes : List UInt8}
  {outcome other : Except Error Inline}

theorem Resolves.unique (resolves : Resolves limit declared bytes outcome)
    (too : Resolves limit declared bytes other) : outcome = other := by
  cases resolves with
  | tooLarge beyond =>
    cases too with
    | tooLarge => rfl
    | unsupported fits | image fits => exact absurd beyond (Nat.not_lt.mpr fits)
  | unsupported fits noFormat =>
    cases too with
    | tooLarge beyond => exact absurd beyond (Nat.not_lt.mpr fits)
    | unsupported => rfl
    | image _ hasFormat => exact absurd hasFormat (noFormat _)
  | image fits hasFormat canonical spells =>
    cases too with
    | tooLarge beyond => exact absurd beyond (Nat.not_lt.mpr fits)
    | unsupported _ noFormat => exact absurd hasFormat (noFormat _)
    | image _ hasFormat' canonical' spells' =>
      cases hasFormat.unique hasFormat'
      rw [canonical.unique canonical', String.toList_inj.mp (spells'.unique spells)]

/-- What is asked about bytes, in this order, with the payload that stands for them. -/
theorem resolves_checked (limit : Nat) (declared : Option String) (bytes : List UInt8) :
    Resolves limit declared bytes (do
      checkSize bytes.length limit
      let format ← formatOf declared bytes
      pure ⟨format.mediaType, String.ofList (Text.Base64.encode bytes)⟩) := by
  by_cases beyond : limit < bytes.length
  · rw [checkSize, if_pos beyond]
    exact .tooLarge beyond
  · rw [checkSize, if_neg beyond]
    rcases formatOf_found declared bytes with ⟨format, found, hasFormat⟩ | ⟨refused, noFormat⟩
    · rw [found]
      refine .image (Nat.not_lt.mp beyond) hasFormat format.canonical_mediaType ?_
      rw [String.toList_ofList]
      exact Text.Base64.spells_encode bytes
    · rw [refused]
      exact .unsupported (Nat.not_lt.mp beyond) noFormat

end Resolution

section Shape

variable {rest declared payload : List Char}

theorem shaped_iff : Shaped rest declared payload ↔
    ∃ header content, Text.splitFirst ',' rest = some (header, content) ∧
      Text.beforeTail ";base64" header = some declared ∧ Text.trim content = payload := by
  constructor
  · rintro ⟨⟨content, rfl, trimmed⟩, noComma⟩
    have noComma' : ',' ∉ declared ++ ";base64".toList := by
      rw [List.mem_append, not_or]
      exact ⟨noComma, by decide⟩
    refine ⟨declared ++ ";base64".toList, content, ?_, ?_, trimmed.trim_eq⟩
    · rw [← List.append_assoc, Text.splitFirst_append noComma']
    · rw [Text.beforeTail_eq_some_iff]
  · rintro ⟨header, content, split, ends, rfl⟩
    obtain ⟨rfl, noComma⟩ := Text.splitFirst_eq_some split
    obtain rfl := Text.beforeTail_eq_some_iff.mp ends
    refine ⟨⟨content, ?_, Text.trimmed_trim content⟩, ?_⟩
    · rw [List.append_assoc]
    · exact fun comma => noComma (List.mem_append_left _ comma)

theorem Shaped.unique {declared' payload' : List Char} (shaped : Shaped rest declared payload)
    (too : Shaped rest declared' payload') : declared' = declared ∧ payload' = payload := by
  obtain ⟨header, content, split, ends, rfl⟩ := shaped_iff.mp shaped
  obtain ⟨header', content', split', ends', rfl⟩ := shaped_iff.mp too
  cases split.symm.trans split'
  exact ⟨Option.some.inj (ends'.symm.trans ends), rfl⟩

end Shape

theorem not_declares_nil (format : Format) : ¬ Declares [] format := by
  generalize nothing : [] = text
  rintro ⟨names, letters, _, _, _⟩
  next name left core right parameters =>
  simp only [List.nil_eq, List.append_eq_nil_iff] at nothing
  rw [nothing.1.2.1] at letters
  cases names <;> cases letters

/-- The format of a data URL: the type before the payload goes before the signature in it. -/
theorem hasFormat_given {declared : List Char} {bytes : List UInt8} {format : Format} :
    HasFormat (given declared) bytes format ↔
      Declares declared format ∨ (∀ other, ¬ Declares declared other) ∧ Signed bytes format := by
  have stated {type : String} (isGiven : given declared = some type) :
      type.toList = declared := by
    unfold given at isGiven
    split at isGiven
    · cases isGiven
    · rw [← Option.some.inj isGiven, String.toList_ofList]
  have states {other : Format} (declares : Declares declared other) :
      given declared = some (String.ofList declared) := by
    rw [given, if_neg]
    intro empty
    rw [List.isEmpty_iff.mp empty] at declares
    exact not_declares_nil other declares
  constructor
  · rintro (⟨isGiven, declares⟩ | ⟨silent, signed⟩)
    · exact .inl (stated isGiven ▸ declares)
    · refine .inr ⟨fun other declares => ?_, signed⟩
      exact silent _ (states declares) other ((String.toList_ofList).symm ▸ declares)
  · rintro (declares | ⟨silent, signed⟩)
    · exact .declared (states declares) ((String.toList_ofList).symm ▸ declares)
    · refine .shown (fun type isGiven other => ?_) signed
      rw [stated isGiven]
      exact silent other

/-- The reader asks about the form, the payload, the size and the format, in this order. -/
theorem reading_ofDataUrl (limit : Nat) (rest : List Char) :
    Reading limit rest (Inline.ofDataUrl limit rest) := by
  unfold Inline.ofDataUrl
  cases split : Text.splitFirst ',' rest with
  | none =>
    refine .malformed fun declared payload shaped => ?_
    obtain ⟨header, content, found, _⟩ := shaped_iff.mp shaped
    cases split.symm.trans found
  | some parts =>
    obtain ⟨header, content⟩ := parts
    cases ends : Text.beforeTail ";base64" header with
    | none =>
      simp only [ends]
      refine .malformed fun declared payload shaped => ?_
      obtain ⟨header', content', found, found', _⟩ := shaped_iff.mp shaped
      cases split.symm.trans found
      cases ends.symm.trans found'
    | some declared =>
      have shaped : Shaped rest declared (Text.trim content) :=
        shaped_iff.mpr ⟨header, content, split, ends, rfl⟩
      cases read : Text.Base64.decode? (Text.trim content) with
      | none =>
        simp only [ends, read]
        refine .undecodable shaped fun bytes spells => ?_
        cases read.symm.trans (Text.Base64.decode?_iff.mpr spells)
      | some bytes =>
        have spells := Text.Base64.decode?_iff.mp read
        have resolves := resolves_checked limit (given declared) bytes
        rw [← Text.Base64.spells_iff_eq_encode.mp spells] at resolves
        simp only [ends, read]
        exact .decoded shaped spells resolves

theorem Reading.unique {limit : Nat} {rest : List Char} {outcome other : Except Error Inline}
    (reading : Reading limit rest outcome) (too : Reading limit rest other) : outcome = other := by
  cases reading with
  | malformed shapeless =>
    cases too with
    | malformed => rfl
    | undecodable shaped | decoded shaped => exact absurd shaped (shapeless _ _)
  | undecodable shaped senseless =>
    cases too with
    | malformed shapeless => exact absurd shaped (shapeless _ _)
    | undecodable => rfl
    | decoded shaped' spells =>
      obtain ⟨rfl, rfl⟩ := shaped.unique shaped'
      exact absurd spells (senseless _)
  | decoded shaped spells resolves =>
    cases too with
    | malformed shapeless => exact absurd shaped (shapeless _ _)
    | undecodable shaped' senseless =>
      obtain ⟨rfl, rfl⟩ := shaped.unique shaped'
      exact absurd spells (senseless _)
    | decoded shaped' spells' resolves' =>
      obtain ⟨rfl, rfl⟩ := shaped.unique shaped'
      rw [← Text.Base64.decode?_iff] at spells spells'
      cases spells.symm.trans spells'
      exact resolves.unique resolves'

theorem fetch_data (network : Http.Network) (limit : Nat) (rest : String) :
    fetch network limit ("data:" ++ rest) = Inline.ofDataUrl limit rest.toList := by
  have lead : Text.afterLead "data:" ("data:" ++ rest).toList = some rest.toList := by
    rw [Text.afterLead_eq_some_iff, String.toList_append]
  rw [fetch, lead]

theorem fetch_data_iff {network : Http.Network} {limit : Nat} {rest : String}
    {outcome : Except Error Inline} :
    fetch network limit ("data:" ++ rest) = outcome ↔ Reading limit rest.toList outcome := by
  have reading := reading_ofDataUrl limit rest.toList
  rw [fetch_data]
  exact ⟨fun same => same ▸ reading, fun other => reading.unique other⟩

/-- White space around what follows the first comma is not part of the payload. -/
theorem ofDataUrl_surrounded (limit : Nat) {header left right : List Char} (content : List Char)
    (noComma : ',' ∉ header) (leftBlank : ∀ c ∈ left, isBlank c = true)
    (rightBlank : ∀ c ∈ right, isBlank c = true) :
    Inline.ofDataUrl limit (header ++ ',' :: (left ++ (content ++ right))) =
      Inline.ofDataUrl limit (header ++ ',' :: content) := by
  simp only [Inline.ofDataUrl, Text.splitFirst_append noComma,
    Text.trim_surrounded leftBlank rightBlank]

/-- What becomes of a data URL is told by `Reading`, which leaves one outcome for each. It is read
exactly when it has the form of a data URL, its payload is base64 for no more bytes than allowed,
and the declared type or else the bytes show a format. The image then holds the payload as it was
written, which is the one base64 text for the bytes. White space around the payload does not
matter. -/
theorem data_url_read_iff_well_formed (network : Http.Network) (limit : Nat) (rest : String) :
    (∀ outcome, fetch network limit ("data:" ++ rest) = outcome ↔
      Reading limit rest.toList outcome) ∧
    ((∃ image, fetch network limit ("data:" ++ rest) = .ok image) ↔
      ∃ declared payload bytes, Shaped rest.toList declared payload ∧ Spells payload bytes ∧
        bytes.length ≤ limit ∧
        ((∃ format, Declares declared format) ∨ ∃ format, Signed bytes format)) ∧
    (∀ image, fetch network limit ("data:" ++ rest) = .ok image →
      ∃ declared payload bytes format, Shaped rest.toList declared payload ∧
        Spells payload bytes ∧ Text.Base64.decode? payload = some bytes ∧
        payload = Text.Base64.encode bytes ∧
        (Declares declared format ∨ (∀ other, ¬ Declares declared other) ∧ Signed bytes format) ∧
        ∃ mediaType, Canonical format mediaType ∧ image = ⟨mediaType, String.ofList payload⟩) ∧
    ∀ header content left right : String, ',' ∉ header.toList →
      (∀ c ∈ left.toList, isBlank c = true) → (∀ c ∈ right.toList, isBlank c = true) →
      fetch network limit ("data:" ++ (header ++ "," ++ (left ++ (content ++ right)))) =
        fetch network limit ("data:" ++ (header ++ "," ++ content)) := by
  refine ⟨fun outcome => fetch_data_iff, ⟨?_, ?_⟩, ?_, ?_⟩
  · rintro ⟨image, read⟩
    cases fetch_data_iff.mp read with
    | decoded shaped spells resolves =>
      cases resolves with
      | image fits hasFormat _ _ =>
        refine ⟨_, _, _, shaped, spells, fits, ?_⟩
        rcases hasFormat_given.mp hasFormat with declares | ⟨_, signed⟩
        · exact .inl ⟨_, declares⟩
        · exact .inr ⟨_, signed⟩
  · rintro ⟨declared, payload, bytes, shaped, spells, fits, known⟩
    have found : ∃ format, HasFormat (given declared) bytes format := by
      by_cases stated : ∃ format, Declares declared format
      · obtain ⟨format, declares⟩ := stated
        exact ⟨format, hasFormat_given.mpr (.inl declares)⟩
      · obtain ⟨format, signed⟩ := known.resolve_left stated
        exact ⟨format, hasFormat_given.mpr (.inr ⟨not_exists.mp stated, signed⟩)⟩
    obtain ⟨format, hasFormat⟩ := found
    have whole := (String.toList_ofList (l := payload)).symm ▸ spells
    exact ⟨⟨format.mediaType, String.ofList payload⟩, fetch_data_iff.mpr
      (.decoded shaped spells (.image fits hasFormat format.canonical_mediaType whole))⟩
  · intro image read
    cases fetch_data_iff.mp read with
    | decoded shaped spells resolves =>
      cases resolves with
      | image fits hasFormat canonical held =>
        have written := Text.Base64.spells_iff_eq_encode.mp spells
        refine ⟨_, _, _, _, shaped, spells, Text.Base64.decode?_iff.mpr spells, written,
          hasFormat_given.mp hasFormat, _, canonical, ?_⟩
        rw [← spells.unique held, String.ofList_toList]
  · intro header content left right noComma leftBlank rightBlank
    have same := ofDataUrl_surrounded limit content.toList noComma leftBlank rightBlank
    rw [fetch_data, fetch_data]
    simpa using same

/-- A type in mixed letters with a parameter, and a payload in white space. -/
def loose : String := "IMAGE/Jpg ;q=1;base64" ++ "," ++ (" " ++ ("/w==" ++ "\n"))

theorem loose_read :
    (∃ bytes, Text.Base64.encode bytes = "/w==".toList ∧
      fetch .down 1 ("data:" ++ loose) = .ok ⟨"image/jpeg", "/w=="⟩) ∧
      fetch .down 1 ("data:" ++ ("IMAGE/Jpg ;q=1;base64" ++ "," ++ "/w==")) =
        .ok ⟨"image/jpeg", "/w=="⟩ := by
  obtain ⟨_, _, held, surrounded⟩ := data_url_read_iff_well_formed .down 1 loose
  have read : fetch .down 1 ("data:" ++ loose) = .ok ⟨"image/jpeg", "/w=="⟩ := by decide +kernel
  have same := surrounded "IMAGE/Jpg ;q=1;base64" "/w==" " " "\n" (by decide)
    (List.all_eq_true.mp (by decide)) (List.all_eq_true.mp (by decide))
  refine ⟨?_, same.symm.trans read⟩
  obtain ⟨_, payload, bytes, _, _, _, _, encoded, _, _, _, whole⟩ := held _ read
  have data : "/w==" = String.ofList payload := congrArg Inline.data whole
  refine ⟨bytes, ?_, read⟩
  rw [← encoded, data, String.toList_ofList]

end ChatGateway.Image
