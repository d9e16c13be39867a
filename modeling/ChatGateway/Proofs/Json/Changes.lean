import ChatGateway.Proofs.Json.Omission
import ChatGateway.Proofs.Json.Scalars

/-!
Changes that a decoder does not notice. In an object, members change places, others with unknown
names come in, and the values under known names change in their turn. What a record finds is a
matter of the values under its names (`Alike`), so tolerance is put together along a decoder, field
by field. It goes both ways: what was refused stays refused.
-/
namespace ChatGateway.Json

/-- A change of a reading, from the one before to the one after. -/
abbrev Change := Reading → Reading → Prop

/-- Known names, with the change that a value under them may undergo. -/
abbrev Known := List (String × Change)

/-- A member keeps its name; only the value under a known one may change. -/
inductive Known.Keeps (known : Known) : String × Reading → String × Reading → Prop where
  | own {name : String} {change : Change} {before after : Reading}
      (found : known.lookup name = some change) (changed : change before after) :
      Keeps known (name, before) (name, after)
  | other {name : String} {value : Reading} (unknown : known.lookup name = none) :
      Keeps known (name, value) (name, value)

/-- Members after a change: those before, each as it may change, and others of unknown names, in
any order. -/
structure Rearranged (known : Known) (fits : Reading → Prop)
    (before after : List (String × Reading)) : Prop where
  sorted : ∃ kept added, List.Forall₂ known.Keeps before kept ∧ (kept ++ added).Perm after ∧
    ∀ member ∈ added, known.lookup member.1 = none ∧ fits member.2

namespace Change

/-- A change of an object's members. -/
inductive object (known : Known) (fits : Reading → Prop) : Change where
  | same (reading : Reading) : object known fits reading reading
  | members {before after : List (String × Reading)} {ending : Ending}
      (rearranged : Rearranged known fits before after) :
      object known fits (.object before ending) (.object after ending)

/-- A change of each item of an array. -/
inductive array (item : Change) : Change where
  | same (reading : Reading) : array item reading reading
  | items {before after : List Reading} {closed : Bool}
      (each : List.Forall₂ item before after) :
      array item (.array before closed) (.array after closed)

end Change

/-- A value that can be passed over. -/
abbrev Spelt (value : Reading) : Prop := value.isSpelt = true

/-- A value that can be held in memory, where `depth` more containers may be entered. -/
abbrev Held (depth : Nat) (value : Reading) : Prop := value.isReadable depth = true

/-- Under every known name stand the same values, as they may change, in any order. -/
def Alike (known : Known) (before after : List (String × Reading)) : Prop :=
  ∀ name change, known.lookup name = some change →
    ∃ values, List.Forall₂ change (valuesAt name before) values ∧
      values.Perm (valuesAt name after)

variable {known : Known} {fits : Reading → Prop} {before after : List (String × Reading)}

theorem valuesAt_perm (name : String) (perm : before.Perm after) :
    (valuesAt name before).Perm (valuesAt name after) := perm.filterMap _

theorem Known.Keeps.values {name : String} {change : Change}
    (found : known.lookup name = some change) (keeps : List.Forall₂ known.Keeps before after) :
    List.Forall₂ change (valuesAt name before) (valuesAt name after) := by
  induction keeps with
  | nil => exact .nil
  | cons first _ ih =>
    cases first with
    | @own own ownChange _ _ ownFound changed =>
      by_cases asked : own = name
      · subst asked
        obtain rfl := Option.some.inj (ownFound.symm.trans found)
        rw [valuesAt_self, valuesAt_self]
        exact .cons changed ih
      · rw [valuesAt_other asked, valuesAt_other asked]
        exact ih
    | @other own _ unknown =>
      have asked : own ≠ name := by
        rintro rfl
        rw [unknown] at found
        cases found
      rw [valuesAt_other asked, valuesAt_other asked]
      exact ih

theorem Rearranged.alike (rearranged : Rearranged known fits before after) :
    Alike known before after := by
  obtain ⟨kept, added, keeps, perm, unknown⟩ := rearranged.sorted
  intro name change found
  refine ⟨valuesAt name kept, Known.Keeps.values found keeps, ?_⟩
  have none : valuesAt name added = [] := by
    refine valuesAt_eq_nil.mpr fun member there same => ?_
    rw [← same, (unknown member there).1] at found
    cases found
  have whole := valuesAt_perm name perm
  rwa [valuesAt_append, none, List.append_nil] at whole

/-- What holds of all members holds of them after a change, and the other way round. -/
theorem Rearranged.forall_iff {P : String × Reading → Prop}
    (rearranged : Rearranged known fits before after)
    (kept_iff : ∀ member changed, known.Keeps member changed → (P member ↔ P changed))
    (added_holds : ∀ member, known.lookup member.1 = none → fits member.2 → P member) :
    (∀ member ∈ before, P member) ↔ ∀ member ∈ after, P member := by
  obtain ⟨kept, added, keeps, perm, unknown⟩ := rearranged.sorted
  have both : (∀ member ∈ before, P member) ↔ ∀ member ∈ kept, P member := by
    clear perm rearranged
    induction keeps with
    | nil => simp
    | cons first _ ih =>
      rw [List.forall_mem_cons, List.forall_mem_cons, kept_iff _ _ first, ih]
  have more : ∀ member ∈ added, P member := fun member there =>
    added_holds member (unknown member there).1 (unknown member there).2
  rw [both]
  constructor
  · intro holds member there
    rcases List.mem_append.mp (perm.mem_iff.mpr there) with own | new
    · exact holds member own
    · exact more member new
  · intro holds member there
    exact holds member (perm.mem_iff.mp (List.mem_append_left _ there))

/-! ## Values that can be held -/

namespace Reading

mutual

theorem isSpelt_of_isReadable {depth : Nat} :
    ∀ {reading : Reading}, reading.isReadable depth = true → reading.isSpelt = true
  | .null, _ | .bool _, _ | .number _, _ | .string _, _ => rfl
  | .array _ _, readable => by
    rw [isReadable, Bool.and_eq_true, Bool.and_eq_true] at readable
    rw [isSpelt, readable.1.2, allSpelt_of_allReadable readable.2]
    rfl
  | .object _ _, readable => by
    rw [isReadable, Bool.and_eq_true, Bool.and_eq_true] at readable
    rw [isSpelt, of_decide_eq_true readable.1.2, membersSpelt_of_membersReadable readable.2]
    rfl

theorem allSpelt_of_allReadable {depth : Nat} :
    ∀ {items : List Reading}, allReadable depth items = true → allSpelt items = true
  | [], _ => rfl
  | _ :: _, readable => by
    rw [allReadable, Bool.and_eq_true] at readable
    rw [allSpelt, isSpelt_of_isReadable readable.1, allSpelt_of_allReadable readable.2]
    rfl

theorem membersSpelt_of_membersReadable {depth : Nat} :
    ∀ {members : List (String × Reading)},
      membersReadable depth members = true → membersSpelt members = true
  | [], _ => rfl
  | _ :: _, readable => by
    rw [membersReadable, Bool.and_eq_true] at readable
    rw [membersSpelt, isSpelt_of_isReadable readable.1, membersSpelt_of_membersReadable readable.2]
    rfl

end

end Reading

/-- All members of unknown names can be passed over after a change if they could be before. -/
theorem Rearranged.spelt_iff (rearranged : Rearranged known fits before after)
    (fits_spelt : ∀ value, fits value → Spelt value) :
    (∀ member ∈ before, member.1 ∉ known.map Prod.fst → Spelt member.2) ↔
      ∀ member ∈ after, member.1 ∉ known.map Prod.fst → Spelt member.2 := by
  simp only [← lookup_eq_none]
  refine rearranged.forall_iff ?_ fun member _ fit _ => fits_spelt _ fit
  rintro _ _ (⟨found, _⟩ | _)
  · simp [found]
  · exact Iff.rfl

namespace Change

/-- After the change a value can be held if and only if it could be before. -/
def Keeps (depth : Nat) (change : Change) : Prop :=
  ∀ before after, change before after → (Held depth before ↔ Held depth after)

theorem keeps_eq (depth : Nat) : Keeps depth Eq := by
  rintro _ _ rfl
  exact Iff.rfl

theorem Keeps.object {depth : Nat} (own : ∀ entry ∈ known, entry.2.Keeps (depth - 1)) :
    (object known (Held (depth - 1))).Keeps depth := by
  rintro _ _ (_ | @⟨before, after, ending, rearranged⟩)
  · exact Iff.rfl
  · have members : (∀ member ∈ before, Held (depth - 1) member.2) ↔
        ∀ member ∈ after, Held (depth - 1) member.2 := by
      refine rearranged.forall_iff ?_ fun member _ fit => fit
      rintro _ _ (⟨found, changed⟩ | _)
      · exact own _ (mem_of_lookup found) _ _ changed
      · exact Iff.rfl
    simp only [Held, Reading.isReadable, Bool.and_eq_true, Reading.membersReadable_iff, members]

end Change

/-! ## Decoders -/

/-- The decoder makes the same of a reading before and after a change, or refuses both. -/
def Decoder.Tolerates {α : Type} (decode : Decoder α) (source : Source) (change : Change) : Prop :=
  ∀ before after, change before after →
    ∀ x, decode source before = .ok x ↔ decode source after = .ok x

/-- The record finds the same among members that are alike. -/
def Record.Tolerates {ρ α : Type} (r : Record ρ α) (source : Source) (known : Known) : Prop :=
  ∀ before after, Alike known before after →
    ∀ x, r.Finds source before x ↔ r.Finds source after x

variable {ρ σ α β : Type} {source : Source}

theorem Decoder.tolerates_eq (decode : Decoder α) (source : Source) :
    decode.Tolerates source Eq := by
  rintro _ _ rfl _
  exact Iff.rfl

theorem Decoder.Tolerates.option {decode : Decoder α}
    (tolerates : decode.Tolerates source (.object known fits)) :
    decode.option.Tolerates source (.object known fits) := by
  rintro _ _ (_ | @⟨before, after, ending, rearranged⟩) x?
  · exact Iff.rfl
  · have same := tolerates (.object before ending) (.object after ending) (.members rearranged)
    simp only [Decoder.option_iff, same]
    simp

theorem Decoder.Tolerates.list {decode : Decoder α} {item : Change}
    (tolerates : ∀ inner, source.enter = .ok inner → decode.Tolerates inner item) :
    (Decoder.list decode).Tolerates source (.array item) := by
  rintro _ _ (_ | ⟨each⟩) xs
  · exact Iff.rfl
  · cases enters : source.enter with
    | error error => simp only [Decoder.list, enters]; rfl
    | ok inner =>
      rw [Decoder.list_iff enters, Decoder.list_iff enters]
      refine and_congr_right fun _ => ?_
      have same := tolerates inner enters
      induction each generalizing xs with
      | nil => exact Iff.rfl
      | cons first _ ih =>
        cases xs with
        | nil => simp
        | cons x xs => simp only [List.forall₂_cons, same _ _ first x, ih]

namespace Record

theorem tolerates_field {name : String} {decode : Decoder α} {change : Change}
    {ifMissing ifShort : Option α} (own : known.lookup name = some change)
    (tolerates : decode.Tolerates source change) :
    (field name decode ifMissing ifShort).Tolerates source known := by
  intro before after alike x
  obtain ⟨values, changed, perm⟩ := alike name change own
  rw [finds_field, finds_field]
  generalize valuesAt name before = olds at changed ⊢
  generalize valuesAt name after = news at perm ⊢
  cases changed with
  | nil => simp [perm.symm.eq_nil]
  | @cons value value' rest rest' first more =>
    cases more with
    | nil =>
      obtain rfl := List.perm_singleton.mp perm.symm
      simp [tolerates _ _ first x]
    | cons second more =>
      have several := perm.length_eq
      constructor
      · rintro (⟨absent, _⟩ | ⟨_, single, _⟩)
        · cases absent
        · cases single
      · rintro (⟨rfl, _⟩ | ⟨_, rfl, _⟩) <;> simp at several

/-- A field does not notice in which order its values and others come. -/
theorem finds_field_perm {name : String} {decode : Decoder α} {ifMissing ifShort : Option α} {x : α}
    (perm : (valuesAt name before).Perm (valuesAt name after)) :
    (field name decode ifMissing ifShort).Finds source before x ↔
      (field name decode ifMissing ifShort).Finds source after x := by
  have none : valuesAt name before = [] ↔ valuesAt name after = [] := by
    rw [← List.perm_nil, ← List.perm_nil, perm.congr_left]
  have single (value : Reading) : valuesAt name before = [value] ↔ valuesAt name after = [value] := by
    rw [← List.perm_singleton, ← List.perm_singleton, perm.congr_left]
  simp only [finds_field, none, single]

theorem Tolerates.pair {a : Record ρ α} {b : Record σ β} {names more : List String}
    (first : a.Named names) (second : b.Named more) (apart : ∀ name ∈ names, name ∉ more)
    (left : a.Tolerates source known) (right : b.Tolerates source known) :
    (a ++ b).Tolerates source known := by
  rintro before after alike ⟨x, y⟩
  rw [finds_pair first second apart, finds_pair first second apart, left before after alike,
    right before after alike]

theorem Tolerates.map {r : Record ρ α} (tolerates : r.Tolerates source known) (f : α → β) :
    (r.map f).Tolerates source known := by
  intro before after alike y
  simp only [finds_map, tolerates before after alike]

/-- A record tolerates changes among its members if it does so field by field. -/
theorem Tolerates.decoder {r : Record ρ α} {names : List String} (named : r.Named names)
    (knows : known.map Prod.fst = names)
    (fits_spelt : ∀ value, fits value → Spelt value)
    (tolerates : ∀ inner, source.enter = .ok inner → r.Tolerates inner known) (label : String) :
    (r.decoder label).Tolerates source (.object known fits) := by
  rintro _ _ (_ | @⟨before, after, ending, rearranged⟩) x
  · exact Iff.rfl
  · cases enters : source.enter with
    | error error => simp only [Record.decoder, enters]; rfl
    | ok inner =>
      rw [decoder_iff named enters, decoder_iff named enters,
        tolerates inner enters before after rearranged.alike]
      subst knows
      exact and_congr_right fun _ => and_congr_right fun _ => rearranged.spelt_iff fits_spelt

/-- A record of two fields tolerates what both of them do. -/
theorem tolerates_fields {γ : Type} {first second : String} {d : Decoder α} {e : Decoder β} {x₀ : α}
    {y₀ : β} {change change' : Change} (apart : first ≠ second)
    (fits_spelt : ∀ value, fits value → Spelt value)
    (left : ∀ inner, d.Tolerates inner change) (right : ∀ inner, e.Tolerates inner change')
    (f : α × β → γ) (label : String) :
    (((defaulted first d x₀ ++ defaulted second e y₀).map f).decoder label).Tolerates source
      (.object [(first, change), (second, change')] fits) := by
  have one := named_defaulted first d x₀
  have two := named_defaulted second e y₀
  refine Tolerates.decoder ((one.pair two).map f) rfl fits_spelt (fun inner _ => ?_) label
  refine Tolerates.map (Tolerates.pair one two (by simpa using apart) ?_ ?_) f
  · exact tolerates_field (List.lookup_cons_self ..) (left inner)
  · refine tolerates_field ?_ (right inner)
    rw [List.lookup_cons, beq_false_of_ne apart.symm]
    exact List.lookup_cons_self ..

/-- A record of two fields of which neither may change. -/
theorem tolerates_plain {γ : Type} {first second : String} {d : Decoder α} {e : Decoder β} {x₀ : α}
    {y₀ : β} (apart : first ≠ second) (fits_spelt : ∀ value, fits value → Spelt value)
    (f : α × β → γ) (label : String) :
    (((defaulted first d x₀ ++ defaulted second e y₀).map f).decoder label).Tolerates source
      (.object [(first, Eq), (second, Eq)] fits) :=
  tolerates_fields apart fits_spelt d.tolerates_eq e.tolerates_eq f label

theorem place_fields {γ : Type} {first second : String} {d : Decoder α} {e : Decoder β} {x₀ : α}
    {y₀ : β} {f : α × β → γ} {closed : Bool} {short : Nat → Error} {index : Nat}
    {a b : Reading} {rest : List Reading} {placed : γ × List Reading} :
    ((defaulted first d x₀ ++ defaulted second e y₀).map f).place source closed short index
        (a :: b :: rest) = .ok placed ↔
      ∃ x y, d source a = .ok x ∧ e source b = .ok y ∧ placed = (f (x, y), rest) := by
  cases left : d source a with
  | error error =>
    simp [Record.map, HAppend.hAppend, pair, defaulted, field, left, bind, Except.bind]
  | ok x =>
    cases right : e source b with
    | error error =>
      simp [Record.map, HAppend.hAppend, pair, defaulted, field, left, right, bind, Except.bind,
        pure, Except.pure]
    | ok y =>
      simp [Record.map, HAppend.hAppend, pair, defaulted, field, left, right, bind, Except.bind,
        pure, Except.pure, eq_comm (a := placed)]

/-- In an array of its fields the second one may change where it stands. -/
theorem tolerates_second {γ : Type} {first second label : String} {d : Decoder α} {e : Decoder β}
    {x₀ : α} {y₀ : β} {f : α × β → γ} {change : Change} {item changing changed : Reading}
    {rest : List Reading} {closed : Bool} (tolerates : ∀ inner, e.Tolerates inner change)
    (changes : change changing changed) (z : γ) :
    ((defaulted first d x₀ ++ defaulted second e y₀).map f).decoder label source
        (.array (item :: changing :: rest) closed) = .ok z ↔
      ((defaulted first d x₀ ++ defaulted second e y₀).map f).decoder label source
        (.array (item :: changed :: rest) closed) = .ok z := by
  simp only [decoder, bind_eq_ok_iff]
  refine exists_congr fun inner => and_congr_right fun _ => ?_
  simp only [ofItems, bind_eq_ok_iff, place_fields, tolerates inner changing changed changes]
  rfl

end Record

/-- Texts whose values differ by a change that the decoder tolerates are decoded alike. -/
theorem Decoder.Tolerates.decodeChars {decode : Decoder α} {change : Change}
    (tolerates : decode.Tolerates (.text nestingLimit) change) {text other : List Char}
    (changed : change (Document.ofChars text).root (Document.ofChars other).root)
    (alone : (Document.ofChars text).alone = (Document.ofChars other).alone) (x : α) :
    Json.decodeChars decode text = .ok x ↔ Json.decodeChars decode other = .ok x := by
  rw [decodeChars_iff, decodeChars_iff, tolerates _ _ changed, alone]

end ChatGateway.Json
