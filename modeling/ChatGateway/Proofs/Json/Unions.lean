import ChatGateway.Proofs.Json.Members
import Mathlib.Data.List.Nodup

/-!
Unions held in memory. `Tagged.ofMembers_copy_iff` says all that a union can be read from: one tag
among the members, and the variant it names reads the others, in the order they came.
-/
namespace ChatGateway.Json.Tagged

variable {α : Type} {t : Tagged α} {members reversed : List (String × Reading)}
  {member : String × Reading} {variant? : Option (Variant α)} {last : Sorting α}

theorem sort_copy_other (other : member.1 ≠ tagKey) :
    t.sort .copy ⟨variant?, reversed⟩ member = .ok ⟨variant?, member :: reversed⟩ := by
  rw [sort, if_neg other]
  rfl

theorem sort_copy_tag (own : member.1 = tagKey) :
    t.sort .copy ⟨none, reversed⟩ member = .ok last ↔
      ∃ variant, t.ofTag .copy member.2 = .ok variant ∧ last = ⟨some variant, reversed⟩ := by
  rw [sort, if_pos own, if_neg (by simp), bind_eq_ok_iff]
  simp [pure, Except.pure, eq_comm (a := last)]

/-- A second tag is refused. -/
theorem sort_copy_again (own : member.1 = tagKey) (variant : Variant α) :
    t.sort .copy ⟨some variant, reversed⟩ member = .error (.duplicateField tagKey) := by
  rw [sort, if_pos own]
  rfl

theorem foldlM_sort_copy_some {variant : Variant α} :
    members.foldlM (t.sort .copy) ⟨some variant, reversed⟩ = .ok last ↔
      valuesAt tagKey members = [] ∧ last = ⟨some variant, members.reverse ++ reversed⟩ := by
  induction members generalizing reversed with
  | nil => simp [valuesAt, pure, Except.pure, eq_comm (a := last)]
  | cons member members ih =>
    rw [List.foldlM_cons, bind_eq_ok_iff]
    by_cases own : member.1 = tagKey
    · simp [sort_copy_again own, valuesAt_own own]
    · simp [sort_copy_other own, valuesAt_other own, ih]

/-- The tag is sorted from the others, which keep their order. -/
theorem foldlM_sort_copy_none :
    members.foldlM (t.sort .copy) ⟨none, reversed⟩ = .ok last ↔
      last.reversed = (without tagKey members).reverse ++ reversed ∧
      ((valuesAt tagKey members = [] ∧ last.variant = none) ∨
        ∃ tag variant, valuesAt tagKey members = [tag] ∧ t.ofTag .copy tag = .ok variant ∧
          last.variant = some variant) := by
  obtain ⟨variant?, sorted⟩ := last
  induction members generalizing reversed with
  | nil => simp [valuesAt, without, pure, Except.pure, and_comm, eq_comm]
  | cons member members ih =>
    rw [List.foldlM_cons, bind_eq_ok_iff]
    by_cases own : member.1 = tagKey
    · simp only [sort_copy_tag own, valuesAt_own own, without_own own]
      constructor
      · rintro ⟨_, ⟨variant, named, rfl⟩, rest⟩
        obtain ⟨noMore, same⟩ := foldlM_sort_copy_some.mp rest
        cases same
        rw [without_eq_self noMore, noMore]
        exact ⟨rfl, .inr ⟨member.2, variant, rfl, named, rfl⟩⟩
      · rintro ⟨rfl, ⟨absent, _⟩ | ⟨tag, variant, single, named, rfl⟩⟩
        · cases absent
        · obtain ⟨rfl, noMore⟩ := List.cons.inj single
          rw [without_eq_self noMore]
          exact ⟨_, ⟨variant, named, rfl⟩, foldlM_sort_copy_some.mpr ⟨noMore, rfl⟩⟩
    · simp [sort_copy_other own, valuesAt_other own, without_other own, ih]

/-- A union is read exactly when its members have one tag, and the variant it names reads the
others. -/
theorem ofMembers_copy_iff {x : α} :
    t.ofMembers .copy members true = .ok x ↔
      ∃ tag variant, valuesAt tagKey members = [tag] ∧ t.ofTag .copy tag = .ok variant ∧
        variant.read (.members (without tagKey members)) = .ok x := by
  constructor
  · intro read
    obtain ⟨⟨variant?, sorted⟩, took, rest⟩ := bind_eq_ok_iff.mp read
    obtain ⟨order, ⟨_, missing⟩ | ⟨tag, variant, single, named, found⟩⟩ :=
      foldlM_sort_copy_none.mp took
    · dsimp only at missing
      subst missing
      cases rest
    · dsimp only at found order
      subst found
      have others : sorted.reverse = without tagKey members := by simp [order]
      exact ⟨tag, variant, single, named, others ▸ rest⟩
  · rintro ⟨tag, variant, single, named, reads⟩
    rw [t.ofMembers_tag single named fun _ _ => rfl, reads]

/-- A tag names one of the variants, or the one that takes all other tags. -/
theorem ofTag_listed {source : Source} {tag : Reading} {variant : Variant α}
    (named : t.ofTag source tag = .ok variant) :
    variant ∈ t.variants ∨ t.other = some variant := by
  unfold ofTag at named
  split at named
  next name =>
    split at named
    next found =>
      cases named
      exact .inl (List.mem_of_find?_eq_some found)
    next other =>
      cases named
      exact .inr other
    next => cases named
  next numeral =>
    split at named
    next n value =>
      dsimp only at named
      split at named
      next found =>
        cases named
        exact .inl (List.mem_of_getElem? found)
      next other =>
        cases named
        exact .inr other
      next => cases named
    next =>
      obtain ⟨_, _, failed⟩ := bind_eq_ok_iff.mp named
      cases failed
  next =>
    obtain ⟨_, _, failed⟩ := bind_eq_ok_iff.mp named
    cases failed

/-- A tag in words names the variant of that name, where no variant takes all other tags. -/
theorem ofTag_string_iff {source : Source} {name : String} {variant : Variant α}
    (listed : t.other = none) (apart : (t.variants.map Variant.tag).Nodup) :
    t.ofTag source (.string name) = .ok variant ↔ variant ∈ t.variants ∧ variant.tag = name := by
  have found : t.ofTag source (.string name) = .ok variant ↔
      t.variants.find? (·.tag = name) = some variant := by
    simp only [ofTag, listed]
    cases t.variants.find? (·.tag = name) <;> simp
  rw [found]
  constructor
  · intro first
    exact ⟨List.mem_of_find?_eq_some first, by simpa using List.find?_some first⟩
  · rintro ⟨there, own⟩
    cases first : t.variants.find? (·.tag = name) with
    | none => exact absurd own (by simpa using List.find?_eq_none.mp first variant there)
    | some other =>
      have same : other.tag = name := by simpa using List.find?_some first
      exact congrArg some (List.inj_on_of_nodup_map apart (List.mem_of_find?_eq_some first) there
        (same.trans own.symm))

/-- A variant with fields reads what its record finds among the members beside the tag. -/
theorem fields_read {ρ : Type} {r : Record ρ α} {names : List String} (named : r.Named names)
    (noTag : tagKey ∉ names) {tag label : String} {x : α} :
    (Variant.fields tag label r).read (.members (without tagKey members)) = .ok x ↔
      r.Finds .copy members x ∧
        ∀ member ∈ members, member.1 ∉ tagKey :: names → member.2.isSpelt = true := by
  change r.ofMembers .copy (without tagKey members) true = .ok x ↔ _
  rw [Record.ofMembers_iff named, Record.finds_without named noTag]
  refine and_congr_right fun _ => ?_
  simp [without, and_imp]

end ChatGateway.Json.Tagged
