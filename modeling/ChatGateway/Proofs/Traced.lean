import ChatGateway.Traced
import Mathlib.Data.List.Forall2

/-!
Work that goes through a list of needs in order. Each need may ask for something and may fail;
`Meets` says that the work asks for what the needs up to the first failing one ask for, and that it
ends with that failure, or with a good value when no need fails. Work done one after the other meets
the needs one after the other.
-/
namespace ChatGateway.Traced

variable {ν ε α β : Type} {effect? : ν → Option ε} {failure? : ν → Option Failure}
  {needs more : List ν} {good : α → Prop} {better : β → Prop} {work : Traced ε α}

theorem bind_result {value : α} (next : α → Traced ε β) (succeeded : work.result = .ok value) :
    (work >>= next).result = (next value).result := by
  obtain ⟨effects, result⟩ := work
  cases succeeded
  rfl

/-- What comes next is asked for after what comes first. -/
theorem bind_succeeded {value : α} (next : α → Traced ε β) (succeeded : work.result = .ok value) :
    work >>= next = ⟨work.effects ++ (next value).effects, (next value).result⟩ := by
  obtain ⟨effects, result⟩ := work
  cases succeeded
  rfl

/-- After a failure nothing comes next. -/
theorem bind_failed {failure : Failure} (next : α → Traced ε β)
    (failed : work.result = .error failure) : work >>= next = ⟨work.effects, .error failure⟩ := by
  obtain ⟨effects, result⟩ := work
  cases failed
  rfl

theorem ofExcept_bind (answer : Except Failure α) (f : α → β) :
    (ofExcept answer >>= fun value => pure (f value) : Traced ε β) =
      ofExcept (answer >>= fun value => pure (f value)) := by
  cases answer with
  | error failure => rfl
  | ok value => rfl

/-- Work that asks once and then only looks at the answer. -/
theorem ask_bind (effect : ε) (answer : Except Failure α) (f : α → Except Failure β) :
    (ask effect answer >>= fun value => ofExcept (f value)) = ⟨[effect], answer >>= f⟩ := by
  cases answer with
  | error failure => rfl
  | ok value => rfl

/-- What is asked for is asked for first, or by what comes next with the result of the first. -/
theorem mem_bind_effects {next : α → Traced ε β} {effect : ε} :
    effect ∈ (work >>= next).effects ↔
      effect ∈ work.effects ∨ ∃ value, work.result = .ok value ∧ effect ∈ (next value).effects := by
  obtain ⟨effects, result⟩ := work
  cases result with
  | error failure =>
    change effect ∈ effects ↔ _
    simp
  | ok value =>
    change effect ∈ effects ++ (next value).effects ↔ _
    simp

inductive Meets (effect? : ν → Option ε) (failure? : ν → Option Failure) (needs : List ν)
    (good : α → Prop) : Traced ε α → Prop where
  | all {value : α} (fine : ∀ need ∈ needs, failure? need = none) (holds : good value) :
      Meets effect? failure? needs good ⟨needs.filterMap effect?, .ok value⟩
  | upTo {before after : List ν} {need : ν} {failure : Failure}
      (split : needs = before ++ need :: after)
      (fine : ∀ earlier ∈ before, failure? earlier = none) (fails : failure? need = some failure) :
      Meets effect? failure? needs good ⟨(before ++ [need]).filterMap effect?, .error failure⟩

namespace Meets

theorem succeed {value : α} (holds : good value) :
    Meets effect? failure? [] good (.succeed value) :=
  .all (fun _ member => absurd member List.not_mem_nil) holds

theorem mono {other : α → Prop} (meets : Meets effect? failure? needs good work)
    (weaker : ∀ value, good value → other value) : Meets effect? failure? needs other work := by
  cases meets with
  | all fine holds => exact .all fine (weaker _ holds)
  | upTo split fine fails => exact .upTo split fine fails

theorem one (need : ν) {value : α} (fine : failure? need = none) (holds : good value) :
    Meets effect? failure? [need] good ⟨(effect? need).toList, .ok value⟩ := by
  have same : (effect? need).toList = [need].filterMap effect? := by
    cases asked : effect? need <;> simp [asked]
  rw [same]
  exact .all (fun other member => List.mem_singleton.mp member ▸ fine) holds

theorem oneFails (need : ν) {failure : Failure} (fails : failure? need = some failure) :
    Meets effect? failure? [need] good ⟨(effect? need).toList, .error failure⟩ := by
  have same : (effect? need).toList = ([] ++ [need]).filterMap effect? := by
    cases asked : effect? need <;> simp [asked]
  rw [same]
  exact .upTo rfl (fun _ member => absurd member List.not_mem_nil) fails

theorem andThen {next : α → Traced ε β} (first : Meets effect? failure? needs good work)
    (second : ∀ value, good value → Meets effect? failure? more better (next value)) :
    Meets effect? failure? (needs ++ more) better (work >>= next) := by
  cases first with
  | @all value fine holds =>
    change Meets _ _ _ _ (⟨_ ++ (next value).effects, (next value).result⟩ : Traced ε β)
    have met := second value holds
    generalize next value = later at met ⊢
    cases met with
    | all fineToo holdsToo =>
      rw [← List.filterMap_append]
      refine .all ?_ holdsToo
      intro need member
      rcases List.mem_append.mp member with member | member
      · exact fine need member
      · exact fineToo need member
    | @upTo before after need failure split fineToo fails =>
      have longer : needs ++ more = needs ++ before ++ need :: after := by
        rw [split, List.append_assoc]
      rw [← List.filterMap_append, ← List.append_assoc]
      refine .upTo longer ?_ fails
      intro earlier member
      rcases List.mem_append.mp member with member | member
      · exact fine earlier member
      · exact fineToo earlier member
  | @upTo before after need failure split fine fails =>
    have longer : needs ++ more = before ++ need :: (after ++ more) := by
      rw [split, List.append_assoc, List.cons_append]
    exact .upTo longer fine fails

theorem andReturn {f : α → β} (first : Meets effect? failure? needs good work)
    (holds : ∀ value, good value → better (f value)) :
    Meets effect? failure? needs better (work >>= fun value => pure (f value)) := by
  rw [← List.append_nil needs]
  exact first.andThen fun value isGood => succeed (holds value isGood)

/-- Items that each have their own needs. -/
theorem forEach {γ : Type} {relates : γ → β → Prop} (needsOf : γ → List ν)
    {each : γ → Traced ε β} (items : List γ)
    (meets : ∀ item, Meets effect? failure? (needsOf item) (relates item) (each item)) :
    Meets effect? failure? (items.flatMap needsOf) (List.Forall₂ relates items)
      (Traced.forEach each items) := by
  induction items with
  | nil => exact succeed .nil
  | cons item rest ih =>
    exact (meets item).andThen fun value related =>
      ih.andReturn fun values allRelated => .cons related allRelated

/-- The work fails exactly if a need does. -/
theorem fails_iff (meets : Meets effect? failure? needs good work) :
    (∃ failure, work.result = .error failure) ↔ ∃ need ∈ needs, (failure? need).isSome := by
  cases meets with
  | all fine holds =>
    constructor
    · rintro ⟨failure, result⟩
      cases result
    · rintro ⟨need, member, some⟩
      rw [fine need member] at some
      cases some
  | @upTo before after need failure split fine fails =>
    refine iff_of_true ⟨failure, rfl⟩ ⟨need, ?_, by rw [fails]; rfl⟩
    rw [split]
    exact List.mem_append_right _ (List.mem_cons_self ..)

theorem of_error {failure : Failure} (meets : Meets effect? failure? needs good work)
    (failed : work.result = .error failure) :
    ∃ before need after, needs = before ++ need :: after ∧
      (∀ earlier ∈ before, failure? earlier = none) ∧ failure? need = some failure ∧
      work.effects = (before ++ [need]).filterMap effect? := by
  cases meets with
  | all fine holds => cases failed
  | upTo split fine fails =>
    cases failed
    exact ⟨_, _, _, split, fine, fails, rfl⟩

theorem of_ok {value : α} (meets : Meets effect? failure? needs good work)
    (succeeded : work.result = .ok value) :
    (∀ need ∈ needs, failure? need = none) ∧ work.effects = needs.filterMap effect? ∧
      good value := by
  cases meets with
  | all fine holds =>
    cases succeeded
    exact ⟨fine, rfl, holds⟩
  | upTo split fine fails => cases succeeded

end Meets

end ChatGateway.Traced
