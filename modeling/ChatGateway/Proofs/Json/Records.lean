import ChatGateway.Json.Tagged

/-!
Records that are read from members in the order of declaration. `Record.Reads` says that members
give a value; it is put together along the record, one rule for each way of making records.
-/
namespace ChatGateway.Json

namespace Record

variable {ρ σ α β : Type}

/-- The record takes each of the members, one after another. -/
inductive Fills (r : Record ρ α) (source : Source) : ρ → List (String × Reading) → ρ → Prop where
  | nil (row : ρ) : Fills r source row [] row
  | cons {row next last : ρ} {key : String} {value : Reading} {members : List (String × Reading)}
      (taken : r.take source row key value = some (.ok next))
      (later : Fills r source next members last) :
      Fills r source row ((key, value) :: members) last

/-- The members, all of them the record's own, make up the value. -/
def Reads (r : Record ρ α) (source : Source) (members : List (String × Reading)) (x : α) : Prop :=
  ∃ row, r.Fills source r.blank members row ∧ r.finish row = .ok x

/-- None of the members is the record's own. -/
def Foreign (r : Record ρ α) (members : List (String × Reading)) : Prop :=
  ∀ member ∈ members, ∀ source row value, r.take source row member.1 value = none

theorem Fills.append {r : Record ρ α} {source : Source} {row next last : ρ}
    {members more : List (String × Reading)} (first : r.Fills source row members next)
    (second : r.Fills source next more last) : r.Fills source row (members ++ more) last := by
  induction first with
  | nil => exact second
  | cons taken _ ih => exact .cons taken (ih second)

theorem Fills.left {a : Record ρ α} (b : Record σ β) {source : Source} {row next : ρ}
    {members : List (String × Reading)} (fills : a.Fills source row members next) (other : σ) :
    (a ++ b).Fills source (row, other) members (next, other) := by
  induction fills with
  | nil row => exact .nil (row, other)
  | cons taken _ ih =>
    refine .cons ?_ ih
    change (a.pair b).take _ _ _ _ = _
    simp only [pair, taken]
    rfl

theorem Fills.right (a : Record ρ α) {b : Record σ β} {source : Source} {row next : σ}
    {members : List (String × Reading)} (fills : b.Fills source row members next)
    (foreign : a.Foreign members) (other : ρ) :
    (a ++ b).Fills source (other, row) members (other, next) := by
  induction fills with
  | nil row => exact .nil (other, row)
  | @cons row next last key value members taken _ ih =>
    have notLeft := foreign (key, value) (List.mem_cons_self ..) source other value
    refine .cons ?_ (ih fun member later => foreign member (List.mem_cons_of_mem _ later))
    change (a.pair b).take _ _ _ _ = _
    simp only [pair, notLeft, taken]
    rfl

theorem Fills.map {r : Record ρ α} {source : Source} {row next : ρ}
    {members : List (String × Reading)} (fills : r.Fills source row members next) (f : α → β) :
    (r.map f).Fills source row members next := by
  induction fills with
  | nil row => exact .nil row
  | cons taken _ ih => exact .cons taken ih

theorem reads_field (name : String) {decode : Decoder α} {source : Source} {value : Reading} {x : α}
    (decoded : decode source value = .ok x) (ifMissing ifShort : Option α := none) :
    (field name decode ifMissing ifShort).Reads source [(name, value)] x := by
  refine ⟨some x, .cons ?_ (.nil _), rfl⟩
  simp only [field, if_true, Option.isSome_none, Bool.false_eq_true, if_false, decoded]
  rfl

theorem reads_defaulted (name : String) {decode : Decoder α} {source : Source} {value : Reading}
    {x : α} (decoded : decode source value = .ok x) (otherwise : α) :
    (defaulted name decode otherwise).Reads source [(name, value)] x :=
  reads_field name decoded (some otherwise) (some otherwise)

theorem Reads.pair {a : Record ρ α} {b : Record σ β} {source : Source}
    {members more : List (String × Reading)} {x : α} {y : β} (first : a.Reads source members x)
    (second : b.Reads source more y) (foreign : a.Foreign more) :
    (a ++ b).Reads source (members ++ more) (x, y) := by
  obtain ⟨row, fills, finished⟩ := first
  obtain ⟨other, fillsOther, finishedOther⟩ := second
  refine ⟨(row, other), (fills.left b b.blank).append (fillsOther.right a foreign row), ?_⟩
  change (a.pair b).finish _ = _
  simp only [Record.pair, finished, finishedOther]
  rfl

theorem Reads.map {r : Record ρ α} {source : Source} {members : List (String × Reading)} {x : α}
    (reads : r.Reads source members x) (f : α → β) : (r.map f).Reads source members (f x) := by
  obtain ⟨row, fills, finished⟩ := reads
  refine ⟨row, fills.map f, ?_⟩
  simp only [Record.map, finished]
  rfl

theorem Fills.folded {r : Record ρ α} {source : Source} {row next : ρ}
    {members : List (String × Reading)} (fills : r.Fills source row members next) :
    members.foldlM (r.takeMember source) row = .ok next := by
  induction fills with
  | nil => rfl
  | cons taken _ ih =>
    rw [List.foldlM_cons, takeMember, taken]
    exact ih

theorem Reads.ofMembers {r : Record ρ α} {source : Source} {members : List (String × Reading)}
    {x : α} (reads : r.Reads source members x) : r.ofMembers source members true = .ok x := by
  obtain ⟨row, fills, finished⟩ := reads
  rw [Record.ofMembers, fills.folded]
  exact finished

theorem Reads.decoder {r : Record ρ α} {source inner : Source} {members : List (String × Reading)}
    {x : α} (reads : r.Reads inner members x) (enters : source.enter = .ok inner) (name : String) :
    r.decoder name source (.object members .closed) = .ok x := by
  rw [Record.decoder, enters]
  exact reads.ofMembers

@[simp] theorem foreign_field {name : String} {decode : Decoder α} {ifMissing ifShort : Option α}
    {members : List (String × Reading)} :
    (field name decode ifMissing ifShort).Foreign members ↔
      ∀ member ∈ members, member.1 ≠ name := by
  constructor
  · intro foreign member found same
    have taken := foreign member found .copy none .null
    simp [field, same] at taken
  · intro distinct member found source row value
    simp only [field, distinct member found, if_false]

@[simp] theorem foreign_defaulted {name : String} {decode : Decoder α} {otherwise : α}
    {members : List (String × Reading)} :
    (defaulted name decode otherwise).Foreign members ↔ ∀ member ∈ members, member.1 ≠ name :=
  foreign_field

@[simp] theorem foreign_pair {a : Record ρ α} {b : Record σ β} {members : List (String × Reading)} :
    (a ++ b).Foreign members ↔ a.Foreign members ∧ b.Foreign members := by
  constructor
  · intro foreign
    refine ⟨fun member found source row value => ?_, fun member found source row value => ?_⟩
    · have taken := foreign member found source (row, b.blank) value
      change (a.pair b).take _ _ _ _ = _ at taken
      simp only [pair] at taken
      split at taken
      · cases taken
      next notLeft => exact notLeft
    · have taken := foreign member found source (a.blank, row) value
      change (a.pair b).take _ _ _ _ = _ at taken
      simp only [pair] at taken
      split at taken
      · cases taken
      · exact Option.map_eq_none_iff.mp taken
  · rintro ⟨notLeft, notRight⟩ member found source row value
    change (a.pair b).take _ _ _ _ = _
    simp only [pair, notLeft member found, notRight member found, Option.map_none]

end Record

end ChatGateway.Json
