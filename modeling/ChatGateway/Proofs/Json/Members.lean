import ChatGateway.Json.Tagged

/-!
Members in any order. A record gets its value from its own members, wherever they stand among
others; `Record.Finds` says so, and is put together along the record field by field. Of the others it
only wants that they are spelt. A union is found the same way by its tag.
-/
namespace ChatGateway.Json

/-- Work in two steps succeeds when both do. -/
theorem bind_eq_ok_iff {ε α β : Type} {step : Except ε α} {next : α → Except ε β} {y : β} :
    (step >>= next) = .ok y ↔ ∃ x, step = .ok x ∧ next x = .ok y := by
  cases step with
  | error error =>
    constructor
    · intro failed
      cases failed
    · rintro ⟨_, failed, _⟩
      cases failed
  | ok x =>
    constructor
    · intro rest
      exact ⟨x, rfl, rest⟩
    · rintro ⟨_, same, rest⟩
      cases same
      exact rest

theorem map_eq_ok_iff {ε α β : Type} {f : α → β} {work : Except ε α} {y : β} :
    f <$> work = .ok y ↔ ∃ x, work = .ok x ∧ f x = y := by
  cases work <;> simp [Functor.map, Except.map]

theorem lookup_eq_none {β : Type} {name : String} {entries : List (String × β)} :
    List.lookup name entries = none ↔ name ∉ entries.map Prod.fst := by
  rw [List.lookup_eq_none_iff, List.mem_map]
  constructor
  · rintro absent ⟨entry, there, rfl⟩
    simpa using absent entry there
  · intro absent entry there
    simpa using fun same : name = entry.1 => absent ⟨entry, there, same.symm⟩

theorem mem_of_lookup {β : Type} {name : String} {entries : List (String × β)} {found : β}
    (there : List.lookup name entries = some found) : (name, found) ∈ entries := by
  obtain ⟨_, _, rfl, _⟩ := List.lookup_eq_some_iff.mp there
  exact List.mem_append_right _ (List.mem_cons_self ..)

/-- The values that stand under a name. -/
def valuesAt (name : String) (members : List (String × Reading)) : List Reading :=
  members.filterMap fun member => if member.1 = name then some member.2 else none

/-- The members without those of a name. -/
def without (name : String) (members : List (String × Reading)) : List (String × Reading) :=
  members.filter (·.1 ≠ name)

section

variable {name : String} {member : String × Reading} {members : List (String × Reading)}

theorem valuesAt_own (own : member.1 = name) :
    valuesAt name (member :: members) = member.2 :: valuesAt name members :=
  List.filterMap_cons_some (if_pos own)

theorem valuesAt_other (other : member.1 ≠ name) :
    valuesAt name (member :: members) = valuesAt name members :=
  List.filterMap_cons_none (if_neg other)

theorem valuesAt_self (name : String) (value : Reading) (members : List (String × Reading)) :
    valuesAt name ((name, value) :: members) = value :: valuesAt name members := valuesAt_own rfl

theorem valuesAt_append (name : String) (members more : List (String × Reading)) :
    valuesAt name (members ++ more) = valuesAt name members ++ valuesAt name more :=
  List.filterMap_append

theorem without_own (own : member.1 = name) :
    without name (member :: members) = without name members :=
  List.filter_cons_of_neg (by simp [own])

theorem without_other (other : member.1 ≠ name) :
    without name (member :: members) = member :: without name members :=
  List.filter_cons_of_pos (by simp [other])

theorem valuesAt_eq_nil : valuesAt name members = [] ↔ ∀ member ∈ members, member.1 ≠ name := by
  simp [valuesAt]

theorem without_eq_self (absent : valuesAt name members = []) : without name members = members := by
  rw [valuesAt_eq_nil] at absent
  exact List.filter_eq_self.mpr fun member found => decide_eq_true (absent member found)

theorem valuesAt_without : valuesAt name (without name members) = [] :=
  valuesAt_eq_nil.mpr fun _ found => of_decide_eq_true (List.mem_filter.mp found).2

/-- What is left out under one name is not what stands under another. -/
theorem valuesAt_without_other {other : String} (apart : name ≠ other) :
    valuesAt name (without other members) = valuesAt name members := by
  induction members with
  | nil => rfl
  | cons member members ih =>
    by_cases own : member.1 = other
    · rw [without_own own, ih, valuesAt_other fun same => apart (same.symm.trans own)]
    · rw [without_other own]
      by_cases asked : member.1 = name
      · rw [valuesAt_own asked, valuesAt_own asked, ih]
      · rw [valuesAt_other asked, valuesAt_other asked, ih]

theorem Reading.membersReadable_iff {depth : Nat} :
    Reading.membersReadable depth members = true ↔
      ∀ member ∈ members, member.2.isReadable depth = true := by
  induction members with
  | nil => simp [Reading.membersReadable]
  | cons member members ih =>
    rw [Reading.membersReadable, Bool.and_eq_true, ih, List.forall_mem_cons]

end

namespace Record

variable {ρ σ α β : Type}

/-- These are the names of the record's own members. -/
def Named (r : Record ρ α) (names : List String) : Prop :=
  ∀ source row key value, (r.take source row key value).isSome = true ↔ key ∈ names

theorem named_field (name : String) (decode : Decoder α) (ifMissing ifShort : Option α) :
    (field name decode ifMissing ifShort).Named [name] := by
  intro source row key value
  by_cases own : key = name <;> simp [field, own]

theorem named_defaulted (name : String) (decode : Decoder α) (value : α) :
    (defaulted name decode value).Named [name] := named_field name decode (some value) (some value)

theorem named_optional (name : String) (decode : Decoder α) :
    (optional name decode).Named [name] := named_defaulted name decode.option none

theorem Named.pair {a : Record ρ α} {b : Record σ β} {names more : List String}
    (first : a.Named names) (second : b.Named more) : (a ++ b).Named (names ++ more) := by
  intro source row key value
  rw [List.mem_append, ← first source row.1 key value, ← second source row.2 key value]
  change ((a.pair b).take _ _ _ _).isSome = true ↔ _
  cases taken : a.take source row.1 key value <;> simp [Record.pair, taken]

theorem Named.map {r : Record ρ α} {names : List String} (named : r.Named names) (f : α → β) :
    (r.map f).Named names := named

theorem Named.ignores {r : Record ρ α} {names : List String} (named : r.Named names)
    {key : String} (unknown : key ∉ names) (source : Source) (row : ρ) (value : Reading) :
    r.take source row key value = none := by
  rw [← Option.not_isSome_iff_eq_none, named source row key value]
  exact unknown

/-- Takes a member if it is one of the record's own. -/
def takeOwn (r : Record ρ α) (source : Source) (row : ρ) (member : String × Reading) :
    Except Error ρ := (r.take source row member.1 member.2).getD (.ok row)

/-- The record's own members among these make up the value. -/
def Finds (r : Record ρ α) (source : Source) (members : List (String × Reading)) (x : α) : Prop :=
  ∃ row, members.foldlM (r.takeOwn source) r.blank = .ok row ∧ r.finish row = .ok x

variable {source : Source} {members : List (String × Reading)}

theorem takeMember_iff {r : Record ρ α} {names : List String} (named : r.Named names)
    {row next : ρ} {member : String × Reading} :
    r.takeMember source row member = .ok next ↔
      r.takeOwn source row member = .ok next ∧ (member.1 ∉ names → member.2.isSpelt) := by
  rw [takeMember, takeOwn]
  cases taken : r.take source row member.1 member.2 with
  | some took =>
    have known : member.1 ∈ names := (named source row member.1 member.2).mp (by rw [taken]; rfl)
    simp [known]
  | none =>
    have unknown : member.1 ∉ names := fun known => by
      simpa [taken] using (named source row member.1 member.2).mpr known
    simp only [bind_eq_ok_iff, skip, Option.getD_none, unknown, not_false_eq_true, true_implies]
    by_cases spelt : member.2.isSpelt = true <;> simp [spelt, pure, Except.pure]

theorem foldlM_takeMember_iff {r : Record ρ α} {names : List String} (named : r.Named names)
    {row last : ρ} :
    members.foldlM (r.takeMember source) row = .ok last ↔
      members.foldlM (r.takeOwn source) row = .ok last ∧
        ∀ member ∈ members, member.1 ∉ names → member.2.isSpelt := by
  induction members generalizing row with
  | nil => simp
  | cons member members ih =>
    simp only [List.foldlM_cons, bind_eq_ok_iff, takeMember_iff named, ih, List.forall_mem_cons]
    constructor
    · rintro ⟨next, ⟨took, spelt⟩, rest, allSpelt⟩
      exact ⟨⟨next, took, rest⟩, spelt, allSpelt⟩
    · rintro ⟨⟨next, took, rest⟩, spelt, allSpelt⟩
      exact ⟨next, ⟨took, spelt⟩, rest, allSpelt⟩

/-- A record is read exactly when it finds its value and the other members are spelt. -/
theorem ofMembers_iff {r : Record ρ α} {names : List String} (named : r.Named names) {x : α} :
    r.ofMembers source members true = .ok x ↔
      r.Finds source members x ∧ ∀ member ∈ members, member.1 ∉ names → member.2.isSpelt := by
  rw [ofMembers]
  simp only [if_true, bind_eq_ok_iff, foldlM_takeMember_iff named, Finds]
  constructor
  · rintro ⟨row, ⟨took, spelt⟩, finished⟩
    exact ⟨⟨row, took, finished⟩, spelt⟩
  · rintro ⟨⟨row, took, finished⟩, spelt⟩
    exact ⟨row, ⟨took, spelt⟩, finished⟩

theorem takeOwn_unknown {r : Record ρ α} {names : List String} (named : r.Named names)
    {member : String × Reading} (unknown : member.1 ∉ names) (row : ρ) :
    r.takeOwn source row member = .ok row := by
  rw [takeOwn, named.ignores unknown, Option.getD_none]

section

variable {name : String} {decode : Decoder α} {ifMissing ifShort : Option α} {last : Option α}

theorem takeOwn_field {member : String × Reading} (own : member.1 = name) (row : Option α) :
    (field name decode ifMissing ifShort).takeOwn source row member =
      if row.isSome then .error (.duplicateField name) else some <$> decode source member.2 := by
  simp only [takeOwn, field, own, if_true, Option.getD_some]

theorem takeOwn_field_other {member : String × Reading} (other : member.1 ≠ name)
    (row : Option α) :
    (field name decode ifMissing ifShort).takeOwn source row member = .ok row :=
  takeOwn_unknown (named_field name decode ifMissing ifShort) (by simpa using other) row

/-- A field that has been met is not met again. -/
theorem foldlM_field_some {x : α} :
    members.foldlM ((field name decode ifMissing ifShort).takeOwn source) (some x) = .ok last ↔
      valuesAt name members = [] ∧ last = some x := by
  induction members with
  | nil => simp [valuesAt, pure, Except.pure, eq_comm]
  | cons member members ih =>
    rw [List.foldlM_cons, bind_eq_ok_iff]
    by_cases own : member.1 = name
    · simp [takeOwn_field own, valuesAt_own own]
    · simp [takeOwn_field_other own, valuesAt_other own, ih]

theorem foldlM_field_none :
    members.foldlM ((field name decode ifMissing ifShort).takeOwn source) none = .ok last ↔
      (valuesAt name members = [] ∧ last = none) ∨
      ∃ value x, valuesAt name members = [value] ∧ decode source value = .ok x ∧
        last = some x := by
  induction members with
  | nil => simp [valuesAt, pure, Except.pure, eq_comm]
  | cons member members ih =>
    rw [List.foldlM_cons, bind_eq_ok_iff]
    by_cases own : member.1 = name
    · rw [takeOwn_field own, valuesAt_own own]
      cases decoded : decode source member.2 with
      | error error => simp [decoded, Functor.map, Except.map]
      | ok x =>
        have met : (if (none : Option α).isSome then .error (.duplicateField name)
            else some <$> Except.ok x : Except Error (Option α)) = .ok (some x) := rfl
        simp only [met, Except.ok.injEq, exists_eq_left', foldlM_field_some]
        simp [and_assoc, decoded]
    · simp only [takeOwn_field_other own, valuesAt_other own, Except.ok.injEq, exists_eq_left', ih]

end

/-- A field is found once, or not at all and has a stand-in. -/
theorem finds_field {name : String} {decode : Decoder α} {ifMissing ifShort : Option α} {x : α} :
    (field name decode ifMissing ifShort).Finds source members x ↔
      (valuesAt name members = [] ∧ ifMissing = some x) ∨
      ∃ value, valuesAt name members = [value] ∧ decode source value = .ok x := by
  unfold Finds
  change (∃ row, members.foldlM _ none = _ ∧ _) ↔ _
  simp only [foldlM_field_none]
  constructor
  · rintro ⟨_, ⟨absent, rfl⟩ | ⟨value, y, only, decoded, rfl⟩, finished⟩
    · cases ifMissing with
      | none => cases finished
      | some z =>
        cases finished
        exact .inl ⟨absent, rfl⟩
    · cases finished
      exact .inr ⟨value, only, decoded⟩
  · rintro (⟨absent, rfl⟩ | ⟨value, only, decoded⟩)
    · exact ⟨_, .inl ⟨absent, rfl⟩, rfl⟩
    · exact ⟨_, .inr ⟨value, x, only, decoded, rfl⟩, rfl⟩

theorem finds_map {r : Record ρ α} {f : α → β} {y : β} :
    (r.map f).Finds source members y ↔ ∃ x, r.Finds source members x ∧ f x = y := by
  unfold Finds
  change (∃ row, members.foldlM (r.takeOwn source) r.blank = _ ∧ f <$> r.finish row = _) ↔ _
  constructor
  · rintro ⟨row, took, finished⟩
    cases done : r.finish row with
    | error error =>
      rw [done] at finished
      cases finished
    | ok x =>
      rw [done] at finished
      cases finished
      exact ⟨x, ⟨row, took, done⟩, rfl⟩
  · rintro ⟨x, ⟨row, took, done⟩, rfl⟩
    refine ⟨row, took, ?_⟩
    rw [done]
    rfl

theorem foldlM_pair {a : Record ρ α} {b : Record σ β} {names more : List String}
    (first : a.Named names) (second : b.Named more) (apart : ∀ name ∈ names, name ∉ more)
    {row last : ρ × σ} :
    members.foldlM ((a ++ b).takeOwn source) row = .ok last ↔
      members.foldlM (a.takeOwn source) row.1 = .ok last.1 ∧
        members.foldlM (b.takeOwn source) row.2 = .ok last.2 := by
  induction members generalizing row with
  | nil => simp [pure, Except.pure, Prod.ext_iff]
  | cons member members ih =>
    simp only [List.foldlM_cons, bind_eq_ok_iff, ih]
    have step (next : ρ × σ) : (a ++ b).takeOwn source row member = .ok next ↔
        a.takeOwn source row.1 member = .ok next.1 ∧ b.takeOwn source row.2 member = .ok next.2 := by
      change ((a.pair b).takeOwn source row member) = _ ↔ _
      cases left : a.take source row.1 member.1 member.2 with
      | some took =>
        have known := (first source row.1 member.1 member.2).mp (by rw [left]; rfl)
        have notRight := second.ignores (apart _ known) source row.2 member.2
        cases took <;>
          simp [takeOwn, Record.pair, left, notRight, Prod.ext_iff, pure, Except.pure, bind,
            Except.bind]
      | none =>
        cases right : b.take source row.2 member.1 member.2 with
        | none => simp [takeOwn, Record.pair, left, right, Prod.ext_iff]
        | some took =>
          cases took <;>
            simp [takeOwn, Record.pair, left, right, Prod.ext_iff, pure, Except.pure, bind,
              Except.bind]
    simp only [step, Prod.exists]
    constructor
    · rintro ⟨x, y, ⟨left, right⟩, restLeft, restRight⟩
      exact ⟨⟨x, left, restLeft⟩, y, right, restRight⟩
    · rintro ⟨⟨x, left, restLeft⟩, y, right, restRight⟩
      exact ⟨x, y, ⟨left, right⟩, restLeft, restRight⟩

/-- Records of different names find their values side by side. -/
theorem finds_pair {a : Record ρ α} {b : Record σ β} {names more : List String}
    (first : a.Named names) (second : b.Named more) (apart : ∀ name ∈ names, name ∉ more)
    {x : α} {y : β} :
    (a ++ b).Finds source members (x, y) ↔ a.Finds source members x ∧ b.Finds source members y := by
  unfold Finds
  have finish (row : ρ × σ) : (a ++ b).finish row = .ok (x, y) ↔
      a.finish row.1 = .ok x ∧ b.finish row.2 = .ok y := by
    change (a.pair b).finish row = _ ↔ _
    simp only [Record.pair, bind_eq_ok_iff]
    simp [pure, Except.pure]
  simp only [foldlM_pair first second apart, finish, Prod.exists]
  constructor
  · rintro ⟨left, right, ⟨tookLeft, tookRight⟩, doneLeft, doneRight⟩
    exact ⟨⟨left, tookLeft, doneLeft⟩, right, tookRight, doneRight⟩
  · rintro ⟨⟨left, tookLeft, doneLeft⟩, right, tookRight, doneRight⟩
    exact ⟨left, right, ⟨tookLeft, tookRight⟩, doneLeft, doneRight⟩

/-- Members of other names do not matter. -/
theorem finds_without {r : Record ρ α} {names : List String} (named : r.Named names)
    {name : String} (unknown : name ∉ names) {x : α} :
    r.Finds source (without name members) x ↔ r.Finds source members x := by
  have folded (row : ρ) : (without name members).foldlM (r.takeOwn source) row =
      members.foldlM (r.takeOwn source) row := by
    induction members generalizing row with
    | nil => rfl
    | cons member members ih =>
      by_cases own : member.1 = name
      · rw [without_own own, ih, List.foldlM_cons, takeOwn_unknown named (own ▸ unknown)]
        rfl
      · rw [without_other own, List.foldlM_cons, List.foldlM_cons]
        exact congrArg _ (funext ih)
  rw [Finds, Finds, folded]

/-- An object is read as a record exactly when it is closed, the record finds its value and the
other members are spelt. -/
theorem decoder_iff {r : Record ρ α} {names : List String} (named : r.Named names)
    {inner : Source} (enters : source.enter = .ok inner) {label : String} {ending : Ending} {x : α} :
    r.decoder label source (.object members ending) = .ok x ↔
      ending = .closed ∧ r.Finds inner members x ∧
        ∀ member ∈ members, member.1 ∉ names → member.2.isSpelt := by
  rw [decoder, enters]
  change r.ofMembers inner members (decide (ending = .closed)) = .ok x ↔ _
  by_cases closed : ending = .closed
  · simp only [closed, decide_true, ofMembers_iff named, true_and]
  · simp only [closed, decide_false, false_and, iff_false]
    intro read
    obtain ⟨_, _, failed⟩ := bind_eq_ok_iff.mp read
    cases failed

end Record

namespace Tagged

variable {α : Type} {source : Source} {members : List (String × Reading)}

/-- Once the tag is met, the other members are collected. -/
theorem foldlM_sort_some (t : Tagged α) (variant : Variant α)
    (noTag : valuesAt tagKey members = [])
    (held : ∀ member ∈ members, source.hold member.2 = .ok member.2)
    (reversed : List (String × Reading)) :
    members.foldlM (t.sort source) ⟨some variant, reversed⟩ =
      .ok ⟨some variant, members.reverse ++ reversed⟩ := by
  induction members generalizing reversed with
  | nil => rfl
  | cons member members ih =>
    have other : member.1 ≠ tagKey := by
      intro own
      rw [valuesAt_own own] at noTag
      cases noTag
    rw [valuesAt_other other] at noTag
    have rest := ih noTag fun later found => held later (List.mem_cons_of_mem _ found)
    rw [List.foldlM_cons, sort, if_neg other, held member (List.mem_cons_self ..)]
    refine (rest _).trans ?_
    rw [List.reverse_cons, List.append_assoc]
    rfl

/-- Members with a tag among them are sorted into the variant and the others. -/
theorem foldlM_sort_none (t : Tagged α) {tag : Reading} {variant : Variant α}
    (single : valuesAt tagKey members = [tag]) (named : t.ofTag source tag = .ok variant)
    (held : ∀ member ∈ without tagKey members, source.hold member.2 = .ok member.2)
    (reversed : List (String × Reading)) :
    members.foldlM (t.sort source) ⟨none, reversed⟩ =
      .ok ⟨some variant, (without tagKey members).reverse ++ reversed⟩ := by
  induction members generalizing reversed with
  | nil => cases single
  | cons member members ih =>
    by_cases own : member.1 = tagKey
    · rw [valuesAt_own own] at single
      obtain ⟨rfl, noMore⟩ := List.cons.inj single
      rw [without_own own, without_eq_self noMore] at held ⊢
      rw [List.foldlM_cons, sort, if_pos own, named]
      exact t.foldlM_sort_some variant noMore held reversed
    · rw [valuesAt_other own] at single
      rw [without_other own] at held ⊢
      have rest := ih single fun later found => held later (List.mem_cons_of_mem _ found)
      rw [List.foldlM_cons, sort, if_neg own, held member (List.mem_cons_self ..)]
      refine (rest _).trans ?_
      rw [List.reverse_cons, List.append_assoc]
      rfl

/-- A union is read by the variant that its tag names, wherever the tag stands. -/
theorem ofMembers_tag (t : Tagged α) {tag : Reading} {variant : Variant α}
    (single : valuesAt tagKey members = [tag]) (named : t.ofTag source tag = .ok variant)
    (held : ∀ member ∈ without tagKey members, source.hold member.2 = .ok member.2) :
    t.ofMembers source members true = variant.read (.members (without tagKey members)) := by
  have sorted := t.foldlM_sort_none single named held []
  rw [List.append_nil] at sorted
  rw [ofMembers]
  change (members.foldlM (t.sort source) ⟨none, []⟩ >>= _) = _
  rw [sorted]
  change variant.read (.members (without tagKey members).reverse.reverse) = _
  rw [List.reverse_reverse]

/-- A union whose first member is its tag leaves the other members to the variant. -/
theorem ofMembers_tagFirst (t : Tagged α) {tag : Reading} {variant : Variant α}
    (named : t.ofTag source tag = .ok variant) (single : ∀ member ∈ members, member.1 ≠ tagKey)
    (held : ∀ member ∈ members, source.hold member.2 = .ok member.2) :
    t.ofMembers source ((tagKey, tag) :: members) true = variant.read (.members members) := by
  have noMore : valuesAt tagKey members = [] := valuesAt_eq_nil.mpr single
  have tagged : valuesAt tagKey ((tagKey, tag) :: members) = tag :: valuesAt tagKey members :=
    valuesAt_own rfl
  have others : without tagKey ((tagKey, tag) :: members) = without tagKey members := without_own rfl
  rw [noMore] at tagged
  rw [without_eq_self noMore] at others
  rw [t.ofMembers_tag tagged named (by rw [others]; exact held), others]

theorem decoder_tagFirst (t : Tagged α) {inner : Source} (enters : source.enter = .ok inner)
    {tag : Reading} {variant : Variant α} {x : α} (named : t.ofTag inner tag = .ok variant)
    (single : ∀ member ∈ members, member.1 ≠ tagKey)
    (held : ∀ member ∈ members, inner.hold member.2 = .ok member.2)
    (reads : variant.read (.members members) = .ok x) :
    t.decoder source (.object ((tagKey, tag) :: members) .closed) = .ok x := by
  rw [decoder, enters]
  exact (t.ofMembers_tagFirst named single held).trans reads

end Tagged

end ChatGateway.Json
