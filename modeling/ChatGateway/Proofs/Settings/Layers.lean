import ChatGateway.Settings.Load

/-!
Layers of values. A table of sections is looked at key by key: `Value.at?` is what stands under a
key of a section. A value set at a key, or a section set from a table of values, changes just the
keys that are set.
-/
namespace ChatGateway.Settings

/-- The sections. -/
def groups : List String := ["server", "claude", "streaming", "vision", "logging"]

/-- What a list of members says last under a name. -/
def lastAt (name : String) (members : List (String × Value)) : Option Value :=
  ((members.filter (·.1 = name)).getLast?).map Prod.snd

/-- What a document says last under a key of a section. -/
def lastIn (group name : String) (document : List (String × Value)) : Option Value :=
  lastAt name (document.flatMap fun entry => if entry.1 = group then entry.2.members else [])

theorem lastAt_append (name : String) (members more : List (String × Value)) :
    lastAt name (members ++ more) = (lastAt name more).or (lastAt name members) := by
  simp only [lastAt, List.filter_append, List.getLast?_append]
  cases (List.filter (fun entry => decide (entry.1 = name)) more).getLast? <;> rfl

theorem lastAt_cons (name : String) (member : String × Value) (rest : List (String × Value)) :
    lastAt name (member :: rest) =
      (lastAt name rest).or (if member.1 = name then some member.2 else none) := by
  rw [← List.singleton_append, lastAt_append]
  by_cases own : member.1 = name <;> simp [lastAt, own]

theorem mem_of_lastAt {name : String} {members : List (String × Value)} {value : Value}
    (last : lastAt name members = some value) : (name, value) ∈ members := by
  obtain ⟨member, found, rfl⟩ := Option.map_eq_some_iff.mp last
  obtain ⟨there, own⟩ := List.mem_filter.mp (List.mem_of_getLast? found)
  rw [← of_decide_eq_true own]
  exact there

theorem mem_of_lastIn {group name : String} {document : List (String × Value)} {value : Value}
    (last : lastIn group name document = some value) :
    ∃ entry ∈ document, entry.1 = group ∧ (name, value) ∈ entry.2.members := by
  obtain ⟨entry, there, member⟩ := List.mem_flatMap.mp (mem_of_lastAt last)
  by_cases own : entry.1 = group
  · rw [if_pos own] at member
    exact ⟨entry, there, own, member⟩
  · rw [if_neg own] at member
    cases member

namespace Value

/-- What stands under a key of a section. -/
def at? (root : Value) (group name : String) : Option Value :=
  (root.members.lookup group).bind fun table => table.members.lookup name

/-- No table, so that it takes the place of what is there. -/
def IsLeaf (value : Value) : Prop := ∀ ms, value ≠ .table ms

theorem merge_leaf {value : Value} (leaf : value.IsLeaf) (there : Option Value) :
    merge there value = value := by
  cases value with
  | table ms => exact absurd rfl (leaf ms)
  | nothing | boolean | integer | float | text | list => rfl

theorem lookup_put (key name : String) (value : Value) (ms : List (String × Value)) :
    (put key value ms).lookup name = if name = key then some value else ms.lookup name := by
  induction ms with
  | nil =>
    rw [put, List.lookup_cons, List.lookup_nil]
    by_cases own : name = key
    · rw [if_pos own, own, beq_self_eq_true]
    · rw [if_neg own, beq_false_of_ne own]
  | cons member rest ih =>
    rw [put]
    by_cases there : member.1 = key
    · rw [if_pos there]
      by_cases own : name = key
      · simp [own]
      · have other : name ≠ member.1 := fun same => own (same.trans there)
        rw [if_neg own, List.lookup_cons, List.lookup_cons, beq_false_of_ne own,
          beq_false_of_ne other]
    · rw [if_neg there, List.lookup_cons, List.lookup_cons, ih]
      by_cases own : name = key
      · have other : name ≠ member.1 := fun same => there (same.symm.trans own)
        rw [beq_false_of_ne other, if_pos own]
      · rw [if_neg own, if_neg own]

/-- Leaves under names in lower case are set one after another. -/
theorem mergeMembers_leaves {entries : List (String × Value)}
    (lower : ∀ entry ∈ entries, Text.lower entry.1 = entry.1)
    (leaves : ∀ entry ∈ entries, entry.2.IsLeaf) (there : Value) (name : String) :
    (mergeMembers there entries).members.lookup name =
      (lastAt name entries).or (there.members.lookup name) := by
  induction entries generalizing there with
  | nil => rfl
  | cons entry rest ih =>
    obtain ⟨key, value⟩ := entry
    rw [List.forall_mem_cons] at lower leaves
    rw [mergeMembers, ih lower.2 leaves.2, lower.1, merge_leaf leaves.1, lastAt_cons, Option.or_assoc]
    change _ = (lastAt name rest).or ((if key = name then some value else none).or _)
    rw [members, lookup_put]
    by_cases own : name = key
    · rw [if_pos own, if_pos own.symm]
      rfl
    · rw [if_neg own, if_neg fun same => own same.symm]
      rfl

/-- Setting members leaves a table a table. -/
theorem mergeMembers_table (entries ms : List (String × Value)) :
    ∃ after, mergeMembers (.table ms) entries = .table after := by
  induction entries generalizing ms with
  | nil => exact ⟨ms, rfl⟩
  | cons entry rest ih => exact ih _

/-! ## Sections -/

/-- In the table every section is a table. -/
def Sectioned (root : Value) : Prop :=
  ∀ group ∈ groups, ∃ ms, root.members.lookup group = some (.table ms)

/-- A new table under a section's name, or any value under another one, keeps the sections. -/
theorem Sectioned.put {root value : Value} {name : String} (sectioned : root.Sectioned)
    (stays : name ∈ groups → ∃ ms, value = .table ms) :
    Sectioned (.table (Value.put name value root.members)) := by
  intro group known
  change ∃ ms, (Value.put name value root.members).lookup group = _
  rw [lookup_put]
  by_cases own : group = name
  · obtain ⟨ms, rfl⟩ := stays (own ▸ known)
    exact ⟨ms, if_pos own⟩
  · rw [if_neg own]
    exact sectioned group known

/-- What stands in other sections than the one that is put stays. -/
theorem at?_put (root value : Value) (name group key : String) :
    at? (.table (put name value root.members)) group key =
      if group = name then value.members.lookup key else root.at? group key := by
  rw [at?, members, lookup_put]
  by_cases own : group = name
  · rw [if_pos own, if_pos own]
    rfl
  · rw [if_neg own, if_neg own]
    rfl

section

variable {root : Value} {group : String} {entries : List (String × Value)}

theorem setAt_section (lower : Text.lower group = group) {there : List (String × Value)}
    (section' : root.members.lookup group = some (.table there)) :
    setAt (.table entries) [.key group] root =
      .table (put group (mergeMembers (.table there) entries) root.members) := by
  rw [setAt, lower, section', merge]
  rfl

/-- A table that is set at a section sets just its keys there. -/
theorem at?_setAt_section (lower : Text.lower group = group) (known : group ∈ groups)
    (sectioned : root.Sectioned) (names : ∀ entry ∈ entries, Text.lower entry.1 = entry.1)
    (leaves : ∀ entry ∈ entries, entry.2.IsLeaf) (other key : String) :
    at? (setAt (.table entries) [.key group] root) other key =
      (lastAt key (if group = other then entries else [])).or (root.at? other key) := by
  obtain ⟨there, found⟩ := sectioned group known
  rw [setAt_section lower found, at?_put, mergeMembers_leaves names leaves]
  by_cases own : other = group
  · subst own
    rw [if_pos rfl, if_pos rfl, at?, found]
    rfl
  · rw [if_neg own, if_neg fun same => own same.symm]
    rfl

theorem sectioned_setAt_section (lower : Text.lower group = group) (known : group ∈ groups)
    (sectioned : root.Sectioned) : Sectioned (setAt (.table entries) [.key group] root) := by
  obtain ⟨there, found⟩ := sectioned group known
  rw [setAt_section lower found]
  exact sectioned.put fun _ => mergeMembers_table entries there

end

section

variable {root value : Value} {group name : String}

theorem setAt_leaf (leaf : value.IsLeaf) (lowerGroup : Text.lower group = group)
    (lowerName : Text.lower name = name) {there : List (String × Value)}
    (found : root.members.lookup group = some (.table there)) :
    setAt value [.key group, .key name] root =
      .table (put group (.table (put name value there)) root.members) := by
  rw [setAt, lowerGroup, found, Option.getD_some, setAt, lowerName, merge_leaf leaf]
  · rfl
  · rintro ⟨⟩

/-- A value that is set at a key is all that is there then, and nothing else changes. -/
theorem at?_setAt_leaf (leaf : value.IsLeaf) (lowerGroup : Text.lower group = group)
    (lowerName : Text.lower name = name) (known : group ∈ groups) (sectioned : root.Sectioned)
    (other key : String) :
    at? (setAt value [.key group, .key name] root) other key =
      if other = group ∧ key = name then some value else root.at? other key := by
  obtain ⟨there, found⟩ := sectioned group known
  rw [setAt_leaf leaf lowerGroup lowerName found, at?_put, members, lookup_put]
  by_cases own : other = group
  · subst own
    by_cases asked : key = name
    · rw [if_pos rfl, if_pos asked, if_pos ⟨rfl, asked⟩]
    · rw [if_pos rfl, if_neg asked, if_neg fun both => asked both.2, at?, found]
      rfl
  · rw [if_neg own, if_neg fun both => own both.1]

theorem sectioned_setAt_leaf (leaf : value.IsLeaf) (lowerGroup : Text.lower group = group)
    (lowerName : Text.lower name = name) (known : group ∈ groups) (sectioned : root.Sectioned) :
    Sectioned (setAt value [.key group, .key name] root) := by
  obtain ⟨there, found⟩ := sectioned group known
  rw [setAt_leaf leaf lowerGroup lowerName found]
  exact sectioned.put fun _ => ⟨_, rfl⟩

/-- A value of its own name, which is no section's, is not looked at. -/
theorem at?_setAt_stray (lower : Text.lower name = name) (stray : name ∉ groups) (known : group ∈ groups)
    (key : String) : at? (setAt value [.key name] root) group key = root.at? group key := by
  have other : group ≠ name := fun same => stray (same ▸ known)
  rw [setAt, lower, at?_put, if_neg other]

theorem sectioned_setAt_stray (lower : Text.lower name = name) (stray : name ∉ groups)
    (sectioned : root.Sectioned) : Sectioned (setAt value [.key name] root) := by
  rw [setAt, lower]
  exact sectioned.put fun known => absurd known stray

end

end Value

end ChatGateway.Settings
