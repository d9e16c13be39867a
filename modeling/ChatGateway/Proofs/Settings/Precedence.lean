import ChatGateway.CommandLine
import ChatGateway.Proofs.Json.Members
import ChatGateway.Proofs.Settings.Keys

/-!
Which layer a setting comes from. A key has the value of its variable, else that of the file, else
its default, whatever the other keys have; and the command line, or a variable that stands in for
it, goes before them all for the host and the port.
-/
namespace ChatGateway.Settings

open CommandLine (Opt)
open Json (bind_eq_ok_iff lookup_eq_none)

/-- A section of a file: known keys of it, with values of their kinds. -/
def IsSection (entry : String × Value) : Prop :=
  entry.1 ∈ groups ∧ ∃ members, entry.2 = .table members ∧
    ∀ member ∈ members, ∃ key : Key, key.group = entry.1 ∧ key.name = member.1 ∧
      (key.kind.convert member.2).isSome

/-- What a file sets: nothing if there is none, and else what the sections of its document do. -/
inductive Sets : Option String → List (String × Value) → Prop where
  | missing : Sets none []
  | document {text : String} {document : List (String × Value)}
      (read : Toml.ofText? (documentOf text) = some document)
      (known : ∀ entry ∈ document, IsSection entry) :
      Sets (some text) document

/-- A variable that can be read: that of a known key with a value of its kind, one of the command
line, or none of this program's. -/
def IsVariable (entry : String × String) : Prop :=
  (∃ key : Key, entry.1 = key.variableName ∧ (key.kind.convert (.text entry.2)).isSome) ∨
    entry.1 ∈ Opt.all.map Opt.variableName ∨ keyOfVariable? entry.1 = none

/-- Variables that can be read; every one is set once. -/
structure Readable (vars : Variables) : Prop where
  distinct : (vars.map Prod.fst).Nodup
  known : ∀ entry ∈ vars, IsVariable entry

/-! ## The file -/

theorem path_of_group {group : String} (known : group ∈ groups) : pathOf group = [.key group] := by
  simp only [groups, List.mem_cons, List.not_mem_nil, or_false] at known
  rcases known with rfl | rfl | rfl | rfl | rfl <;> decide +kernel

theorem lower_of_group {group : String} (known : group ∈ groups) : Text.lower group = group := by
  simp only [groups, List.mem_cons, List.not_mem_nil, or_false] at known
  rcases known with rfl | rfl | rfl | rfl | rfl <;> rfl

/-- Sets what an entry of a document sets. -/
def addEntry (root : Value) (entry : String × Value) : Value :=
  Value.setAt entry.2 (pathOf entry.1) root

variable {root : Value} {document : List (String × Value)} {vars : Variables}

theorem addEntry_section {entry : String × Value} (known : IsSection entry)
    (sectioned : root.Sectioned) :
    (addEntry root entry).Sectioned ∧ ∀ key : Key, (addEntry root entry).atKey? key =
      (lastIn key.group key.name [entry]).or (root.atKey? key) := by
  obtain ⟨group, value⟩ := entry
  obtain ⟨grouped, members, rfl, keys⟩ := known
  have lower := lower_of_group grouped
  have names : ∀ member ∈ members, Text.lower member.1 = member.1 := by
    intro member there
    obtain ⟨key, _, own, _⟩ := keys member there
    rw [← own, key.lower_name]
  have leaves : ∀ member ∈ members, member.2.IsLeaf := by
    intro member there
    obtain ⟨key, _, _, converts⟩ := keys member there
    exact Kind.leaf_of_convert converts
  rw [addEntry, path_of_group grouped]
  refine ⟨Value.sectioned_setAt_section lower grouped sectioned, fun key => ?_⟩
  rw [Value.atKey?, Value.at?_setAt_section lower grouped sectioned names leaves, lastIn,
    List.flatMap_singleton]
  rfl

/-- The sections of a document are set one after another. -/
theorem document_atKey (known : ∀ entry ∈ document, IsSection entry) (sectioned : root.Sectioned) :
    (document.foldl addEntry root).Sectioned ∧ ∀ key : Key,
      (document.foldl addEntry root).atKey? key =
        (lastIn key.group key.name document).or (root.atKey? key) := by
  induction document generalizing root with
  | nil => exact ⟨sectioned, fun key => rfl⟩
  | cons entry rest ih =>
    rw [List.forall_mem_cons] at known
    obtain ⟨first, set⟩ := addEntry_section known.1 sectioned
    obtain ⟨after, more⟩ := ih known.2 first
    refine ⟨after, fun key => ?_⟩
    have split : lastIn key.group key.name (entry :: rest) =
        (lastIn key.group key.name rest).or (lastIn key.group key.name [entry]) := by
      rw [lastIn, List.flatMap_cons, lastAt_append, lastIn, lastIn, List.flatMap_singleton]
    rw [List.foldl_cons, more, set, split, Option.or_assoc]

/-- A file sets what its document says last. -/
theorem addFile_atKey {file : Option String} (sets : Sets file document)
    (sectioned : root.Sectioned) :
    ∃ after, addFile root file = .ok after ∧ after.Sectioned ∧ ∀ key : Key,
      after.atKey? key = (lastIn key.group key.name document).or (root.atKey? key) := by
  cases sets with
  | missing => exact ⟨root, rfl, sectioned, fun key => rfl⟩
  | document read known =>
    refine ⟨document.foldl addEntry root, ?_, document_atKey known sectioned⟩
    rw [addFile, read]
    rfl

/-! ## The variables -/

/-- The variables of the command line set what nobody looks at. -/
theorem path_of_option (option : Opt) :
    ∃ name, (keyOfVariable? option.variableName).map pathOf = some [.key name] ∧
      Text.lower name = name ∧ name ∉ groups := by
  cases option with
  | config => exact ⟨"config", by decide +kernel, rfl, by decide⟩
  | host => exact ⟨"host", by decide +kernel, rfl, by decide⟩
  | portNumber => exact ⟨"port", by decide +kernel, rfl, by decide⟩

theorem option_ne (option : Opt) (key : Key) : option.variableName ≠ key.variableName := by
  intro same
  obtain ⟨_, path, _⟩ := path_of_option option
  have own := key.path_of_variable
  rw [← same, path] at own
  cases own

theorem foreign_ne {name : String} (foreign : keyOfVariable? name = none) (key : Key) :
    name ≠ key.variableName := by
  rintro rfl
  have own := key.path_of_variable
  rw [foreign] at own
  cases own

/-- A variable sets its own key and no other. -/
theorem addVariable_atKey {entry : String × String} (known : IsVariable entry)
    (sectioned : root.Sectioned) :
    (addVariable root entry).Sectioned ∧ ∀ key : Key, (addVariable root entry).atKey? key =
      if entry.1 = key.variableName then some (.text entry.2) else root.atKey? key := by
  obtain ⟨variable', text⟩ := entry
  have leaf : (Value.text text).IsLeaf := nofun
  rcases known with ⟨own, rfl, _⟩ | listed | foreign
  · obtain ⟨_, found, path⟩ := Option.map_eq_some_iff.mp own.path_of_variable
    rw [addVariable, found]
    dsimp only
    rw [path]
    refine ⟨Value.sectioned_setAt_leaf leaf own.lower_group own.lower_name own.group_known sectioned,
      fun key => ?_⟩
    have same : key.group = own.group ∧ key.name = own.name ↔ own.variableName = key.variableName :=
      ⟨fun ⟨group, name⟩ => by rw [Key.eq_of_place group name],
        fun same => by rw [Key.eq_of_variable same]; exact ⟨rfl, rfl⟩⟩
    rw [Value.atKey?, Value.at?_setAt_leaf leaf own.lower_group own.lower_name own.group_known
      sectioned]
    simp only [same]
    rfl
  · obtain ⟨option, _, rfl⟩ := List.mem_map.mp listed
    obtain ⟨name, path, lower, stray⟩ := path_of_option option
    obtain ⟨_, found, path⟩ := Option.map_eq_some_iff.mp path
    rw [addVariable, found]
    dsimp only
    rw [path]
    refine ⟨Value.sectioned_setAt_stray lower stray sectioned, fun key => ?_⟩
    rw [Value.atKey?, Value.at?_setAt_stray lower stray key.group_known,
      if_neg (option_ne option key)]
    rfl
  · rw [addVariable, foreign]
    exact ⟨sectioned, fun key => (if_neg (foreign_ne foreign key)).symm⟩

/-- What a variable is set to. -/
def valueOf? (vars : Variables) (name : String) : Option Value := (vars.lookup name).map .text

/-- The variables are set one after another. -/
theorem variables_atKey (readable : Readable vars) (sectioned : root.Sectioned) :
    (vars.foldl addVariable root).Sectioned ∧ ∀ key : Key,
      (vars.foldl addVariable root).atKey? key =
        (valueOf? vars key.variableName).or (root.atKey? key) := by
  induction vars generalizing root with
  | nil => exact ⟨sectioned, fun key => rfl⟩
  | cons entry rest ih =>
    obtain ⟨distinct, known⟩ := readable
    rw [List.map_cons, List.nodup_cons] at distinct
    rw [List.forall_mem_cons] at known
    obtain ⟨first, set⟩ := addVariable_atKey known.1 sectioned
    obtain ⟨after, more⟩ := ih ⟨distinct.2, known.2⟩ first
    refine ⟨after, fun key => ?_⟩
    rw [List.foldl_cons, more, set, valueOf?, valueOf?, List.lookup_cons]
    by_cases own : entry.1 = key.variableName
    · have noMore : rest.lookup key.variableName = none := lookup_eq_none.mpr (own ▸ distinct.1)
      rw [if_pos own, noMore, own, beq_self_eq_true]
      rfl
    · rw [if_neg own, beq_false_of_ne (Ne.symm own)]

/-! ## Both -/

theorem variable_converts (readable : Readable vars) {key : Key} {text : String}
    (given : vars.lookup key.variableName = some text) :
    (key.kind.convert (.text text)).isSome := by
  rcases readable.known _ (Json.mem_of_lookup given) with ⟨own, same, converts⟩ | listed | foreign
  · obtain rfl := Key.eq_of_variable same
    exact converts
  · obtain ⟨option, _, same⟩ := List.mem_map.mp listed
    exact absurd same (option_ne option key)
  · exact absurd rfl (foreign_ne foreign key)

theorem file_converts {file : Option String} (sets : Sets file document) {key : Key} {value : Value}
    (given : lastIn key.group key.name document = some value) : (key.kind.convert value).isSome := by
  cases sets with
  | missing => cases given
  | document _ known =>
    obtain ⟨entry, there, grouped, member⟩ := mem_of_lastIn given
    obtain ⟨_, members, table, keys⟩ := known entry there
    rw [table] at member
    obtain ⟨own, group, name, converts⟩ := keys _ member
    obtain rfl := Key.eq_of_place (group.trans grouped) name
    exact converts

/-- A setting comes from the variable of its key, else from the file, else it is the default. -/
structure Key.Layered (vars : Variables) (document : List (String × Value)) (settings : Settings)
    (key : Key) : Prop where
  fromVariable : ∀ text, vars.lookup key.variableName = some text →
    key.kind.convert (.text text) = some (key.get settings)
  fromFile : vars.lookup key.variableName = none →
    ∀ value, lastIn key.group key.name document = some value →
      key.kind.convert value = some (key.get settings)
  byDefault : vars.lookup key.variableName = none → lastIn key.group key.name document = none →
    key.get settings = key.absent ((vars.lookup "ANTHROPIC_API_KEY").getD "")

/-- Settings are read, every one from its own layers. -/
theorem read_layered (readable : Readable vars) {file : Option String} (sets : Sets file document) :
    ∃ settings, read vars file = .ok settings ∧ ∀ key : Key, key.Layered vars document settings := by
  obtain ⟨withFile, added, filed, atFile⟩ := addFile_atKey sets (sectioned_toValue (defaults vars))
  obtain ⟨sectioned, atVariables⟩ := variables_atKey readable filed
  have given (key : Key) : ∃ value, (vars.foldl addVariable withFile).atKey? key = some value ∧
      (key.kind.convert value).isSome := by
    rw [atVariables, atFile, valueOf?]
    cases set : vars.lookup key.variableName with
    | some text => exact ⟨_, rfl, variable_converts readable set⟩
    | none =>
      cases filed : lastIn key.group key.name document with
      | some value => exact ⟨_, rfl, file_converts sets filed⟩
      | none =>
        obtain ⟨value, there, converts⟩ := toValue_atKey (defaults vars) key
        exact ⟨value, there, by rw [converts]; rfl⟩
  obtain ⟨settings, done, reads⟩ := ofValue_keys sectioned given (defaults vars)
  refine ⟨settings, ?_, fun key => ⟨fun text set => ?_, fun unset value filed => ?_,
    fun unset unfiled => ?_⟩⟩
  · rw [read, added]
    exact done
  · refine reads key _ ?_
    rw [atVariables, valueOf?, set]
    rfl
  · refine reads key _ ?_
    rw [atVariables, atFile, valueOf?, unset, filed]
    rfl
  · obtain ⟨value, there, converts⟩ := toValue_atKey (defaults vars) key
    have own : key.kind.convert value = some (key.get settings) := by
      refine reads key _ ?_
      rw [atVariables, atFile, valueOf?, unset, unfiled]
      exact there
    rw [own, Option.some.injEq] at converts
    rw [converts, defaults, Key.get_base]

end ChatGateway.Settings
