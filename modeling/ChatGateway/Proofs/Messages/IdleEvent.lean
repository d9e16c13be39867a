import ChatGateway.Proofs.Messages.Envelope

/-!
Events that nobody asked for. Whatever else they hold, their tag makes them events without content;
a report beside them counts for nothing as long as it says nothing.
-/
namespace ChatGateway.Messages

open Json (Reading Record Source valuesAt without)

/-- What stands for a report that says nothing. -/
def Fault.Blank : Reading → Prop
  | .null => True
  | .object members ending =>
    ending = .closed ∧ (valuesAt "type" members = [] ∨ valuesAt "type" members = [.string ""]) ∧
      (valuesAt "message" members = [] ∨ valuesAt "message" members = [.string ""]) ∧
      ∀ member ∈ members, member.1 ∉ ["type", "message"] → member.2.isSpelt = true
  | .array items closed =>
    closed = true ∧ items.length ≤ 2 ∧ ∀ item ∈ items, item = .string ""
  | _ => False

/-- A text that is missing or empty is found empty. -/
theorem finds_empty {depth : Nat} {name : String} {members : List (String × Reading)}
    (blank : valuesAt name members = [] ∨ valuesAt name members = [.string ""]) :
    (Record.defaulted name .string "").Finds (.text depth) members "" := by
  refine Record.finds_field.mpr ?_
  rcases blank with absent | empty
  · exact .inl ⟨absent, rfl⟩
  · exact .inr ⟨_, empty, rfl⟩

theorem Fault.blank_decodes {value : Reading} (blank : Fault.Blank value) (depth : Nat) :
    ∃ error, Fault.decoder.option (.text (depth + 1)) value = .ok error ∧ NothingReported error := by
  have reads (fault : Except Json.Error Fault) (same : fault = .ok {}) :
      ∃ error, some <$> fault = .ok error ∧ NothingReported error := by
    refine ⟨some {}, by rw [same]; rfl, ?_⟩
    rintro _ ⟨⟩
    exact ⟨rfl, rfl⟩
  match value, blank with
  | .null, _ => exact ⟨none, rfl, fun _ found => by cases found⟩
  | .object members ending, ⟨closed, kind, message, spelt⟩ =>
    have named := (Record.named_defaulted "type" .string "").pair
      (Record.named_defaulted "message" .string "")
    have enters : Source.enter (.text (depth + 1)) = .ok (.text depth) := rfl
    refine reads _ ((Record.decoder_iff (named.map _) enters).mpr
      ⟨closed, Record.finds_map.mpr ⟨("", ""), ?_, rfl⟩, spelt⟩)
    exact (Record.finds_pair (Record.named_defaulted _ _ _) (Record.named_defaulted _ _ _)
      (by decide)).mpr ⟨finds_empty kind, finds_empty message⟩
  | .array [] true, _ => exact reads _ rfl
  | .array [kind] true, ⟨_, _, empty⟩ =>
    obtain rfl := empty kind (by simp)
    exact reads _ rfl
  | .array [kind, message] true, ⟨_, _, empty⟩ =>
    obtain rfl := empty kind (by simp)
    obtain rfl := empty message (by simp)
    exact reads _ rfl
  | .array (_ :: _ :: _ :: _) _, ⟨_, short, _⟩ => exact absurd short (by simp)

/-- The tags that a stream is made of. -/
def knownTags : List String :=
  ["message_start", "content_block_delta", "message_delta", "message_stop"]

/-- Any other tag is that of an event without content. -/
theorem ofTag_unknown {tag : String} (unknown : tag ∉ knownTags) :
    ∃ variant event, Event.union.ofTag .copy (.string tag) = .ok variant ∧
      (∀ members, variant.read (.members members) = .ok event) ∧
      (event = .error ∨ event = .other) := by
  simp only [knownTags, List.mem_cons, List.not_mem_nil, or_false, not_or] at unknown
  obtain ⟨noStart, noDelta, noEnding, noStop⟩ := unknown
  by_cases failure : tag = "error"
  · exact ⟨.bare "error" .error, .error, by rw [failure]; rfl, fun _ => rfl, .inl rfl⟩
  · have missing : Event.union.variants.find? (·.tag = tag) = none := by
      simp [Event.union, Json.Variant.fields, Json.Variant.bare, Ne.symm noStart, Ne.symm noDelta,
        Ne.symm noEnding, Ne.symm noStop, Ne.symm failure]
    refine ⟨.bare "other" .other, .other, ?_, fun _ => rfl, .inr rfl⟩
    simp only [Json.Tagged.ofTag, missing]
    rfl

/-- An event of another kind, which may have any other members, and no failure beside it. -/
structure IdleEvent (members : List (String × Reading)) : Prop where
  kind : ∃ tag, valuesAt "type" members = [.string tag] ∧ tag ∉ knownTags
  error : valuesAt "error" members = [] ∨
    ∃ value, valuesAt "error" members = [value] ∧ Fault.Blank value
  readable : ∀ member ∈ without "error" members,
    member.2.isReadable (Json.nestingLimit - 1) = true

theorem IdleEvent.decodes {members : List (String × Reading)} (idle : IdleEvent members) :
    ∃ envelope, Envelope.decoder (.text Json.nestingLimit) (.object members .closed) = .ok envelope ∧
      NothingReported envelope.error ∧ (envelope.event = .error ∨ envelope.event = .other) := by
  obtain ⟨⟨tag, single, unknown⟩, reported, readable⟩ := idle
  have carries : ∃ error, Carries (.text 126) members error ∧ NothingReported error := by
    rcases reported with absent | ⟨value, there, blank⟩
    · exact ⟨none, .inl ⟨absent, rfl⟩, fun _ found => by cases found⟩
    · obtain ⟨error, decoded, nothing⟩ := Fault.blank_decodes blank 125
      exact ⟨error, .inr ⟨value, there, decoded⟩, nothing⟩
  have event : ∃ event, Event.union.ofMembers .copy (without "error" members) true = .ok event ∧
      (event = .error ∨ event = .other) := by
    obtain ⟨variant, event, named, read, idle⟩ := ofTag_unknown unknown
    have tagged : valuesAt Json.Tagged.tagKey (without "error" members) = [.string tag] := by
      rw [Json.valuesAt_without_other (by decide)]
      exact single
    refine ⟨event, ?_, idle⟩
    rw [Event.union.ofMembers_tag tagged named fun _ _ => rfl, read]
  obtain ⟨error, carries, nothing⟩ := carries
  obtain ⟨event, said, idle⟩ := event
  exact ⟨⟨event, error⟩, Envelope.decoder_iff.mpr ⟨rfl, carries, readable, said⟩, nothing, idle⟩

end ChatGateway.Messages
