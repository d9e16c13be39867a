import ChatGateway.Proofs.Json.Members
import ChatGateway.Proofs.Json.RoundTrip

/-!
Texts of which one leaves out members of the other. Only what the texts say is compared, so they may
differ in their layout too; the compact text of every object has such a text beside it.
-/
namespace ChatGateway.Json

/-- Both texts say the same object, except that the second one has no member of this name. -/
def Omits (name : String) (text other : List Char) : Prop :=
  ∃ members ending alone, Document.ofChars text = ⟨.object members ending, alone⟩ ∧
    Document.ofChars other = ⟨.object (without name members) ending, alone⟩

/-- A text is decoded when its value is and nothing follows it. -/
theorem decodeChars_iff {α : Type} {decode : Decoder α} {text : List Char} {x : α} :
    decodeChars decode text = .ok x ↔
      decode (.text nestingLimit) (Document.ofChars text).root = .ok x ∧
        (Document.ofChars text).alone = true := by
  rw [decodeChars]
  simp only [bind_eq_ok_iff]
  by_cases alone : (Document.ofChars text).alone = true <;>
    simp [alone, pure, Except.pure, throw, throwThe, MonadExceptOf.throw]

/-- A decoder that can do without a name can do without it in a text. -/
theorem Omits.decodeChars {α : Type} {decode : Decoder α} {name : String} {text other : List Char}
    {x y : α} (omits : Omits name text other) (decoded : decodeChars decode text = .ok x)
    (without_ok : ∀ members ending, decode (.text nestingLimit) (.object members ending) = .ok x →
      decode (.text nestingLimit) (.object (without name members) ending) = .ok y) :
    Json.decodeChars decode other = .ok y := by
  obtain ⟨members, ending, alone, read, readOther⟩ := omits
  rw [decodeChars_iff, read] at decoded
  rw [decodeChars_iff, readOther]
  exact ⟨without_ok members ending decoded.1, decoded.2⟩

theorem membersRegular_filter (keep : String × Json → Bool) {members : List (String × Json)}
    (regular : membersRegular members = true) : membersRegular (members.filter keep) = true := by
  induction members with
  | nil => rfl
  | cons member members ih =>
    rw [membersRegular, Bool.and_eq_true] at regular
    cases kept : keep member with
    | true => rw [List.filter_cons_of_pos kept, membersRegular, regular.1, ih regular.2, Bool.and_self]
    | false => rw [List.filter_cons_of_neg (by simp [kept]), ih regular.2]

theorem without_ofMembers (name : String) (members : List (String × Json)) :
    without name (Reading.ofMembers members) =
      Reading.ofMembers (members.filter (·.1 ≠ name)) := by
  induction members with
  | nil => rfl
  | cons member members ih =>
    rw [Reading.ofMembers]
    by_cases own : member.1 = name
    · rw [without_own own, ih, List.filter_cons_of_neg (by simp [own])]
    · rw [without_other own, ih, List.filter_cons_of_pos (by simp [own]), Reading.ofMembers]

/-- The compact text of an object and the one of the object without a name. -/
theorem omits_chars (name : String) (members : List (String × Json))
    (regular : (object members).isRegular = true) :
    Omits name (object members).chars (object (members.filter (·.1 ≠ name))).chars := by
  have fewer : (object (members.filter (·.1 ≠ name))).isRegular = true := by
    rw [isRegular] at regular ⊢
    exact membersRegular_filter _ regular
  refine ⟨Reading.ofMembers members, .closed, true, Document.ofChars_chars _ regular, ?_⟩
  rw [Document.ofChars_chars _ fewer, Reading.ofJson, without_ofMembers]

end ChatGateway.Json
