import ChatGateway.Json.Decoder
import ChatGateway.Proofs.Json.Spelling

/-!
The compact text of a value is read back as that value: its tokens put the reading of the value
into the innermost open container, whatever is open, and with nothing open they are the whole
document. `Accepts` is what a parse has to do for this; it holds where a value is awaited.
-/
namespace ChatGateway.Json

namespace Parse

/-- Takes every token that begins a value as the stack does. -/
def Accepts (parse : Parse) (stack : List Frame) : Prop :=
  ∀ token next, value? stack token = some next → parse.step token = next

theorem awaitValue_accepts (stack : List Frame) : (awaitValue stack).Accepts stack := by
  intro token next taken
  rw [step, taken, Option.getD_some]

theorem firstItem_accepts (stack : List Frame) :
    (firstItem stack).Accepts (.array [] :: stack) := by
  intro token next taken
  cases token with
  | closeArray => cases taken
  | openArray | closeObject | openObject | colon | comma | leaf | bad =>
    simp only [step, taken, Option.getD_some]

theorem leaf_step {parse : Parse} {stack : List Frame} (accepts : parse.Accepts stack)
    (value : Reading) : parse.step (.leaf value) = place value stack :=
  accepts (.leaf value) _ rfl

mutual

/-- The tokens of a value place its reading. -/
theorem fold_ofJson (json : Json) {parse : Parse} {stack : List Frame}
    (accepts : parse.Accepts stack) :
    (Token.ofJson json).foldl step parse = place (Reading.ofJson json) stack := by
  cases json with
  | null | bool | number | string => exact leaf_step accepts _
  | array items =>
    have opened : parse.step .openArray = .firstItem stack := accepts .openArray _ rfl
    rw [Token.ofJson, List.cons_append, List.foldl_cons, opened, List.foldl_append]
    cases items with
    | nil => rfl
    | cons item items =>
      rw [fold_ofItems (item :: items) (List.cons_ne_nil item items) (firstItem_accepts stack)]
      simp [step, Reading.ofJson]
  | object members =>
    have opened : parse.step .openObject = .awaitKey {} stack := accepts .openObject _ rfl
    rw [Token.ofJson, List.cons_append, List.foldl_cons, opened, List.foldl_append]
    cases members with
    | nil => rfl
    | cons member members =>
      rw [fold_ofMembers (member :: members) (List.cons_ne_nil member members)]
      simp [step, Reading.ofJson, Entries.close]

/-- The tokens of items add their readings to the array that is open. -/
theorem fold_ofItems (items : List Json) (given : items ≠ []) {parse : Parse}
    {before : List Reading} {stack : List Frame}
    (accepts : parse.Accepts (.array before :: stack)) :
    (Token.ofItems items).foldl step parse =
      .afterItem ((Reading.ofItems items).reverse ++ before) stack := by
  match items with
  | [] => exact absurd rfl given
  | [item] => exact fold_ofJson item accepts
  | item :: other :: items =>
    have first := fold_ofJson item accepts
    have later := fold_ofItems (other :: items) (List.cons_ne_nil other items)
      (awaitValue_accepts (.array (Reading.ofJson item :: before) :: stack))
    rw [Token.ofItems_more, List.foldl_append, first, List.foldl_cons, place, step, later]
    simp [Reading.ofItems]

/-- The tokens of members add them to the object that is open. -/
theorem fold_ofMembers (members : List (String × Json)) (given : members ≠ [])
    {before : List (String × Reading)} {stack : List Frame} :
    (Token.ofMembers members).foldl step (.awaitKey ⟨before, true⟩ stack) =
      .afterMember ⟨(Reading.ofMembers members).reverse ++ before, true⟩ stack := by
  match members with
  | [] => exact absurd rfl given
  | [(key, value)] =>
    exact fold_ofJson value (awaitValue_accepts (.object ⟨before, true⟩ (some key) :: stack))
  | (key, value) :: other :: members =>
    have keyed : ((awaitKey ⟨before, true⟩ stack).step (.leaf (.string key))).step .colon =
        .awaitValue (.object ⟨before, true⟩ (some key) :: stack) := rfl
    have first :=
      fold_ofJson value (awaitValue_accepts (.object ⟨before, true⟩ (some key) :: stack))
    have pushed : (place (Reading.ofJson value) (.object ⟨before, true⟩ (some key) :: stack)).step
        .comma = .awaitKey ⟨(key, Reading.ofJson value) :: before, true⟩ stack := rfl
    rw [Token.ofMembers_more, List.cons_append, List.cons_append, List.foldl_cons, List.foldl_cons,
      keyed, List.foldl_append, first, List.foldl_cons, pushed,
      fold_ofMembers (other :: members) (List.cons_ne_nil other members)]
    simp [Reading.ofMembers]

end

end Parse

/-- The compact text of a value is a document of its own, with this value in it. -/
theorem Document.ofChars_chars (json : Json) (regular : json.isRegular = true) :
    Document.ofChars json.chars = ⟨Reading.ofJson json, true⟩ := by
  rw [Document.ofChars, Token.ofChars_chars json regular, Document.ofTokens,
    Parse.fold_ofJson json (Parse.awaitValue_accepts [])]
  rfl

theorem Document.ofChars_text {json : Json} (regular : json.isRegular = true) :
    Document.ofChars json.text.toList = ⟨Reading.ofJson json, true⟩ := by
  rw [Json.text, String.toList_ofList, ofChars_chars json regular]

/-- Decoding the compact text of a value decodes the value. -/
theorem decodeChars_chars {α : Type} (decode : Decoder α) (json : Json)
    (regular : json.isRegular = true) :
    decodeChars decode json.chars = decode (.text nestingLimit) (Reading.ofJson json) := by
  rw [decodeChars, Document.ofChars_chars json regular]
  cases decode (.text nestingLimit) (Reading.ofJson json) <;> rfl

end ChatGateway.Json
