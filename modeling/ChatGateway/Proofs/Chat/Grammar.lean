import ChatGateway.Chat.Request
import ChatGateway.Proofs.Json.Acceptance
import ChatGateway.Proofs.Json.Unions

/-!
The grammar of chat completion requests. `IsRequest` says which values are requests, member by
member, and they are the ones that the decoder accepts (`Request.accepts_iff`). The grammar leaves
out the short forms, an array in place of an object and a number in place of a part's tag, and so do
the values that it is compared on, which are `Plain`.
-/
namespace ChatGateway.Chat

open Json (Decoder IsCount IsFlag IsList IsNumber IsObject IsText Nullable Omittable Reading Record Required
  Source Tagged Unabridged valuesAt)

/-! ## The grammar -/

/-- A role is a string, or the only member of an object, with `null`. -/
def IsRole (json : Json) : Prop :=
  ∃ name, name ∈ ["system", "user", "assistant"] ∧
    (json = .string name ∨ json = .object [(name, .null)])

def IsImage (json : Json) : Prop :=
  IsObject json ∧ Required IsText (json.member? "url") ∧ Nullable IsText (json.member? "detail")

def IsPart (json : Json) : Prop :=
  IsObject json ∧
    (json.member? "type" = some (.string "text") ∧ Required IsText (json.member? "text") ∨
      json.member? "type" = some (.string "image_url") ∧
        Required IsImage (json.member? "image_url"))

def IsContent (json : Json) : Prop := IsText json ∨ IsList IsPart json

def IsMessage (json : Json) : Prop :=
  IsObject json ∧ Required IsRole (json.member? "role") ∧
    Required IsContent (json.member? "content") ∧ Nullable IsText (json.member? "name")

def IsStop (json : Json) : Prop := IsText json ∨ IsList IsText json

/-- A request. Members of other names may stand beside these. -/
def IsRequest (json : Json) : Prop :=
  IsObject json ∧ Required IsText (json.member? "model") ∧
    Required (IsList IsMessage) (json.member? "messages") ∧
    Nullable IsCount (json.member? "max_tokens") ∧
    Nullable IsNumber (json.member? "temperature") ∧ Nullable IsNumber (json.member? "top_p") ∧
    Nullable IsStop (json.member? "stop") ∧ Omittable IsFlag (json.member? "stream")

/-! ## Values without short forms -/

structure Part.Plain (json : Json) : Prop where
  whole : json.Unabridged
  tag : ∀ numeral, json.member? "type" ≠ some (.number numeral)
  image : json.member? "type" = some (.string "image_url") →
    ∀ image, json.member? "image_url" = some image → image.Unabridged

structure Message.Plain (json : Json) : Prop where
  whole : json.Unabridged
  parts : ∀ content, json.member? "content" = some content → ∀ part ∈ content.items, Part.Plain part

structure Request.Plain (json : Json) : Prop where
  whole : json.Unabridged
  messages : ∀ messages, json.member? "messages" = some messages →
    ∀ message ∈ messages.items, Message.Plain message

/-! ## Decoders -/

variable {json : Json} {source inner : Source}

theorem Role.accepts_iff (enters : source.enter = .ok inner) :
    Role.decoder.Accepts source (Reading.ofJson json) ↔ IsRole json := by
  rw [decoder, Decoder.accepts_enumeration enters]
  rfl

theorem ImageUrl.accepts_iff (distinct : json.Distinct) (whole : json.Unabridged) :
    ImageUrl.decoder.Accepts .copy (Reading.ofJson json) ↔ IsImage json := by
  have url := Record.named_field "url" .string none none
  have detail := Record.named_optional "detail" .string
  refine Record.accepts_decoder ((url.pair detail).map _) rfl whole ?_
  rintro members rfl
  rw [Record.accepts_map, Record.accepts_pair url detail (by decide)]
  exact and_congr (Record.accepts_required distinct.1 fun _ _ => Decoder.accepts_string)
    (Record.accepts_optional distinct.1 fun _ _ => Decoder.accepts_string)

theorem Part.accepts_iff (distinct : json.Distinct) (plain : Plain json) :
    decoder.Accepts .copy (Reading.ofJson json) ↔ IsPart json := by
  have text := Record.named_field "text" .string none none
  have image := Record.named_field "image_url" ImageUrl.decoder none none
  cases json with
  | object members =>
    rw [decoder, Tagged.accepts_object rfl (by decide) distinct.1 plain.tag, IsPart,
      and_iff_right ⟨members, rfl⟩]
    simp only [union, List.mem_cons, List.not_mem_nil, or_false, or_and_right, exists_or,
      exists_eq_left]
    refine or_congr (and_congr_right fun _ => ?_) (and_congr_right fun own => ?_)
    · refine (Tagged.accepts_fields (text.map _) (by decide)).trans (Record.accepts_map.trans ?_)
      exact Record.accepts_required distinct.1 fun _ _ => Decoder.accepts_string
    · refine (Tagged.accepts_fields (image.map _) (by decide)).trans (Record.accepts_map.trans ?_)
      exact Record.accepts_required distinct.1 fun image found =>
        ImageUrl.accepts_iff (distinct.member found) (plain.image own image found)
  | array items => exact absurd rfl (plain.whole items)
  | null | bool | number | string =>
    simp [Decoder.Accepts, decoder, Tagged.decoder, IsPart, IsObject, Reading.ofJson,
      Json.mismatch_ne_ok]

theorem Content.accepts_iff {depth : Nat} (distinct : json.Distinct)
    (readable : (Reading.ofJson json).isReadable depth = true)
    (plain : ∀ part ∈ json.items, Part.Plain part) :
    decoder.Accepts (.text depth) (Reading.ofJson json) ↔ IsContent json := by
  have parts : (Decoder.list Part.decoder).Accepts .copy (Reading.ofJson json) ↔
      IsList IsPart json :=
    Decoder.accepts_list rfl fun part there =>
      Part.accepts_iff (distinct.item there) (plain part there)
  rw [decoder, Decoder.accepts_held readable, IsContent, ← parts]
  cases json with
  | string own => exact iff_of_true ⟨_, rfl⟩ (.inl ⟨own, rfl⟩)
  | null | bool | number | array | object =>
    simp only [Reading.ofJson, IsText, reduceCtorEq, exists_false, false_or, Decoder.Accepts]
    cases Decoder.list Part.decoder .copy _ <;> simp

theorem Stop.accepts_iff {depth : Nat} (readable : (Reading.ofJson json).isReadable depth = true) :
    decoder.Accepts (.text depth) (Reading.ofJson json) ↔ IsStop json := by
  have texts : (Decoder.list .string).Accepts .copy (Reading.ofJson json) ↔ IsList IsText json :=
    Decoder.accepts_list rfl fun _ _ => Decoder.accepts_string
  rw [decoder, Decoder.accepts_held readable, IsStop, ← texts]
  cases json with
  | string own => exact iff_of_true ⟨_, rfl⟩ (.inl ⟨own, rfl⟩)
  | null | bool | number | array | object =>
    simp only [Reading.ofJson, IsText, reduceCtorEq, exists_false, false_or, Decoder.Accepts]
    cases Decoder.list Decoder.string .copy _ <;> simp

theorem Message.accepts_iff {depth : Nat} (distinct : json.Distinct)
    (readable : (Reading.ofJson json).isReadable (depth + 2) = true) (plain : Plain json) :
    decoder.Accepts (.text (depth + 2)) (Reading.ofJson json) ↔ IsMessage json := by
  have role := Record.named_field "role" Role.decoder none none
  have content := Record.named_field "content" Content.decoder none none
  have name := Record.named_optional "name" .string
  refine Record.accepts_decoder (((role.pair content).pair name).map _) rfl plain.whole ?_
  rintro members rfl
  rw [Record.accepts_map, Record.accepts_pair (role.pair content) name (by decide),
    Record.accepts_pair role content (by decide), and_assoc]
  refine and_congr ?_ (and_congr ?_ ?_)
  · exact Record.accepts_required distinct.1 fun _ _ => Role.accepts_iff rfl
  · refine Record.accepts_required distinct.1 fun content found => ?_
    exact Content.accepts_iff (distinct.member found) (Json.isReadable_member readable found)
      (plain.parts content found)
  · exact Record.accepts_optional distinct.1 fun _ _ => Decoder.accepts_string

theorem Request.accepts_iff {depth : Nat} (distinct : json.Distinct)
    (readable : (Reading.ofJson json).isReadable (depth + 4) = true) (plain : Plain json) :
    decoder.Accepts (.text (depth + 4)) (Reading.ofJson json) ↔ IsRequest json := by
  have model := Record.named_field "model" .string none none
  have messages := Record.named_field "messages" (.list Message.decoder) none none
  have maxTokens := Record.named_optional "max_tokens" .u32
  have temperature := Record.named_optional "temperature" .f32
  have topP := Record.named_optional "top_p" .f32
  have stop := Record.named_optional "stop" Stop.decoder
  have stream := Record.named_defaulted "stream" .bool false
  have two := model.pair messages
  have four := (two.pair maxTokens).pair temperature
  have six := (four.pair topP).pair stop
  refine Record.accepts_decoder ((six.pair stream).map _) rfl plain.whole ?_
  rintro members rfl
  rw [Record.accepts_map, Record.accepts_pair six stream (by decide),
    Record.accepts_pair (four.pair topP) stop (by decide),
    Record.accepts_pair four topP (by decide),
    Record.accepts_pair (two.pair maxTokens) temperature (by decide),
    Record.accepts_pair two maxTokens (by decide), Record.accepts_pair model messages (by decide)]
  simp only [and_assoc]
  refine and_congr ?_ (and_congr ?_ (and_congr ?_ (and_congr ?_ (and_congr ?_ (and_congr ?_ ?_)))))
  · exact Record.accepts_required distinct.1 fun _ _ => Decoder.accepts_string
  · refine Record.accepts_required distinct.1 fun messages found => ?_
    refine Decoder.accepts_list rfl fun message there => ?_
    exact Message.accepts_iff ((distinct.member found).item there)
      (Json.isReadable_item (Json.isReadable_member readable found) there)
      (plain.messages messages found message there)
  · exact Record.accepts_optional distinct.1 fun _ _ => Decoder.accepts_u32
  · exact Record.accepts_optional distinct.1 fun _ found =>
      Decoder.accepts_f32 (Json.isReadable_member readable found)
  · exact Record.accepts_optional distinct.1 fun _ found =>
      Decoder.accepts_f32 (Json.isReadable_member readable found)
  · exact Record.accepts_optional distinct.1 fun _ found =>
      Stop.accepts_iff (Json.isReadable_member readable found)
  · exact Record.accepts_defaulted distinct.1 fun _ _ => Decoder.accepts_bool

/-- A text is decoded as a request exactly when its value is one by the grammar. -/
theorem Request.accepts_grammar (text : String) (json : Json)
    (spells : Json.Document.ofChars text.toList = ⟨Reading.ofJson json, true⟩)
    (distinct : json.Distinct)
    (readable : (Reading.ofJson json).isReadable Json.nestingLimit = true) (plain : Plain json) :
    (∃ request, Json.decodeText decoder text = .ok request) ↔ IsRequest json := by
  rw [← accepts_iff distinct readable plain]
  simp only [Json.decodeText, Json.decodeChars_iff, spells, and_true]
  rfl

/-- A request with a role and a tag in unusual places, and a member nobody knows. -/
def unusual (stream : Json) : Json :=
  .object [("model", .string "m"),
    ("messages", .array [.object [("role", .object [("user", .null)]),
      ("content", .array [
        .object [("text", .string "What is it?"), ("type", .string "text")],
        .object [("type", .string "image_url"), ("image_url", .object [("url", .string "u")])]])]]),
    ("max_tokens", .ofInt 5), ("seed", .null), ("stream", stream)]

theorem unusual_plain (stream : Json) : Request.Plain (unusual stream) := by
  refine ⟨nofun, fun messages found message there => ?_⟩
  cases found
  obtain rfl := List.mem_singleton.mp there
  refine ⟨nofun, fun content found part there => ?_⟩
  cases found
  simp only [Json.items, List.mem_cons, List.not_mem_nil, or_false] at there
  rcases there with rfl | rfl
  · exact ⟨nofun, nofun, nofun⟩
  · refine ⟨nofun, nofun, fun _ image found => ?_⟩
    cases found
    exact nofun

theorem unusual_distinct {stream : Json} (simple : stream.Distinct) :
    (unusual stream).Distinct := by
  simp [unusual, Json.Distinct, Json.MembersDistinct, Json.ItemsDistinct, Json.ofInt, simple]

theorem unusual_isRequest (flag : Bool) : IsRequest (unusual (.bool flag)) := by
  have parts : IsContent (.array [
      .object [("text", .string "What is it?"), ("type", .string "text")],
      .object [("type", .string "image_url"), ("image_url", .object [("url", .string "u")])]]) := by
    refine .inr ⟨_, rfl, ?_⟩
    simp only [List.forall_mem_cons]
    refine ⟨⟨⟨_, rfl⟩, .inl ⟨rfl, _, rfl, _, rfl⟩⟩, ⟨⟨_, rfl⟩, .inr ⟨rfl, _, rfl, ?_⟩⟩, by simp⟩
    exact ⟨⟨_, rfl⟩, ⟨_, rfl, _, rfl⟩, nofun⟩
  have messages : IsMessage (.object [("role", .object [("user", .null)]), ("content", .array [
      .object [("text", .string "What is it?"), ("type", .string "text")],
      .object [("type", .string "image_url"), ("image_url", .object [("url", .string "u")])]])]) :=
    ⟨⟨_, rfl⟩, ⟨_, rfl, "user", by simp, .inr rfl⟩, ⟨_, rfl, parts⟩, nofun⟩
  refine ⟨⟨_, rfl⟩, ⟨_, rfl, _, rfl⟩, ⟨_, rfl, _, rfl, ?_⟩, ?_, nofun, nofun, nofun, ?_⟩
  · exact List.forall_mem_singleton.mpr messages
  · rintro _ ⟨⟩
    exact .inr ⟨.ofInt 5, rfl, rfl, rfl, rfl, by decide⟩
  · rintro _ ⟨⟩
    exact ⟨flag, rfl⟩

/-- It is accepted if it says whether to stream, but not if it says `null`. -/
theorem unusual_accepted_or_not :
    (∃ request, Json.decodeText Request.decoder (unusual (.bool true)).text = .ok request) ∧
    ¬ ∃ request, Json.decodeText Request.decoder (unusual .null).text = .ok request := by
  constructor
  · exact (Request.accepts_grammar _ (unusual (.bool true)) (Json.Document.ofChars_text rfl)
      (unusual_distinct trivial) rfl (unusual_plain _)).mpr (unusual_isRequest true)
  · rw [Request.accepts_grammar _ (unusual .null) (Json.Document.ofChars_text rfl)
      (unusual_distinct trivial) rfl (unusual_plain _)]
    rintro ⟨_, _, _, _, _, _, _, stream⟩
    obtain ⟨_, flag⟩ := stream _ rfl
    cases flag

end ChatGateway.Chat
