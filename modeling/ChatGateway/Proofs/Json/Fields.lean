import ChatGateway.Proofs.Json.Members

/-!
What stands for a field of a record. A record may be written as an object or as an array of its
fields; `Reading.field?` finds a field in either form, and `Record.decoder_fields` says that a
record of two fields with defaults holds what stands for them.
-/
namespace ChatGateway.Json

/-- What stands for a field: the value under its name or, in an array, the item at its place. -/
def Reading.field? (name : String) (place : Nat) : Reading → Option Reading
  | .object members _ => (valuesAt name members).head?
  | .array items _ => items[place]?
  | _ => none

/-- What the value of a field with a default is, from what stands for it. -/
def Stands {α : Type} (decode : Decoder α) (source : Source) (absent : α) (standing : Option Reading)
    (x : α) : Prop :=
  match standing with
  | none => x = absent
  | some value => decode source value = .ok x

namespace Record

variable {ρ σ α β γ : Type} {source : Source} {closed : Bool} {short : Nat → Error} {index : Nat}
  {items rest : List Reading}

theorem stands_of_finds {name : String} {decode : Decoder α} {absent x : α}
    {members : List (String × Reading)}
    (found : (defaulted name decode absent).Finds source members x) :
    Stands decode source absent (valuesAt name members).head? x := by
  rcases finds_field.mp found with ⟨missing, default⟩ | ⟨value, single, decoded⟩
  · rw [missing]
    exact (Option.some.inj default).symm
  · rw [single]
    exact decoded

theorem place_defaulted {name : String} {decode : Decoder α} {absent x : α}
    (placed : (defaulted name decode absent).place source closed short index items = .ok (x, rest)) :
    Stands decode source absent items[0]? x ∧ rest = items.tail := by
  cases items with
  | nil =>
    cases closed with
    | true =>
      cases placed
      exact ⟨rfl, rfl⟩
    | false => cases placed
  | cons item items =>
    obtain ⟨value, decoded, same⟩ := bind_eq_ok_iff.mp placed
    cases same
    exact ⟨decoded, rfl⟩

theorem place_pair {a : Record ρ α} {b : Record σ β} {x : α} {y : β}
    (placed : (a ++ b).place source closed short index items = .ok ((x, y), rest)) :
    ∃ middle, a.place source closed short index items = .ok (x, middle) ∧
      b.place source closed short (index + a.width) middle = .ok (y, rest) := by
  obtain ⟨⟨first, middle⟩, left, more⟩ := bind_eq_ok_iff.mp placed
  obtain ⟨⟨second, after⟩, right, same⟩ := bind_eq_ok_iff.mp more
  cases same
  exact ⟨middle, left, right⟩

theorem place_map {r : Record ρ α} {f : α → β} {y : β}
    (placed : (r.map f).place source closed short index items = .ok (y, rest)) :
    ∃ x, r.place source closed short index items = .ok (x, rest) ∧ f x = y := by
  obtain ⟨⟨x, after⟩, taken, same⟩ := bind_eq_ok_iff.mp placed
  cases same
  exact ⟨x, taken, rfl⟩

theorem place_of_ofItems {r : Record ρ α} {label : String} {x : α}
    (read : r.ofItems source label items closed = .ok x) :
    ∃ short rest, r.place source closed short 0 items = .ok (x, rest) := by
  obtain ⟨⟨value, rest⟩, placed, more⟩ := bind_eq_ok_iff.mp read
  have same : value = x := by
    cases source with
    | text depth | copy =>
      dsimp only at more
      split at more
      · exact Except.ok.inj more
      · cases more
  exact ⟨_, rest, same ▸ placed⟩

/-- A record of two fields with defaults, in either form, is made of what stands for them. -/
theorem decoder_fields {first second label : String} {d : Decoder α} {e : Decoder β} {x₀ : α}
    {y₀ : β} {f : α × β → γ} {reading : Reading} {z : γ} (apart : first ≠ second)
    (decoded : ((defaulted first d x₀ ++ defaulted second e y₀).map f).decoder label source reading =
      .ok z) :
    ∃ inner x y, source.enter = .ok inner ∧ Stands d inner x₀ (reading.field? first 0) x ∧
      Stands e inner y₀ (reading.field? second 1) y ∧ f (x, y) = z := by
  have left := named_defaulted first d x₀
  have right := named_defaulted second e y₀
  cases reading with
  | object members ending =>
    obtain ⟨inner, enters, _⟩ := bind_eq_ok_iff.mp decoded
    obtain ⟨_, found, _⟩ := (decoder_iff ((left.pair right).map f) enters).mp decoded
    obtain ⟨⟨x, y⟩, both, same⟩ := finds_map.mp found
    obtain ⟨foundFirst, foundSecond⟩ := (finds_pair left right (by simpa using apart)).mp both
    exact ⟨inner, x, y, enters, stands_of_finds foundFirst, stands_of_finds foundSecond, same⟩
  | array items closed =>
    obtain ⟨inner, enters, read⟩ := bind_eq_ok_iff.mp decoded
    obtain ⟨_, _, placed⟩ := place_of_ofItems read
    obtain ⟨⟨x, y⟩, both, same⟩ := place_map placed
    obtain ⟨middle, placedFirst, placedSecond⟩ := place_pair both
    obtain ⟨stands, rfl⟩ := place_defaulted placedFirst
    have next := (place_defaulted placedSecond).1
    rw [List.getElem?_tail] at next
    exact ⟨inner, x, y, enters, stands, next, same⟩
  | null | bool | number | string | unpaired | broken =>
    obtain ⟨_, _, failed⟩ := bind_eq_ok_iff.mp decoded
    cases failed

end Record

end ChatGateway.Json
