import ChatGateway.Json.Record

/-!
# Unions told apart by a member `type`

The member may stand anywhere; the others are held in memory until it is known. As an array, the
tag is the first item. In a copy the tag may also be the number of the variant.
-/
namespace ChatGateway.Json

/-- What a variant is read from, the tag taken out. -/
inductive Content where
  | members (members : List (String × Reading))
  | items (items : List Reading)

/-- A variant: its tag, and how its content is read. -/
structure Variant (α : Type) where
  tag : String
  read : Content → Except Error α

namespace Variant

/-- A variant with fields; `label` is what it is called. -/
def fields {ρ α : Type} (tag label : String) (r : Record ρ α) : Variant α where
  tag := tag
  read
    | .members members => r.ofMembers .copy members true
    | .items items => r.ofItems .copy ("struct variant " ++ label) items true

/-- A variant without fields passes over all members. -/
def bare {α : Type} (tag : String) (value : α) : Variant α where
  tag := tag
  read
    | .members _ => .ok value
    | .items [] => .ok value
    | .items items => .error (.invalidLength items.length (elements 0 ++ " in sequence"))

end Variant

/-- A union: its variants in order, and the one that takes every other tag, if there is one. -/
structure Tagged (α : Type) where
  name : String
  variants : List (Variant α)
  other : Option (Variant α) := none

namespace Tagged

variable {α : Type}

def tagKey : String := "type"

/-- The variant that a tag names. -/
def ofTag (t : Tagged α) (source : Source) (reading : Reading) : Except Error (Variant α) :=
  let numbered (n : Nat) : Except Error (Variant α) :=
    match t.variants[n]?, t.other with
    | some variant, _ => .ok variant
    | none, some other => .ok other
    | none, none =>
      .error (.invalidValue (.integer n) s!"variant index 0 <= i < {t.variants.length}")
  match reading, source with
  | .string tag, _ =>
    match t.variants.find? (·.tag = tag), t.other with
    | some variant, _ => .ok variant
    | none, some other => .ok other
    | none, none => .error (.unknownVariant tag (t.variants.map Variant.tag))
  | .number numeral, .copy =>
    match Number.ofNumeral? numeral with
    | some (.integer (.ofNat n)) => numbered n
    | _ => mismatch reading "variant identifier"
  | other, _ => mismatch other "variant identifier"

/-- The tag once it is met, and the other members back to front. -/
structure Sorting (α : Type) where
  variant : Option (Variant α) := none
  reversed : List (String × Reading) := []

/-- Takes one member of the object. -/
def sort (t : Tagged α) (source : Source) (s : Sorting α) (member : String × Reading) :
    Except Error (Sorting α) :=
  if member.1 = tagKey then
    if s.variant.isSome then .error (.duplicateField tagKey)
    else do pure { s with variant := some (← t.ofTag source member.2) }
  else do pure { s with reversed := (member.1, ← source.hold member.2) :: s.reversed }

def ofMembers (t : Tagged α) (source : Source) (members : List (String × Reading))
    (ended : Bool) : Except Error α := do
  let s ← members.foldlM (t.sort source) {}
  if !ended then throw .malformed
  match s.variant with
  | some variant => variant.read (.members s.reversed.reverse)
  | none => throw (.missingField tagKey)

def ofItems (t : Tagged α) (source : Source) (items : List Reading) (closed : Bool) :
    Except Error α :=
  match items with
  | [] => .error (if closed then .missingField tagKey else .malformed)
  | tag :: rest => do
    let variant ← t.ofTag source tag
    let held ← rest.mapM source.hold
    if closed then variant.read (.items held) else throw .malformed

def decoder (t : Tagged α) : Decoder α := fun source reading =>
  match reading with
  | .object members ending => do t.ofMembers (← source.enter) members (ending = .closed)
  | .array items closed => do t.ofItems (← source.enter) items closed
  | other => mismatch other ("internally tagged enum " ++ t.name)

end Tagged

end ChatGateway.Json
