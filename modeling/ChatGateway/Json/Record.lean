import ChatGateway.Json.Decoder

/-!
# Records

A record is built from columns, one per field, in the order of declaration. Its members may come
in any order and unknown ones are passed over; faults are reported in reading order, and a missing
field when the object is at its end. A record may also be written as an array of its fields in the
order of declaration.
-/
namespace ChatGateway.Json

/-- A part of a record: `row` collects the members met so far. -/
structure Record (row value : Type) where
  /-- How many fields it has. -/
  width : Nat
  blank : row
  /-- Takes a member of an object, unless the name is not one of its own. -/
  take : Source → row → String → Reading → Option (Except Error row)
  /-- What the members amount to when all of them are read. -/
  finish : row → Except Error value
  /-- Takes its fields from the front of an array. `short` words the complaint about an array that
  is closed before the field of the given index. -/
  place : Source → (closed : Bool) → (short : Nat → Error) → (index : Nat) → List Reading →
    Except Error (value × List Reading)

namespace Record

/-- One field. `ifMissing` stands in for it in an object and `ifShort` in an array. -/
def field {α : Type} (name : String) (decode : Decoder α) (ifMissing ifShort : Option α := none) :
    Record (Option α) α where
  width := 1
  blank := none
  take source row key value :=
    if key = name then
      some (if row.isSome then .error (.duplicateField name) else some <$> decode source value)
    else none
  finish row :=
    match row, ifMissing with
    | some value, _ => .ok value
    | none, some value => .ok value
    | none, none => .error (.missingField name)
  place source closed short index items :=
    match items with
    | item :: rest => do pure (← decode source item, rest)
    | [] =>
      if !closed then .error .malformed
      else
        match ifShort with
        | some value => .ok (value, [])
        | none => .error (short index)

/-- A field with a default. -/
def defaulted {α : Type} (name : String) (decode : Decoder α) (value : α) : Record (Option α) α :=
  field name decode (some value) (some value)

/-- A field that may be missing or `null`. -/
def optional {α : Type} (name : String) (decode : Decoder α) :
    Record (Option (Option α)) (Option α) :=
  defaulted name decode.option none

/-- A field that may be missing or `null`, but not left out of an array. -/
def nullable {α : Type} (name : String) (decode : Decoder α) :
    Record (Option (Option α)) (Option α) :=
  field name decode.option (some none)

/-- The fields of `a`, then those of `b`. -/
def pair {ρ σ α β : Type} (a : Record ρ α) (b : Record σ β) : Record (ρ × σ) (α × β) where
  width := a.width + b.width
  blank := (a.blank, b.blank)
  take source row key value :=
    match a.take source row.1 key value with
    | some taken => some do pure (← taken, row.2)
    | none => (b.take source row.2 key value).map fun taken => do pure (row.1, ← taken)
  finish row := do
    let x ← a.finish row.1
    let y ← b.finish row.2
    pure (x, y)
  place source closed short index items := do
    let (x, rest) ← a.place source closed short index items
    let (y, rest) ← b.place source closed short (index + a.width) rest
    pure ((x, y), rest)

instance {ρ σ α β : Type} : HAppend (Record ρ α) (Record σ β) (Record (ρ × σ) (α × β)) :=
  ⟨pair⟩

def map {ρ α β : Type} (f : α → β) (r : Record ρ α) : Record ρ β where
  width := r.width
  blank := r.blank
  take := r.take
  finish row := f <$> r.finish row
  place source closed short index items := do
    let (x, rest) ← r.place source closed short index items
    pure (f x, rest)

variable {ρ α : Type}

/-- Takes one member; a name that is not known is passed over. -/
def takeMember (r : Record ρ α) (source : Source) (row : ρ) (member : String × Reading) :
    Except Error ρ :=
  match r.take source row member.1 member.2 with
  | some taken => taken
  | none => do
    skip member.2
    pure row

def ofMembers (r : Record ρ α) (source : Source) (members : List (String × Reading))
    (ended : Bool) : Except Error α := do
  let row ← members.foldlM (r.takeMember source) r.blank
  if ended then r.finish row else throw .malformed

/-- An array may not hold more than the fields. In a copy the lengths are compared; straight from
the text, more items are a fault of spelling. -/
def ofItems (r : Record ρ α) (source : Source) (label : String) (items : List Reading)
    (closed : Bool) : Except Error α := do
  let short (length : Nat) : Error :=
    .invalidLength length (label ++ " with " ++ elements r.width)
  let (value, rest) ← r.place source closed short 0 items
  match source with
  | .text _ => if rest.isEmpty && closed then pure value else throw .malformed
  | .copy =>
    if rest.isEmpty then pure value
    else
      let fits := elements (items.length - rest.length)
      throw (.invalidLength items.length (fits ++ " in sequence"))

/-- A record called `name`. -/
def decoder (r : Record ρ α) (name : String) : Decoder α := fun source reading =>
  match reading with
  | .object members ending => do r.ofMembers (← source.enter) members (ending = .closed)
  | .array items closed => do r.ofItems (← source.enter) ("struct " ++ name) items closed
  | other => mismatch other ("struct " ++ name)

end Record

end ChatGateway.Json
