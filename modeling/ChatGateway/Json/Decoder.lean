import ChatGateway.Json.Error
import ChatGateway.Json.Parser

/-!
# Decoders of JSON values

A decoder reads either straight from the text or from a copy held in memory. Straight from the
text, containers may nest 127 deep; a copy is checked as a whole when it is made, and its decoder
meets no spelling fault any more.
-/
namespace ChatGateway.Json

open ChatGateway.Number

/-- Where a reading comes from. Straight from the text, `depth` more containers may be entered. -/
inductive Source where
  | text (depth : Nat)
  | copy
  deriving DecidableEq, Repr

def nestingLimit : Nat := 127

abbrev Decoder (α : Type) := Source → Reading → Except Error α

namespace Source

/-- The source inside a container. -/
def enter : Source → Except Error Source
  | .text 0 => .error .malformed
  | .text (depth + 1) => .ok (.text depth)
  | .copy => .ok .copy

/-- Copies a reading into memory. -/
def hold (source : Source) (reading : Reading) : Except Error Reading :=
  match source with
  | .text depth => if reading.isReadable depth then .ok reading else .error .malformed
  | .copy => .ok reading

end Source

/-- What a reading is called when it is of the wrong type. Containers are named before they are
looked into. -/
def Reading.found : Reading → Except Error Found
  | .null => .ok .null
  | .bool value => .ok (.boolean value)
  | .number numeral =>
    match Number.ofNumeral? numeral with
    | some (.integer value) => .ok (.integer value)
    | some (.float value) => .ok (.float value)
    | none => .error .malformed
  | .string value => .ok (.string value)
  | .array _ _ => .ok .sequence
  | .object _ _ => .ok .map
  | .unpaired | .broken => .error .malformed

/-- Refuses a reading that is of another type than expected. -/
def mismatch {α : Type} (reading : Reading) (expected : String) : Except Error α := do
  throw (.invalidType (← reading.found) expected)

/-- Passes over a value that nobody asked for. -/
def skip (reading : Reading) : Except Error Unit :=
  if reading.isSpelt then .ok () else .error .malformed

namespace Decoder

def map {α β : Type} (f : α → β) (decode : Decoder α) : Decoder β := fun source reading =>
  f <$> decode source reading

def string : Decoder String := fun _ reading =>
  match reading with
  | .string value => .ok value
  | other => mismatch other "a string"

def bool : Decoder Bool := fun _ reading =>
  match reading with
  | .bool value => .ok value
  | other => mismatch other "a boolean"

/-- An integer from `low` to `high`, of a type called `name`. -/
def integer (name : String) (low high : Int) : Decoder Int := fun _ reading =>
  match reading with
  | .number numeral =>
    match Number.ofNumeral? numeral with
    | some (.integer value) =>
      if low ≤ value ∧ value ≤ high then .ok value
      else .error (.invalidValue (.integer value) name)
    | some (.float value) => .error (.invalidType (.float value) name)
    | none => .error .malformed
  | other => mismatch other name

def u16 : Decoder UInt16 := (integer "u16" 0 (UInt16.size - 1)).map fun n => UInt16.ofNat n.toNat

def u32 : Decoder UInt32 := (integer "u32" 0 (UInt32.size - 1)).map fun n => UInt32.ofNat n.toNat

def u64 : Decoder UInt64 := (integer "u64" 0 (UInt64.size - 1)).map fun n => UInt64.ofNat n.toNat

/-- A 64-bit size. -/
def size : Decoder UInt64 := (integer "usize" 0 (UInt64.size - 1)).map fun n => UInt64.ofNat n.toNat

def i64 : Decoder Int64 := (integer "i64" Int64.minValue.toInt Int64.maxValue.toInt).map Int64.ofInt

/-- Any number, rounded to 32 bits; one beyond that range becomes infinite. -/
def f32 : Decoder Floating := fun _ reading =>
  match reading with
  | .number numeral =>
    match Number.ofNumeral? numeral with
    | some (.integer value) => .ok (single.ofInt value)
    | some (.float value) => .ok (single.convert value)
    | none => .error .malformed
  | other => mismatch other "f32"

/-- `null` stands for nothing. -/
def option {α : Type} (decode : Decoder α) : Decoder (Option α) := fun source reading =>
  match reading with
  | .null => .ok none
  | other => some <$> decode source other

/-- The items are read in order; that the array is closed is looked at after them. -/
def list {α : Type} (decode : Decoder α) : Decoder (List α) := fun source reading =>
  match reading with
  | .array items closed => do
    let inner ← source.enter
    let values ← items.mapM (decode inner)
    if closed then pure values else throw .malformed
  | other => mismatch other "a sequence"

/-- Puts an entry into a list that is sorted by key, in place of one with the same key. -/
def insertSorted {α : Type} (key : String) (value : α) : List (String × α) → List (String × α)
  | [] => [(key, value)]
  | entry :: rest =>
    if key = entry.1 then (key, value) :: rest
    else if key < entry.1 then (key, value) :: entry :: rest
    else entry :: insertSorted key value rest

/-- An object with any keys, sorted by key; of two entries with the same key the last counts. -/
def dictionary {α : Type} (decode : Decoder α) : Decoder (List (String × α)) :=
  fun source reading =>
  match reading with
  | .object members ending => do
    let inner ← source.enter
    let entries ← members.foldlM
      (fun entries (key, value) => do pure (insertSorted key (← decode inner value) entries)) []
    if ending = .closed then pure entries else throw .malformed
  | other => mismatch other "a map"

/-- A name out of a list, as a string or as the only key of an object whose value is `null`.
`other` takes every name that is not listed. -/
def enumeration {α : Type} (names : List (String × α)) (other : Option α := none) :
    Decoder α := fun source reading =>
  let named (name : String) : Except Error α :=
    match names.lookup name, other with
    | some value, _ => .ok value
    | none, some value => .ok value
    | none, none => .error (.unknownVariant name (names.map Prod.fst))
  match reading with
  | .string name => named name
  | .object members ending => do
    let _ ← source.enter
    match members with
    | (name, content) :: rest => do
      let value ← named name
      match content with
      | .null => if rest.isEmpty && ending = .closed then pure value else throw .malformed
      | other => mismatch other "unit"
    | [] => throw .malformed
  | _ => .error .malformed

/-- Reads a copy made for that purpose. -/
def held {α : Type} (decode : Reading → Except Error α) : Decoder α := fun source reading => do
  decode (← source.hold reading)

end Decoder

/-- Decodes a whole text. What follows the value is looked at last. -/
def decodeChars {α : Type} (decode : Decoder α) (text : List Char) : Except Error α := do
  let document := Document.ofChars text
  let value ← decode (.text nestingLimit) document.root
  if document.alone then pure value else throw .malformed

def decodeText {α : Type} (decode : Decoder α) (text : String) : Except Error α :=
  decodeChars decode text.toList

end ChatGateway.Json
