import ChatGateway.Json.Number

/-!
# What a JSON text says, up to where it goes wrong

A reading is the value a text spells, except that it may break off: an array or object need not be
closed, and a value may be misspelt. Decoders walk a reading from left to right, so that of two
faults in a text the first one is reported, whichever kind it has.
-/
namespace ChatGateway.Json

open ChatGateway.Number (Numeral)

/-- How an object ends. -/
inductive Ending where
  | closed
  /-- The next key escapes half of a surrogate pair, so it is no text; from there on the object is
  only known to be spelt to its brace. -/
  | illegible
  | broken
  deriving DecidableEq, Repr

inductive Reading where
  | null
  | bool (value : Bool)
  | number (value : Numeral)
  | string (value : String)
  /-- A string that escapes half of a surrogate pair; it can be passed over but is no text. -/
  | unpaired
  | array (items : List Reading) (closed : Bool)
  /-- The members up to where the object ends or can no longer be read. -/
  | object (members : List (String × Reading)) (ending : Ending)
  /-- A value that is misspelt, or missing. -/
  | broken
  deriving Repr

namespace Reading

instance : Inhabited Reading := ⟨.broken⟩

mutual

/-- The reading of a value's text. -/
def ofJson : Json → Reading
  | .null => .null
  | .bool b => .bool b
  | .number n => .number n
  | .string s => .string s
  | .array items => .array (ofItems items) true
  | .object members => .object (ofMembers members) .closed

def ofItems : List Json → List Reading
  | [] => []
  | item :: rest => ofJson item :: ofItems rest

def ofMembers : List (String × Json) → List (String × Reading)
  | [] => []
  | (key, value) :: rest => (key, ofJson value) :: ofMembers rest

end

mutual

/-- Spelt to its end; enough to be passed over. -/
def isSpelt : Reading → Bool
  | .broken => false
  | .array items closed => closed && allSpelt items
  | .object members ending => ending ≠ .broken && membersSpelt members
  | _ => true

def allSpelt : List Reading → Bool
  | [] => true
  | item :: rest => item.isSpelt && allSpelt rest

def membersSpelt : List (String × Reading) → Bool
  | [] => true
  | (_, value) :: rest => value.isSpelt && membersSpelt rest

end

mutual

/-- Spelt to its end, every string a text, every number in range, and containers nested at most
`depth` deep; enough to be held in memory. -/
def isReadable (depth : Nat) : Reading → Bool
  | .broken => false
  | .unpaired => false
  | .number n => (Number.ofNumeral? n).isSome
  | .array items closed => decide (0 < depth) && closed && allReadable (depth - 1) items
  | .object members ending =>
    decide (0 < depth) && ending = .closed && membersReadable (depth - 1) members
  | _ => true

def allReadable (depth : Nat) : List Reading → Bool
  | [] => true
  | item :: rest => item.isReadable depth && allReadable depth rest

def membersReadable (depth : Nat) : List (String × Reading) → Bool
  | [] => true
  | (_, value) :: rest => value.isReadable depth && membersReadable depth rest

end

end Reading

/-- A whole text: its value, and whether nothing but white space follows it. -/
structure Document where
  root : Reading
  alone : Bool

end ChatGateway.Json
