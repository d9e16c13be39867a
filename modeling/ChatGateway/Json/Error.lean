import ChatGateway.Json.Reading
import ChatGateway.Text.Quoted

/-!
# Why a JSON text is refused

Each way a reading can fail to be a value of a type is a cause with its data; `Error.message` words
them. Faults of spelling are not told apart.
-/
namespace ChatGateway.Json

open ChatGateway.Number

/-- What a text holds where something else was expected. -/
inductive Found where
  | null
  | boolean (value : Bool)
  | integer (value : Int)
  | float (value : Floating)
  | string (value : String)
  | sequence
  | map
  deriving DecidableEq, Repr

/-- Floats in messages: positional from `10 ^ -5` to `10 ^ 15`, always with a point. -/
def Found.floatLayout : Layout := ⟨some (-5), some 15, true⟩

namespace Found

def text : Found → String
  | null => "null"
  | boolean value => s!"boolean `{value}`"
  | integer value => s!"integer `{value}`"
  | float value =>
    let shown := ((floatLayout.numeral? double value).map Numeral.text).getD ""
    s!"floating point `{shown}`"
  | string value => "string " ++ Text.Quoted.encode value
  | sequence => "sequence"
  | map => "map"

end Found

inductive Error where
  /-- The text is not JSON, breaks off, or holds what cannot be represented. -/
  | malformed
  | missingField (name : String)
  | duplicateField (name : String)
  | invalidType (found : Found) (expected : String)
  | invalidValue (found : Found) (expected : String)
  | invalidLength (length : Nat) (expected : String)
  | unknownVariant (name : String) (known : List String)
  /-- None of the forms of an untagged union fits. -/
  | noForm (union : String)
  deriving DecidableEq, Repr

namespace Error

def ticked (name : String) : String := "`" ++ name ++ "`"

/-- The names that could have stood there. -/
def alternatives : List String → String
  | [] => "there are no variants"
  | [a] => "expected " ++ ticked a
  | [a, b] => "expected " ++ ticked a ++ " or " ++ ticked b
  | names => "expected one of " ++ ", ".intercalate (names.map ticked)

def message : Error → String
  | malformed => "JSON syntax error"
  | missingField name => "missing field " ++ ticked name
  | duplicateField name => "duplicate field " ++ ticked name
  | invalidType found expected => s!"invalid type: {found.text}, expected {expected}"
  | invalidValue found expected => s!"invalid value: {found.text}, expected {expected}"
  | invalidLength length expected => s!"invalid length {length}, expected {expected}"
  | unknownVariant name known => "unknown variant " ++ ticked name ++ ", " ++ alternatives known
  | noForm union => s!"data did not match any variant of untagged enum {union}"

end Error

/-- "1 element", "2 elements". -/
def elements (n : Nat) : String := if n = 1 then "1 element" else s!"{n} elements"

end ChatGateway.Json
