import ChatGateway.Number.Numeral

/-!
# JSON values and their text

`Json` is a value as it is written: members keep their order and numbers stay numerals. `Json.text`
is the compact text, the only layout this program writes.
-/
namespace ChatGateway

open Number (Numeral)

inductive Json where
  | null
  | bool (value : Bool)
  | number (value : Numeral)
  | string (value : String)
  | array (items : List Json)
  | object (members : List (String × Json))
  deriving Repr

namespace Json

instance : Inhabited Json := ⟨.null⟩

/-- A control character is escaped by its letter if it has one, else by its number. -/
def escapeChar (c : Char) : List Char :=
  match c with
  | '"' => ['\\', '"']
  | '\\' => ['\\', '\\']
  | '\n' => ['\\', 'n']
  | '\r' => ['\\', 'r']
  | '\t' => ['\\', 't']
  | '\x08' => ['\\', 'b']
  | '\x0c' => ['\\', 'f']
  | c =>
    if c.toNat < 0x20 then
      ['\\', 'u', '0', '0', Nat.digitChar (c.toNat / 16), Nat.digitChar (c.toNat % 16)]
    else [c]

def quote (text : String) : List Char := '"' :: text.toList.flatMap escapeChar ++ ['"']

mutual

def chars : Json → List Char
  | .null => ['n', 'u', 'l', 'l']
  | .bool true => ['t', 'r', 'u', 'e']
  | .bool false => ['f', 'a', 'l', 's', 'e']
  | .number n => n.chars
  | .string s => quote s
  | .array items => '[' :: itemChars items ++ [']']
  | .object members => '\x7b' :: memberChars members ++ ['\x7d']

def itemChars : List Json → List Char
  | [] => []
  | [item] => item.chars
  | item :: rest => item.chars ++ ',' :: itemChars rest

def memberChars : List (String × Json) → List Char
  | [] => []
  | [(key, value)] => quote key ++ ':' :: value.chars
  | (key, value) :: rest => quote key ++ ':' :: value.chars ++ ',' :: memberChars rest

end

/-- The compact text of a value. -/
def text (json : Json) : String := String.ofList json.chars

def ofInt (n : Int) : Json := .number (.ofInt n)

/-- 32-bit floats: positional from `10 ^ -6` to `10 ^ 12`, always with a point. -/
def f32Layout : Number.Layout := ⟨some (-6), some 12, true⟩

/-- JSON has no infinite numbers; they are written `null`. -/
def ofF32 (x : Number.Floating) : Json :=
  match f32Layout.numeral? Number.single x with
  | some numeral => .number numeral
  | none => .null

def strings (texts : List String) : Json := .array (texts.map .string)

/-- The member of an optional field, left out when there is none. -/
def optional {α : Type} (key : String) (encode : α → Json) (value : Option α) :
    List (String × Json) :=
  match value with
  | some a => [(key, encode a)]
  | none => []

/-- A field that is written as `null` when there is nothing. -/
def nullable {α : Type} (encode : α → Json) : Option α → Json
  | some a => encode a
  | none => .null

end Json

end ChatGateway
