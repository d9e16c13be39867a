import ChatGateway.Number.Numeral
import ChatGateway.Text.Blank
import ChatGateway.Text.Cut
import ChatGateway.Text.Digits

/-!
# Values before they become settings

A value from a file or from the environment has a kind of its own, and is converted when a setting
asks for it: numbers, words and texts stand for one another where that makes sense. Values are
layered: a table goes into the table that is there, key by key, and any other value takes the place
of what is there. Keys are in lower case.
-/
namespace ChatGateway.Settings

open ChatGateway.Number

inductive Value where
  | nothing
  | boolean (value : Bool)
  | integer (value : Int)
  | float (value : Floating)
  | text (value : String)
  | list (items : List Value)
  | table (members : List (String × Value))
  deriving Repr

namespace Value

instance : Inhabited Value := ⟨.nothing⟩

/-! ## Conversions -/

/-- Floats are written positionally, without a point when they are integral. -/
def floatLayout : Layout := ⟨none, none, false⟩

def floatText : Floating → String
  | .infinite negative => if negative then "-inf" else "inf"
  | .nan => "NaN"
  | x => ((floatLayout.numeral? double x).map Numeral.text).getD ""

def toText? : Value → Option String
  | text s => some s
  | boolean b => some (if b then "true" else "false")
  | integer n => some (toString n)
  | float x => some (floatText x)
  | nothing | list _ | table _ => none

def yesWords : List String := ["true", "on", "yes"]

def noWords : List String := ["false", "off", "no"]

def toBool? : Value → Option Bool
  | boolean b => some b
  | integer n => some (n ≠ 0)
  | float x => some (!x.isZero)
  | text s =>
    let word := Text.lower s
    if word ∈ "1" :: yesWords then some true
    else if word ∈ "0" :: noWords then some false
    else none
  | nothing | list _ | table _ => none

/-- The greatest number that a setting can hold. -/
def greatest : Nat := UInt64.size - 1

/-- A float is rounded, a half away from zero, and what lies outside the range becomes its nearer
end. -/
def naturalOfFloat : Floating → Nat
  | .nan => 0
  | .infinite negative => if negative then 0 else greatest
  | x => min greatest ((x.roundAway.getD 0).toNat)

/-- A number from zero to `limit`. -/
def toNatural? (limit : Nat) (value : Value) : Option Nat :=
  let number : Option Nat :=
    match value with
    | boolean b => some (if b then 1 else 0)
    | integer n => if 0 ≤ n then some n.toNat else none
    | float x => some (naturalOfFloat x)
    | text s =>
      let word := Text.lower s
      if word ∈ yesWords then some 1
      else if word ∈ noWords then some 0
      else Text.unsigned? s.toList
    | nothing | list _ | table _ => none
  number.filter (· ≤ limit)

/-! ## Layers -/

/-- The members of a table; anything else has none. -/
def members : Value → List (String × Value)
  | table ms => ms
  | _ => []

def items : Value → List Value
  | list vs => vs
  | _ => []

def put (key : String) (value : Value) : List (String × Value) → List (String × Value)
  | [] => [(key, value)]
  | member :: rest =>
    if member.1 = key then (key, value) :: rest else member :: put key value rest

mutual

/-- What a new value makes of the one that is there, if there is one. -/
def merge (there : Option Value) : Value → Value
  | table ms => mergeMembers (there.getD (table [])) ms
  | value => value

/-- Sets the members of a table one after another. -/
def mergeMembers (there : Value) : List (String × Value) → Value
  | [] => there
  | (key, value) :: rest =>
    let key := Text.lower key
    let ms := there.members
    mergeMembers (table (put key (merge (ms.lookup key) value) ms)) rest

end

/-- The value in place of an item; missing items before it are nothing. -/
def putItem (place : Nat) (value : Value) (vs : List Value) : List Value :=
  (vs ++ List.replicate (place + 1 - vs.length) nothing).set place value

end Value

/-- A step into a table or a list. A negative place counts from the end. -/
inductive PathStep where
  | key (name : String)
  | place (index : Int)
  deriving DecidableEq, Repr

namespace Value

def placeOf (index : Int) (length : Nat) : Nat :=
  if 0 ≤ index then index.toNat else length - index.natAbs

/-- Puts a value at the end of a path. What stands on the path and is of another kind gives way. -/
def setAt (value : Value) : List PathStep → Value → Value
  | [], _ => value
  | [.key name], there =>
    let key := Text.lower name
    table (put key (merge (there.members.lookup key) value) there.members)
  | .key name :: path, there =>
    let key := Text.lower name
    table (put key (setAt value path ((there.members.lookup key).getD nothing)) there.members)
  | .place index :: path, there =>
    let place := placeOf index there.items.length
    list (putItem place (setAt value path ((there.items[place]?).getD nothing)) there.items)

end Value

/-! ## Paths -/

def isNameChar (c : Char) : Bool := c.isAlphanum || c ∈ [' ', '_', '-']

/-- A place is a number of 64 bits with a sign and spaces around it. -/
def placeOfText? (inner : List Char) : Option Int :=
  let isSpace (c : Char) : Bool := c = ' ' || c = '\t'
  let core := ((inner.dropWhile isSpace).reverse.dropWhile isSpace).reverse
  match core with
  | '-' :: digits =>
    ((Text.natural? 10 digits).filter (2 * · ≤ UInt64.size)).map fun n => -(n : Int)
  | digits => ((Text.natural? 10 digits).filter (2 * · < UInt64.size)).map fun n => (n : Int)

/-- The steps after the first name; at most `fuel` of them. -/
def stepsOf? : Nat → List Char → Option (List PathStep)
  | _, [] => some []
  | 0, _ => none
  | fuel + 1, '.' :: rest =>
    let name := rest.takeWhile isNameChar
    if name.isEmpty then none
    else do
      let steps ← stepsOf? fuel (rest.drop name.length)
      some (.key (String.ofList name) :: steps)
  | fuel + 1, '[' :: rest => do
    let (inner, rest) ← Text.splitFirst ']' rest
    let index ← placeOfText? inner
    let steps ← stepsOf? fuel rest
    some (.place index :: steps)
  | _, _ => none

/-- Names joined by points, each perhaps followed by places in brackets. Any other key is a single
name. -/
def pathOf (key : String) : List PathStep :=
  let text := key.toList
  let name := text.takeWhile isNameChar
  if name.isEmpty then [.key key]
  else
    match stepsOf? text.length (text.drop name.length) with
    | some steps => .key (String.ofList name) :: steps
    | none => [.key key]

end ChatGateway.Settings
