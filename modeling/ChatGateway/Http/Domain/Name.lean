import ChatGateway.Http.Domain.Direction
import ChatGateway.Http.Domain.Joining
import ChatGateway.Http.Domain.Punycode

/-!
# Domain names

A name is brought into a normal form, checked label by label, and written in ASCII. A label that is
written with `xn--` in front stands for the label that it encodes, which has to be in normal form
already.
-/
namespace ChatGateway.Http.Domain

/-- What a label begins with that encodes another. -/
def encodedLead : String := "xn--"

def isAscii (label : List Char) : Bool := label.all (·.toNat < 128)

/-- What is taken for the characters of a name, in normal form. -/
def normalize? (name : List Char) : Option (List Char) := do
  some (Text.compose (← name.mapM image?).flatten)

/-- A label outside ASCII begins with no mark and has joiners only where they may stand. -/
def isSound (label : List Char) : Bool := !label.head?.any isMark && areJoinersFit [] label

/-- No label outside ASCII is longer, and no encoding is longer than twice that. -/
def longest : Nat := 1000

/-- The label that a label of a name in normal form stands for. -/
def meaning? (label : List Char) : Option (List Char) :=
  let encoded := label.drop encodedLead.length
  if !encodedLead.toList.isPrefixOf label then some label
  else if !isAscii label ∨ 2 * longest < encoded.length then none
  else do
    let meant ← Punycode.decode? encoded
    if (← normalize? meant) = meant then some meant else none

/-- A label in ASCII. -/
def asciiLabel (label : List Char) : List Char :=
  if isAscii label then label else encodedLead.toList ++ Punycode.encode label

/-- A character that no name has. -/
def isForbidden (c : Char) : Bool :=
  c.toNat ≤ 0x20 || c.toNat = 0x7F || c ∈ "#/:<>?@[\\]^|%".toList

/-- The labels of a name, in ASCII. -/
def labels? (name : List Char) : Option (List (List Char)) := do
  let labels ← (Text.pieces (· = '.') (← normalize? name)).mapM meaning?
  let isFine (label : List Char) : Bool :=
    !label.any isForbidden && (isAscii label || (isSound label && label.length ≤ longest))
  if labels.all isFine && (!labels.any isMixed || labels.all isOrdered) then
    some (labels.map asciiLabel)
  else none

end ChatGateway.Http.Domain
