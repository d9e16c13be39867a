import ChatGateway.Text.Ranges

/-!
# White space and letter case

`isBlank` is the Unicode property White_Space, as tables of its ranges. Letter case is needed only
to compare with ASCII words, so `lower` maps those characters whose lower case is ASCII.
-/
namespace ChatGateway.Text

/-- The ranges of the property White_Space. -/
def blankRanges : List (Nat × Nat) :=
  [(0x09, 0x0D), (0x20, 0x20), (0x85, 0x85), (0xA0, 0xA0), (0x1680, 0x1680), (0x2000, 0x200A),
   (0x2028, 0x2029), (0x202F, 0x202F), (0x205F, 0x205F), (0x3000, 0x3000)]

def isBlank (c : Char) : Bool := inRanges blankRanges c

/-- Without the white space at both ends. -/
def trim (text : List Char) : List Char :=
  ((text.dropWhile isBlank).reverse.dropWhile isBlank).reverse

/-- The Kelvin sign is the one character outside ASCII whose lower case is a single ASCII letter;
every other character that is no capital letter of ASCII stays as it is. -/
def lowerChar (c : Char) : Char := if c = '\u212A' then 'k' else c.toLower

def lower (text : String) : String := String.ofList (text.toList.map lowerChar)

end ChatGateway.Text
