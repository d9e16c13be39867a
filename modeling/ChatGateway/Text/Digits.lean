/-!
# Numbers written in ASCII digits
-/
namespace ChatGateway.Text

def hexValue? (c : Char) : Option Nat :=
  if '0' ≤ c ∧ c ≤ '9' then some (c.toNat - 48)
  else if 'a' ≤ c ∧ c ≤ 'f' then some (c.toNat - 87)
  else if 'A' ≤ c ∧ c ≤ 'F' then some (c.toNat - 55)
  else none

/-- One or more digits of a base up to 16, and nothing else. -/
def natural? (base : Nat) (text : List Char) : Option Nat :=
  if text.isEmpty then none
  else text.foldlM (fun n c => do some (n * base + (← (hexValue? c).filter (· < base)))) 0

/-- Whether there is a minus sign, and the text after the sign. -/
def splitSign (text : List Char) : Bool × List Char :=
  match text with
  | '-' :: rest => (true, rest)
  | '+' :: rest => (false, rest)
  | rest => (false, rest)

/-- Decimal digits, perhaps after a plus sign. -/
def unsigned? (text : List Char) : Option Nat :=
  match text with
  | '+' :: rest => natural? 10 rest
  | text => natural? 10 text

/-- Digits with perhaps a point before, among or after them, and perhaps an exponent. -/
def isDecimal (text : List Char) : Bool :=
  let whole := text.takeWhile Char.isDigit
  let (fraction, rest) :=
    match text.drop whole.length with
    | '.' :: rest => (rest.takeWhile Char.isDigit, rest.dropWhile Char.isDigit)
    | rest => ([], rest)
  !(whole.isEmpty && fraction.isEmpty) &&
    match rest with
    | [] => true
    | mark :: power => mark ∈ ['e', 'E'] && (natural? 10 (splitSign power).2).isSome

end ChatGateway.Text
