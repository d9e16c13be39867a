import ChatGateway.Settings.Value
import ChatGateway.Text.Cut
import ChatGateway.Text.Digits

/-!
# Numbers, words and times in TOML

A value that is no string, array or table is one word: `Scalar.ofWord?` says what it means. Dates
and times are checked and written in a normal form.
-/
namespace ChatGateway.Settings.Toml

open ChatGateway.Number

/-- Digits, with single underscores between them. -/
def separated? (isDigit : Char → Bool) : List Char → Option (List Char)
  | [] => none
  | [c] => if isDigit c then some [c] else none
  | c :: '_' :: rest => if isDigit c then (separated? isDigit rest).map (c :: ·) else none
  | c :: rest => if isDigit c then (separated? isDigit rest).map (c :: ·) else none

/-- A number of 64 bits with a sign. -/
def integerOf? (negative : Bool) (base : Nat) (digits : List Char) : Option Value := do
  let n ← Text.natural? base digits
  let value : Int := if negative then -n else n
  if Int64.minValue.toInt ≤ value ∧ value ≤ Int64.maxValue.toInt then some (.integer value)
  else none

/-- A number in another base, without a sign. -/
def based? (base : Nat) (text : List Char) : Option Value := do
  integerOf? false base (← separated? (fun c => (Text.hexValue? c).any (· < base)) text)

/-- Without leading zeros. -/
def wholeDigits? (text : List Char) : Option (List Char) := do
  let digits ← separated? Char.isDigit text
  if digits.length ≠ 1 ∧ digits.head? = some '0' then none
  some digits

def isExponentMark (c : Char) : Bool := c = 'e' || c = 'E'

/-- An exponent with any number of digits; no mark means zero. -/
def exponentOf? (text : List Char) : Option Int :=
  match text with
  | [] => some 0
  | _ :: rest => do
    let (minus, rest) := Text.splitSign rest
    let digits ← separated? Char.isDigit rest
    let n ← Text.natural? 10 digits
    some (if minus then -(n : Int) else n)

/-- A float has a fraction or an exponent. One that is too great is refused. -/
def floatOf? (text : List Char) : Option Value := do
  let (negative, rest) := Text.splitSign text
  let mantissa := rest.takeWhile (!isExponentMark ·)
  let exponent ← exponentOf? (rest.drop mantissa.length)
  let (whole, fraction) ← match Text.splitFirst '.' mantissa with
    | some (whole, fraction) => do
      some (← wholeDigits? whole, ← separated? Char.isDigit fraction)
    | none => do some (← wholeDigits? mantissa, [])
  let digits ← Text.natural? 10 (whole ++ fraction)
  match double.ofDecimal negative ⟨digits, exponent - fraction.length⟩ with
  | .infinite false => none
  | x => some (.float x)

def numberOf? (text : List Char) : Option Value :=
  let (negative, rest) := Text.splitSign text
  match text, rest with
  | '0' :: 'x' :: digits, _ => based? 16 digits
  | '0' :: 'o' :: digits, _ => based? 8 digits
  | '0' :: 'b' :: digits, _ => based? 2 digits
  | _, ['i', 'n', 'f'] => some (.float (.infinite negative))
  | _, ['n', 'a', 'n'] => some (.float .nan)
  | _, rest =>
    match wholeDigits? rest with
    | some digits => integerOf? negative 10 digits
    | none => floatOf? text

/-! ## Dates and times -/

/-- A number of exactly so many digits, within bounds. -/
def fixed? (width least greatest : Nat) (text : List Char) : Option Nat :=
  if text.length = width then (Text.natural? 10 text).filter fun n => least ≤ n && n ≤ greatest
  else none

def isLeapYear (year : Nat) : Bool := year % 4 = 0 && (year % 100 ≠ 0 || year % 400 = 0)

def daysIn (year month : Nat) : Nat :=
  if month = 2 then (if isLeapYear year then 29 else 28)
  else if month ∈ [4, 6, 9, 11] then 30
  else 31

/-- A date has ten characters, and is left as it is. -/
def isDate (text : List Char) : Bool :=
  match text with
  | [a, b, c, d, '-', e, f, '-', g, h] =>
    match fixed? 4 0 9999 [a, b, c, d], fixed? 2 1 12 [e, f] with
    | some year, some month => (fixed? 2 1 (daysIn year month) [g, h]).isSome
    | _, _ => false
  | _ => false

/-- Hours, minutes and seconds, of which a minute may have 61. -/
def isClock (text : List Char) : Bool :=
  match text with
  | [a, b, ':', c, d, ':', e, f] =>
    (fixed? 2 0 23 [a, b]).isSome && (fixed? 2 0 59 [c, d]).isSome && (fixed? 2 0 60 [e, f]).isSome
  | _ => false

/-- Nine digits of a fraction count, and zeros at its end do not. -/
def fractionText (digits : List Char) : List Char :=
  match ((digits.take 9).reverse.dropWhile (· = '0')).reverse with
  | [] => []
  | digits => '.' :: digits

/-- A time of day, in its normal form. -/
def timeOf? (text : List Char) : Option (List Char) :=
  let clock := text.take 8
  if !isClock clock then none
  else
    match text.drop 8 with
    | [] => some clock
    | '.' :: digits =>
      if !digits.isEmpty && digits.all Char.isDigit then some (clock ++ fractionText digits)
      else none
    | _ => none

/-- What a time is offset by, in its normal form. -/
def offsetOf? (text : List Char) : Option (List Char) :=
  match text with
  | [] => some []
  | ['Z'] | ['z'] => some ['Z']
  | [sign, a, b, ':', c, d] =>
    match fixed? 2 0 23 [a, b], fixed? 2 0 59 [c, d] with
    | some hours, some minutes =>
      if sign = '+' ∨ sign = '-' then
        some ((if hours + minutes = 0 then '+' else sign) :: [a, b, ':', c, d])
      else none
    | _, _ => none
  | _ => none

/-- A date, a time of day, or both and perhaps an offset. -/
def timestampOf? (text : List Char) : Option (List Char) :=
  if text[2]? = some ':' then timeOf? text
  else if !isDate (text.take 10) then none
  else
    match text.drop 10 with
    | [] => some (text.take 10)
    | mark :: rest =>
      if mark ≠ 'T' ∧ mark ≠ 't' ∧ mark ≠ ' ' then none
      else do
        let time := rest.takeWhile fun c => c.isDigit || c = ':' || c = '.'
        let offset ← offsetOf? (rest.drop time.length)
        some (text.take 10 ++ 'T' :: (← timeOf? time) ++ offset)

/-! ## Words -/

/-- A word is a boolean, a number, or a time, which counts as a text. -/
def ofWord? (word : List Char) : Option Value :=
  match word with
  | ['t', 'r', 'u', 'e'] => some (.boolean true)
  | ['f', 'a', 'l', 's', 'e'] => some (.boolean false)
  | word =>
    match timestampOf? word with
    | some text => some (.text (String.ofList text))
    | none => numberOf? word

def isWordChar (c : Char) : Bool := c.isAlphanum || c ∈ ['+', '-', '.', ':', '_']

/-- The word at the front of a text. After a date, a space and a digit go on with it. -/
def splitWord (text : List Char) : List Char × List Char :=
  let word := text.takeWhile isWordChar
  match text.drop word.length with
  | ' ' :: c :: rest =>
    if c.isDigit && isDate word then
      let time := (c :: rest).takeWhile isWordChar
      (word ++ ' ' :: time, (c :: rest).drop time.length)
    else (word, ' ' :: c :: rest)
  | rest => (word, rest)

end ChatGateway.Settings.Toml
