import ChatGateway.Number.Binary

/-!
# Decimal numerals and the shortest numeral of a binary datum

A numeral is a number as it is written: sign, digits, point and exponent. `Format.shortest` finds
the decimal with the fewest digits that lies among the reals rounding to a magnitude, and a
`Layout` says how it is written down.
-/
namespace ChatGateway.Number

abbrev Digit := Fin 10

def Digit.toChar (d : Digit) : Char := Char.ofNat (48 + d.val)

def Digit.ofChar? (c : Char) : Option Digit :=
  if h : 48 ≤ c.toNat ∧ c.toNat < 58 then some ⟨c.toNat - 48, by omega⟩ else none

/-- The digits of a natural number, most significant first; zero has one digit. -/
def digitsOf (n : Nat) : List Digit := go (n.log2 + 1) n []
where
  /-- Divides by ten at most `fuel` more times; `n.log2 + 1` divisions are enough. -/
  go : Nat → Nat → List Digit → List Digit
    | 0, _, acc => acc
    | fuel + 1, n, acc =>
      let digits := ⟨n % 10, Nat.mod_lt _ (by decide)⟩ :: acc
      if n < 10 then digits else go fuel (n / 10) digits

def valueOf (digits : List Digit) : Nat :=
  digits.foldl (fun n d => n * 10 + d.val) 0

/-- A number as it is written. An empty fraction stands for no point at all; the exponent holds
its sign, `true` for minus. -/
structure Numeral where
  negative : Bool
  whole : List Digit
  fraction : List Digit
  exponent : Option (Bool × List Digit)
  deriving DecidableEq, Repr

namespace Numeral

def chars (n : Numeral) : List Char :=
  (if n.negative then ['-'] else [])
    ++ n.whole.map Digit.toChar
    ++ (match n.fraction with
        | [] => []
        | digits => '.' :: digits.map Digit.toChar)
    ++ (match n.exponent with
        | none => []
        | some (minus, digits) => 'e' :: (if minus then '-' else '+') :: digits.map Digit.toChar)

def text (n : Numeral) : String := String.ofList n.chars

/-- Neither point nor exponent. -/
def isPlain (n : Numeral) : Bool := n.fraction.isEmpty && n.exponent.isNone

def ofInt (n : Int) : Numeral := ⟨decide (n < 0), digitsOf n.natAbs, [], none⟩

end Numeral

/-- The number `digits · 10 ^ exponent`. -/
structure Decimal where
  digits : Nat
  exponent : Int
  deriving DecidableEq, Repr

namespace Decimal

/-- The same number without trailing zeros. -/
def trim : Nat → Decimal → Decimal
  | 0, d => d
  | fuel + 1, d =>
    if d.digits % 10 = 0 ∧ d.digits ≠ 0 then trim fuel ⟨d.digits / 10, d.exponent + 1⟩ else d

end Decimal

/-- Positive and negative part of a power of two and of a power of ten, so that
`c · 10 ^ ten` and `x · 2 ^ two` compare as `c · a` and `x · b`. -/
def commonScale (ten two : Int) : Nat × Nat :=
  (Nat.pow 10 ten.toNat <<< (-two).toNat, Nat.pow 10 (-ten).toNat <<< two.toNat)

/-- The greatest `k` with `10 ^ k` at most the positive magnitude. -/
def Magnitude.decimalExponent (m : Magnitude) : Int :=
  let coarse := Int.fdiv ((m.mantissa.log2 + m.exponent) * 30103) 100000
  let (a, b) := commonScale (coarse + 1) m.exponent
  if a ≤ m.mantissa * b then coarse + 1 else coarse

namespace Format

/-- Of the two points next to the magnitude on the grid of `10 ^ ten`, the nearer one that rounds
to it; a tie goes to the even point. The reals rounding to a magnitude reach half way to its
neighbours, ends included when the mantissa is even. -/
def onGrid (f : Format) (m : Magnitude) (ten : Int) : Option Decimal :=
  let (a, b) := commonScale ten (m.exponent - 2)
  let value := 4 * m.mantissa * b
  let low := (4 * m.mantissa
    - (if m.mantissa = 1 <<< (f.precision - 1) ∧ f.lowest < m.exponent then 1 else 2)) * b
  let high := (4 * m.mantissa + 2) * b
  let closed := m.mantissa % 2 == 0
  let inside (x : Nat) : Bool := if closed then low ≤ x && x ≤ high else low < x && x < high
  let below := value / a
  let above := below + 1
  match inside (below * a), inside (above * a) with
  | true, true =>
    let down := value - below * a
    let up := above * a - value
    some ⟨if down < up then below else if up < down then above else below + below % 2, ten⟩
  | true, false => some ⟨below, ten⟩
  | false, true => some ⟨above, ten⟩
  | false, false => none

/-- The decimal with the fewest digits that rounds to a positive magnitude, nearest of those.
Seventeen digits are enough for every format here. -/
def shortest (f : Format) (m : Magnitude) : Decimal :=
  let top := m.decimalExponent
  match (List.range 17).findSome? fun (n : Nat) => f.onGrid m (top - n) with
  | some d => d.trim 20
  | none => ⟨m.mantissa, m.exponent⟩

end Format

namespace Format

/-- The datum nearest to a signed decimal. A decimal that is far beyond the format is not computed,
since `10 ^ k` is more than `2 ^ k` and `10 ^ -k` less than `2 ^ -k`. -/
def ofDecimal (f : Format) (negative : Bool) (d : Decimal) : Floating :=
  let size : Int := d.exponent + (digitsOf d.digits).length
  if d.digits = 0 then .finite negative ⟨0, f.lowest⟩
  else if f.highest + f.precision + 1 < size then .infinite negative
  else if size < f.lowest - 1 then .finite negative ⟨0, f.lowest⟩
  else f.datum negative (d.digits * Nat.pow 10 d.exponent.toNat) (Nat.pow 10 (-d.exponent).toNat)

end Format

/-- How a decimal is written: between the two scientific exponents positionally, elsewhere with an
exponent whose sign is always shown; `point` keeps `.0` on integral positional numerals. -/
structure Layout where
  least : Option Int
  greatest : Option Int
  point : Bool

namespace Layout

def isPositional (l : Layout) (exponent : Int) : Bool :=
  l.least.all (· ≤ exponent) && l.greatest.all (exponent ≤ ·)

def integral (l : Layout) : List Digit := if l.point then [0] else []

/-- The numeral of a decimal without trailing zeros. -/
def decimal (l : Layout) (negative : Bool) (d : Decimal) : Numeral :=
  let digits := digitsOf d.digits
  let exponent : Int := d.exponent + digits.length - 1
  if l.isPositional exponent then
    if 0 ≤ d.exponent then
      ⟨negative, digits ++ List.replicate d.exponent.toNat 0, l.integral, none⟩
    else if 0 ≤ exponent then
      let (whole, fraction) := digits.splitAt (exponent.toNat + 1)
      ⟨negative, whole, fraction, none⟩
    else
      ⟨negative, [0], List.replicate (-exponent - 1).toNat 0 ++ digits, none⟩
  else
    ⟨negative, digits.take 1, digits.drop 1,
      some (decide (exponent < 0), digitsOf exponent.natAbs)⟩

/-- The numeral of a finite datum. -/
def numeral? (l : Layout) (f : Format) : Floating → Option Numeral
  | .finite negative m =>
    if m.isZero then some ⟨negative, [0], l.integral, none⟩
    else some (l.decimal negative (f.shortest m))
  | _ => none

end Layout

end ChatGateway.Number
