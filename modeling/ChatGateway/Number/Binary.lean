/-!
# Binary floating point in exact arithmetic

Magnitudes are `mantissa · 2 ^ exponent` over `Nat` and `Int`, so that rounding, products and
quotients are ordinary arithmetic. `Format.round` gives the magnitude of a format that is nearest
to a fraction, a tie going to the even mantissa.
-/
namespace ChatGateway.Number

/-- A binary format: how many bits a mantissa has, and the least and greatest exponent of its
last bit. -/
structure Format where
  precision : Nat
  lowest : Int
  highest : Int
  deriving DecidableEq, Repr

/-- The 32-bit format. -/
def single : Format := ⟨24, -149, 104⟩

/-- The 64-bit format. -/
def double : Format := ⟨53, -1074, 971⟩

structure Magnitude where
  mantissa : Nat
  exponent : Int
  deriving DecidableEq, Repr

/-- A datum of a binary format. -/
inductive Floating where
  | finite (negative : Bool) (magnitude : Magnitude)
  | infinite (negative : Bool)
  | nan
  deriving DecidableEq, Repr

namespace Magnitude

/-- With `denominator`, the magnitude as a fraction. -/
def numerator (m : Magnitude) : Nat := m.mantissa <<< m.exponent.toNat

def denominator (m : Magnitude) : Nat := 1 <<< (-m.exponent).toNat

def isZero (m : Magnitude) : Bool := m.mantissa == 0

end Magnitude

/-- The integer nearest to `num / den`; a tie goes to the even one. -/
def nearest (num den : Nat) : Nat :=
  let quotient := num / den
  let doubled := 2 * (num % den)
  if doubled < den then quotient
  else if den < doubled then quotient + 1
  else quotient + quotient % 2

/-- The fraction `num / den` divided by `2 ^ exponent`. -/
def scaleDown (num den : Nat) (exponent : Int) : Nat × Nat :=
  (num <<< (-exponent).toNat, den <<< exponent.toNat)

namespace Format

/-- The exponent at which the quotient of a positive fraction fills the mantissa, but never less
than the lowest one. -/
def exponentFor (f : Format) (num den : Nat) : Int :=
  let coarse : Int := num.log2 - den.log2 - f.precision + 1
  let (n, d) := scaleDown num den coarse
  max f.lowest (if n / d < 1 <<< (f.precision - 1) then coarse - 1 else coarse)

/-- The magnitude nearest to `num / den`, or `none` when that lies beyond the format. -/
def round (f : Format) (num den : Nat) : Option Magnitude :=
  if num = 0 then some ⟨0, f.lowest⟩
  else
    let exponent := f.exponentFor num den
    let (n, d) := scaleDown num den exponent
    let mantissa := nearest n d
    let rounded : Magnitude :=
      if mantissa = 1 <<< f.precision then ⟨1 <<< (f.precision - 1), exponent + 1⟩
      else ⟨mantissa, exponent⟩
    if f.highest < rounded.exponent then none else some rounded

def multiply (f : Format) (a b : Magnitude) : Option Magnitude :=
  f.round (a.numerator * b.numerator) (a.denominator * b.denominator)

def divide (f : Format) (a b : Magnitude) : Option Magnitude :=
  f.round (a.numerator * b.denominator) (a.denominator * b.numerator)

/-- The datum nearest to a signed fraction; what lies beyond the format is infinite. -/
def datum (f : Format) (negative : Bool) (num den : Nat) : Floating :=
  match f.round num den with
  | some m => .finite negative m
  | none => .infinite negative

/-- The datum of this format nearest to one of another format. -/
def convert (f : Format) : Floating → Floating
  | .finite negative m => f.datum negative m.numerator m.denominator
  | .infinite negative => .infinite negative
  | .nan => .nan

/-- The datum nearest to an integer. -/
def ofInt (f : Format) (n : Int) : Floating := f.datum (decide (n < 0)) n.natAbs 1

end Format

namespace Floating

def isFinite : Floating → Bool
  | .finite _ _ => true
  | _ => false

/-- Zero of either sign. -/
def isZero : Floating → Bool
  | .finite _ m => m.isZero
  | _ => false

/-- The nearest integer, a half going away from zero. Not-a-number has none, and an infinite
datum is beyond every integer. -/
def roundAway : Floating → Option Int
  | .finite negative m =>
    let quotient := (2 * m.numerator + m.denominator) / (2 * m.denominator)
    some (if negative then -quotient else quotient)
  | _ => none

end Floating

end ChatGateway.Number
