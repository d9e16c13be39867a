import ChatGateway.Json.Basic

/-!
# The number that a JSON numeral stands for

A plain numeral that fits 64 bits is an integer. Every other one is a 64-bit float: its leading
digits, as many as fit 64 bits, are scaled by a power of ten. That takes one rounding for the
digits and one for the scaling, so the result can differ in its last bit from the float nearest
to the numeral.
-/
namespace ChatGateway.Json

open ChatGateway.Number

inductive Number where
  | integer (value : Int)
  | float (value : Floating)
  deriving DecidableEq, Repr

/-- The greatest number of 64 bits. -/
def wordLimit : Nat := UInt64.size - 1

/-- Digits that fit 64 bits, and by which power of ten they are to be scaled. `full` tells that a
digit was left out. -/
structure Leading where
  digits : Nat
  shift : Int
  full : Bool
  deriving DecidableEq, Repr

namespace Leading

/-- A digit before the point that does not fit counts as a factor ten. -/
def pushWhole (l : Leading) (d : Digit) : Leading :=
  if !l.full && l.digits * 10 + d.val ≤ wordLimit then { l with digits := l.digits * 10 + d.val }
  else { l with shift := l.shift + 1, full := true }

/-- A digit after the point that does not fit is dropped, with all that follow. -/
def pushFraction (l : Leading) (d : Digit) : Leading :=
  if !l.full && l.digits * 10 + d.val ≤ wordLimit then
    { l with digits := l.digits * 10 + d.val, shift := l.shift - 1 }
  else { l with full := true }

end Leading

/-- Divides by `10 ^ down`, in steps of at most `10 ^ 308`. Three steps bring every number of
64 bits to zero. -/
def scaleBelow : Nat → Magnitude → Nat → Option Magnitude
  | 0, _, _ => some ⟨0, double.lowest⟩
  | steps + 1, m, down => do
    let power ← double.round (Nat.pow 10 (min down 308)) 1
    let quotient ← double.divide m power
    if down ≤ 308 then some quotient else scaleBelow steps quotient (down - 308)

/-- The float of some leading digits, or `none` beyond the range of floats. -/
def scale (digits : Nat) (shift : Int) : Option Magnitude := do
  let m ← double.round digits 1
  if shift < 0 then scaleBelow 3 m (-shift).toNat
  else if shift ≤ 308 then
    let power ← double.round (Nat.pow 10 shift.toNat) 1
    double.multiply m power
  else if m.isZero then some m
  else none

/-- An exponent of this size or more is not computed with. -/
def exponentLimit : Nat := UInt32.size / 2

/-- What a numeral stands for; `none` is a number out of range. -/
def Number.ofNumeral? (n : Numeral) : Option Number :=
  let whole := n.whole.foldl Leading.pushWhole ⟨0, 0, false⟩
  let float (m : Option Magnitude) : Option Number := m.map fun m => .float (.finite n.negative m)
  if n.isPlain && !whole.full
      && (!n.negative
        || (decide (0 < whole.digits) && decide (whole.digits ≤ UInt64.size / 2))) then
    some (.integer (if n.negative then -(whole.digits : Int) else whole.digits))
  else
    let all := n.fraction.foldl Leading.pushFraction { whole with full := false }
    match n.exponent with
    | none => float (scale all.digits all.shift)
    | some (minus, digits) =>
      let exponent := valueOf digits
      if exponentLimit ≤ exponent then
        if all.digits ≠ 0 && !minus then none else float (some ⟨0, double.lowest⟩)
      else float (scale all.digits (if minus then all.shift - exponent else all.shift + exponent))

end ChatGateway.Json
