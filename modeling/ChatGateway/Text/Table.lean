import ChatGateway.Text.Cut
import ChatGateway.Text.Digits

/-!
# Tables of characters

Larger tables of characters are texts. A row gives a character, or a range of characters perhaps
with a step, and after an equals sign what it says of them: numbers with commas between them. All
numbers are in base 16, and rows stand apart from each other by white space, as in

    A8=20,308 C0-D6=E0 100-12E/2=101
-/
namespace ChatGateway.Text

structure Row where
  first : Nat
  last : Nat
  step : Nat
  values : List Nat
  deriving DecidableEq, Repr

namespace Row

def ofText? (text : List Char) : Option Row := do
  let (range, values) ← splitFirst '=' text
  let (ends, step) := (splitFirst '/' range).getD (range, ['1'])
  let (first, last) := (splitFirst '-' ends).getD (ends, ends)
  let values ← if values.isEmpty then some [] else (pieces (· = ',') values).mapM (natural? 16)
  some ⟨← natural? 16 first, ← natural? 16 last, ← natural? 16 step, values⟩

def holds (row : Row) (c : Char) : Bool :=
  row.first ≤ c.toNat && c.toNat ≤ row.last && (c.toNat - row.first) % row.step = 0

end Row

/-- The rows of a table. -/
def rows (text : String) : List Row :=
  (pieces Char.isWhitespace text.toList).filterMap Row.ofText?

end ChatGateway.Text
