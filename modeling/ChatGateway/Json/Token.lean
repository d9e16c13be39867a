import ChatGateway.Json.Reading
import ChatGateway.Text.Digits

/-!
# Tokens of a JSON text

An automaton that takes one character at a time. A number ends at the first character that cannot
continue it, which is then taken afresh; a character that fits nowhere ends the tokens.
-/
namespace ChatGateway.Json

open ChatGateway.Number (Digit Numeral)

inductive Token where
  | openArray
  | closeArray
  | openObject
  | closeObject
  | colon
  | comma
  /-- A whole literal, number or string. -/
  | leaf (value : Reading)
  /-- Text that is no token. -/
  | bad
  deriving Repr

namespace Token

/-- Where a number stands. -/
inductive Phase where
  | sign
  | zero
  | whole
  | point
  | fraction
  | mark
  | exponentSign
  | exponent
  deriving DecidableEq, Repr

/-- A number may end here. -/
def Phase.isComplete : Phase → Bool
  | .zero | .whole | .fraction | .exponent => true
  | _ => false

/-- A string being read: its characters back to front, whether every escape so far was a
character, and the first half of a surrogate pair if the second has to follow. -/
structure Draft where
  reversed : List Char := []
  paired : Bool := true
  high : Option Nat := none
  deriving DecidableEq, Repr

namespace Draft

def push (d : Draft) (c : Char) : Draft :=
  { reversed := c :: d.reversed, paired := d.paired && d.high.isNone }

/-- An escaped unit of 16 bits: a character, or half of a surrogate pair. -/
def pushUnit (d : Draft) (unit : Nat) : Draft :=
  match d.high with
  | some high =>
    if 0xDC00 ≤ unit ∧ unit < 0xE000 then
      { d with
        reversed := Char.ofNat (0x10000 + (high - 0xD800) * 1024 + (unit - 0xDC00)) :: d.reversed
        high := none }
    else { d with paired := false, high := none }
  | none =>
    if 0xD800 ≤ unit ∧ unit < 0xDC00 then { d with high := some unit }
    else if 0xDC00 ≤ unit ∧ unit < 0xE000 then { d with paired := false }
    else { d with reversed := Char.ofNat unit :: d.reversed }

def reading (d : Draft) : Reading :=
  if d.paired && d.high.isNone then .string (String.ofList d.reversed.reverse) else .unpaired

end Draft

/-- A number's digits are collected back to front. -/
def turn (n : Numeral) : Numeral :=
  { n with
    whole := n.whole.reverse
    fraction := n.fraction.reverse
    exponent := n.exponent.map fun (minus, digits) => (minus, digits.reverse) }

inductive State where
  | ready
  | word (rest : List Char) (value : Reading)
  | text (draft : Draft)
  | escape (draft : Draft)
  | hex (draft : Draft) (unit count : Nat)
  | number (phase : Phase) (reversed : Numeral)
  | stopped
  deriving Repr

/-- What a single letter after a backslash stands for. -/
def escaped? : Char → Option Char
  | '"' => some '"'
  | '\\' => some '\\'
  | '/' => some '/'
  | 'b' => some '\x08'
  | 'f' => some '\x0c'
  | 'n' => some '\n'
  | 'r' => some '\r'
  | 't' => some '\t'
  | _ => none

/-- Where a character takes a number, or `none` if it does not continue it. -/
def advance (phase : Phase) (n : Numeral) (c : Char) : Option (Phase × Numeral) :=
  let exponentMark : Option (Phase × Numeral) :=
    if c = 'e' ∨ c = 'E' then some (.mark, { n with exponent := some (false, []) }) else none
  match phase, Digit.ofChar? c with
  | .sign, some d => some (if d.val = 0 then .zero else .whole, { n with whole := [d] })
  | .whole, some d => some (.whole, { n with whole := d :: n.whole })
  | .point, some d => some (.fraction, { n with fraction := [d] })
  | .fraction, some d => some (.fraction, { n with fraction := d :: n.fraction })
  | .mark, some d => some (.exponent, { n with exponent := some (false, [d]) })
  | .exponentSign, some d | .exponent, some d =>
    some (.exponent, { n with exponent := n.exponent.map fun (minus, ds) => (minus, d :: ds) })
  | .zero, none | .whole, none => if c = '.' then some (.point, n) else exponentMark
  | .fraction, none => exponentMark
  | .mark, none =>
    if c = '+' then some (.exponentSign, n)
    else if c = '-' then some (.exponentSign, { n with exponent := some (true, []) })
    else none
  | _, _ => none

/-- A character outside every token. -/
def start (c : Char) : List Token × State :=
  match c with
  | ' ' | '\t' | '\n' | '\r' => ([], .ready)
  | '[' => ([.openArray], .ready)
  | ']' => ([.closeArray], .ready)
  | '\x7b' => ([.openObject], .ready)
  | '\x7d' => ([.closeObject], .ready)
  | ':' => ([.colon], .ready)
  | ',' => ([.comma], .ready)
  | '"' => ([], .text {})
  | 'n' => ([], .word ['u', 'l', 'l'] .null)
  | 't' => ([], .word ['r', 'u', 'e'] (.bool true))
  | 'f' => ([], .word ['a', 'l', 's', 'e'] (.bool false))
  | '-' => ([], .number .sign ⟨true, [], [], none⟩)
  | c =>
    match advance .sign ⟨false, [], [], none⟩ c with
    | some (phase, n) => ([], .number phase n)
    | none => ([.bad], .stopped)

/-- The tokens that a character ends, and the state after it. -/
def step (state : State) (c : Char) : List Token × State :=
  match state with
  | .stopped => ([], .stopped)
  | .ready => start c
  | .word [] _ => ([.bad], .stopped)
  | .word [last] value => if c = last then ([.leaf value], .ready) else ([.bad], .stopped)
  | .word (next :: rest) value =>
    if c = next then ([], .word rest value) else ([.bad], .stopped)
  | .text d =>
    if c = '"' then ([.leaf d.reading], .ready)
    else if c = '\\' then ([], .escape d)
    else if c.toNat < 0x20 then ([.bad], .stopped)
    else ([], .text (d.push c))
  | .escape d =>
    if c = 'u' then ([], .hex d 0 0)
    else
      match escaped? c with
      | some c => ([], .text (d.push c))
      | none => ([.bad], .stopped)
  | .hex d unit count =>
    match Text.hexValue? c with
    | some v =>
      let unit := unit * 16 + v
      if count = 3 then ([], .text (d.pushUnit unit)) else ([], .hex d unit (count + 1))
    | none => ([.bad], .stopped)
  | .number phase n =>
    match advance phase n c with
    | some (phase, n) => ([], .number phase n)
    | none =>
      if phase.isComplete && !(phase = .zero && (Digit.ofChar? c).isSome) then
        let (tokens, state) := start c
        (.leaf (.number (turn n)) :: tokens, state)
      else ([.bad], .stopped)

/-- What the end of the text makes of a state. -/
def finish : State → List Token
  | .ready | .stopped => []
  | .number phase n => if phase.isComplete then [.leaf (.number (turn n))] else [.bad]
  | _ => [.bad]

def ofChars (text : List Char) : List Token :=
  let (reversed, state) := text.foldl
    (fun (acc, state) c =>
      let (tokens, next) := step state c
      (tokens.reverseAux acc, next))
    (([] : List Token), State.ready)
  ((finish state).reverseAux reversed).reverse

end Token

end ChatGateway.Json
