/-!
# UTF-8

One automaton reads bytes and is used in three ways: `decodeLossy` puts U+FFFD for every maximal
part that begins no character, `decode?` refuses the text and says where it goes wrong, and
`encode` is the inverse on text. A byte that a started character cannot take ends that character
and is read afresh, so an ASCII byte is never swallowed.
-/
namespace ChatGateway.Text.Utf8

/-- What has been read of a character: nothing, or a start that still wants `missing` bytes, the
next of them from `low` to `high`. -/
inductive Pending where
  | none
  | started (bits : Nat) (missing : Nat) (low high : UInt8)
  deriving DecidableEq, Repr

/-- What a byte that begins a character leads to. -/
inductive Lead where
  | complete (c : Char)
  | start (bits : Nat) (missing : Nat) (low high : UInt8)
  | invalid
  deriving DecidableEq, Repr

def Lead.ofByte (b : UInt8) : Lead :=
  if b < 0x80 then .complete (Char.ofNat b.toNat)
  else if b < 0xC2 then .invalid
  else if b < 0xE0 then .start (b.toNat - 0xC0) 1 0x80 0xBF
  else if b = 0xE0 then .start 0 2 0xA0 0xBF
  else if b = 0xED then .start 0xD 2 0x80 0x9F
  else if b < 0xF0 then .start (b.toNat - 0xE0) 2 0x80 0xBF
  else if b = 0xF0 then .start 0 3 0x90 0xBF
  else if b < 0xF4 then .start (b.toNat - 0xF0) 3 0x80 0xBF
  else if b = 0xF4 then .start 4 3 0x80 0x8F
  else .invalid

/-- What one byte does: the characters it completes or shows to be invalid, and what is pending
afterwards. An invalid part is `Option.none`. -/
def afresh (b : UInt8) : List (Option Char) × Pending :=
  match Lead.ofByte b with
  | .complete c => ([some c], .none)
  | .start bits missing low high => ([], .started bits missing low high)
  | .invalid => ([Option.none], .none)

def step (pending : Pending) (b : UInt8) : List (Option Char) × Pending :=
  match pending with
  | .none => afresh b
  | .started bits missing low high =>
    if low ≤ b ∧ b ≤ high then
      let bits := bits * 64 + (b.toNat - 0x80)
      if missing ≤ 1 then ([some (Char.ofNat bits)], .none)
      else ([], .started bits (missing - 1) 0x80 0xBF)
    else
      let (out, next) := afresh b
      (Option.none :: out, next)

/-- A character that is still unfinished at the end is one invalid part. -/
def Pending.flush : Pending → List (Option Char)
  | .none => []
  | .started .. => [Option.none]

/-- Characters and invalid parts of a byte string, in order. -/
def parts (bytes : List UInt8) : List (Option Char) :=
  let (out, pending) := bytes.foldl
    (fun (acc, pending) b =>
      let (out, next) := step pending b
      (out.reverseAux acc, next))
    (([] : List (Option Char)), Pending.none)
  (pending.flush.reverseAux out).reverse

def decodeLossy (bytes : List UInt8) : List Char := (parts bytes).map (·.getD '\uFFFD')

/-- Where a byte string stops being UTF-8. -/
inductive Fault where
  | invalid (length index : Nat)
  | incomplete (index : Nat)
  deriving DecidableEq, Repr

namespace Fault

def message : Fault → String
  | .invalid length index => s!"invalid utf-8 sequence of {length} bytes from index {index}"
  | .incomplete index => s!"incomplete utf-8 byte sequence from index {index}"

end Fault

/-- A part that begins no character has the bytes read since its first one. -/
def decode? (bytes : List UInt8) : Except Fault (List Char) := go bytes .none 0 0 []
where
  /-- `index` is where the pending character begins and `read` how many bytes of it are read. -/
  go : List UInt8 → Pending → Nat → Nat → List Char → Except Fault (List Char)
    | [], .none, _, _, acc => .ok acc.reverse
    | [], .started .., index, _, _ => .error (.incomplete index)
    | b :: rest, pending, index, read, acc =>
      match step pending b with
      | ([], next) => go rest next index (read + 1) acc
      | ([some c], next) => go rest next (index + read + 1) 0 (c :: acc)
      | _ => .error (.invalid (max read 1) index)

def encodeChar (c : Char) : List UInt8 :=
  let n := c.toNat
  if n < 0x80 then [n.toUInt8]
  else if n < 0x800 then [(0xC0 + n / 64).toUInt8, (0x80 + n % 64).toUInt8]
  else if n < 0x10000 then
    [(0xE0 + n / 4096).toUInt8, (0x80 + n / 64 % 64).toUInt8, (0x80 + n % 64).toUInt8]
  else
    [(0xF0 + n / 262144).toUInt8, (0x80 + n / 4096 % 64).toUInt8,
      (0x80 + n / 64 % 64).toUInt8, (0x80 + n % 64).toUInt8]

def encode (text : List Char) : List UInt8 := text.flatMap encodeChar

end ChatGateway.Text.Utf8
