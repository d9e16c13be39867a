/-!
# Base64, standard alphabet

Three bytes are four digits. The last group may be short; it is filled up with `=`, and the bits
its last digit does not need are zero. `decode?` reads exactly what `encode` writes.
-/
namespace ChatGateway.Text.Base64

/-- The digit of a number below 64. -/
def digit (n : Nat) : Char :=
  if n < 26 then Char.ofNat (65 + n)
  else if n < 52 then Char.ofNat (71 + n)
  else if n < 62 then Char.ofNat (n - 4)
  else if n = 62 then '+'
  else '/'

def value? (c : Char) : Option Nat :=
  if 'A' ≤ c ∧ c ≤ 'Z' then some (c.toNat - 65)
  else if 'a' ≤ c ∧ c ≤ 'z' then some (c.toNat - 71)
  else if '0' ≤ c ∧ c ≤ '9' then some (c.toNat + 4)
  else if c = '+' then some 62
  else if c = '/' then some 63
  else none

/-- Written back to front onto `acc`, so that long payloads need no deep recursion. -/
def encodeOnto (acc : List Char) : List UInt8 → List Char
  | [] => acc
  | [a] => '=' :: '=' :: digit (a.toNat % 4 * 16) :: digit (a.toNat / 4) :: acc
  | [a, b] =>
    '=' :: digit (b.toNat % 16 * 4) :: digit (a.toNat % 4 * 16 + b.toNat / 16)
      :: digit (a.toNat / 4) :: acc
  | a :: b :: c :: rest =>
    encodeOnto
      (digit (c.toNat % 64) :: digit (b.toNat % 16 * 4 + c.toNat / 64)
        :: digit (a.toNat % 4 * 16 + b.toNat / 16) :: digit (a.toNat / 4) :: acc)
      rest

def encode (bytes : List UInt8) : List Char := (encodeOnto [] bytes).reverse

/-- Bytes are collected back to front. A padded group is the last one. -/
def decodeOnto (acc : List UInt8) : List Char → Option (List UInt8)
  | [] => some acc
  | [a, b, '=', '='] => do
    let a ← value? a
    let b ← value? b
    if b % 16 = 0 then some ((a * 4 + b / 16).toUInt8 :: acc) else none
  | [a, b, c, '='] => do
    let a ← value? a
    let b ← value? b
    let c ← value? c
    if c % 4 = 0 then some ((b % 16 * 16 + c / 4).toUInt8 :: (a * 4 + b / 16).toUInt8 :: acc)
    else none
  | a :: b :: c :: d :: rest =>
    match value? a, value? b, value? c, value? d with
    | some a, some b, some c, some d =>
      decodeOnto
        ((c % 4 * 64 + d).toUInt8 :: (b % 16 * 16 + c / 4).toUInt8 :: (a * 4 + b / 16).toUInt8
          :: acc)
        rest
    | _, _, _, _ => none
  | _ => none

def decode? (text : List Char) : Option (List UInt8) := (decodeOnto [] text).map List.reverse

end ChatGateway.Text.Base64
