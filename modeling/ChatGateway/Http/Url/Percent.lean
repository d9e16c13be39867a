import ChatGateway.Text.Digits
import ChatGateway.Text.Utf8

/-!
# Percent codes

What a part of a URL may not hold is written as the codes of its bytes. Which characters those are
differs from part to part.
-/
namespace ChatGateway.Http.Url

def hexDigit (n : Nat) : Char := (Nat.digitChar n).toUpper

def percent (b : UInt8) : List Char := ['%', hexDigit (b.toNat / 16), hexDigit (b.toNat % 16)]

/-- Control characters, everything outside ASCII, and the characters of `special` become percent
codes. -/
def encodeChar (special : String) (c : Char) : List Char :=
  if c.toNat < 0x20 ∨ 0x7E < c.toNat ∨ c ∈ special.toList then
    (Text.Utf8.encodeChar c).flatMap percent
  else [c]

def encode (special : String) (text : List Char) : String :=
  String.ofList (text.flatMap (encodeChar special))

def fragmentSet : String := " \"<>`"
def pathSet : String := " \"<>`#?\x7b\x7d"
def loginSet : String := " \"<>`#?\x7b\x7d/:;=@[\\]^|"
def querySet : String := " \"#<>"
def specialQuerySet : String := " \"#<>'"

/-- Percent codes in a host stand for their bytes. -/
def decodePercent : List Char → List UInt8
  | '%' :: a :: b :: rest =>
    match Text.hexValue? a, Text.hexValue? b with
    | some a, some b => (a * 16 + b).toUInt8 :: decodePercent rest
    | _, _ => Text.Utf8.encodeChar '%' ++ decodePercent (a :: b :: rest)
  | c :: rest => Text.Utf8.encodeChar c ++ decodePercent rest
  | [] => []

end ChatGateway.Http.Url
