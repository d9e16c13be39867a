import ChatGateway.Http.Domain.Name
import ChatGateway.Http.Url.Percent

/-!
# Hosts

A host is a domain name or an address. Addresses have a normal form, and domain names are written in
ASCII.
-/
namespace ChatGateway.Http.Url

/-! ## Addresses of four bytes -/

/-- A number in base 16 after `0x`, in base 8 after `0`, else in base 10. -/
def addressNumber? (text : List Char) : Option Nat :=
  let digits (base : Nat) (text : List Char) : Option Nat :=
    if text.isEmpty then some 0 else Text.natural? base text
  match text with
  | [] => none
  | '0' :: 'x' :: rest | '0' :: 'X' :: rest => digits 16 rest
  | '0' :: rest => digits 8 rest
  | text => digits 10 text

/-- A host whose last label is a number is an address, or wrong. -/
def isAddress (labels : List (List Char)) : Bool :=
  match labels.getLast? with
  | some last =>
    !last.isEmpty && (last.all Char.isDigit || (addressNumber? last).isSome)
  | none => false

/-- Four bytes; the last number fills the bytes that are not given. -/
def address? (labels : List (List Char)) : Option String := do
  let numbers ← labels.mapM addressNumber?
  if 4 < numbers.length then none
  let last ← numbers.getLast?
  let leading := numbers.dropLast
  if leading.any (255 < ·) || Nat.pow 256 (5 - numbers.length) ≤ last then none
  let high := leading.foldl (fun n b => n * 256 + b) 0
  let value := high * Nat.pow 256 (5 - numbers.length) + last
  some (".".intercalate
    [toString (value / 16777216), toString (value / 65536 % 256), toString (value / 256 % 256),
      toString (value % 256)])

/-! ## Addresses of eight groups -/

/-- A byte without leading zeros. -/
def byte? (text : List Char) : Option Nat :=
  match text with
  | '0' :: _ :: _ => none
  | text => (Text.natural? 10 text).filter (· ≤ 255)

/-- The last two groups, written as four bytes. -/
def bytes? (piece : List Char) : Option (List Nat) := do
  match ← (Text.pieces (· = '.') piece).mapM byte? with
  | [a, b, c, d] => some [a * 256 + b, c * 256 + d]
  | _ => none

def group? (piece : List Char) : Option Nat :=
  if 4 < piece.length then none else Text.natural? 16 piece

/-- The groups of a piece of an address. At the end of the address four bytes may stand. -/
def groups? (atEnd : Bool) (text : List Char) : Option (List Nat) :=
  if text.isEmpty then some []
  else do
    let pieces := Text.pieces (· = ':') text
    let leading ← pieces.dropLast.mapM group?
    let last ← pieces.getLast?
    let final ← if atEnd && '.' ∈ last then bytes? last else (group? last).map fun g => [g]
    some (leading ++ final)

/-- The first longest run of at least two zero groups: where it begins and how long it is. -/
def longestZeros (groups : List Nat) : Option (Nat × Nat) :=
  let runs := (List.range groups.length).map fun start =>
    (start, ((groups.drop start).takeWhile (· = 0)).length)
  runs.foldl
    (fun best run =>
      let length := (best.map Prod.snd).getD 1
      if length < run.2 then some run else best)
    none

def writeGroups (groups : List Nat) : String :=
  let hex (part : List Nat) : String :=
    ":".intercalate (part.map fun g => String.ofList (Nat.toDigits 16 g))
  match longestZeros groups with
  | some (start, length) => hex (groups.take start) ++ "::" ++ hex (groups.drop (start + length))
  | none => hex groups

/-- The text before and after the first double colon. -/
def splitDouble : List Char → Option (List Char × List Char)
  | ':' :: ':' :: rest => some ([], rest)
  | c :: rest => (splitDouble rest).map fun (before, after) => (c :: before, after)
  | [] => none

/-- An address of eight groups; a double colon stands for zero groups. -/
def groupAddress? (text : List Char) : Option String := do
  match splitDouble text with
  | some (left, right) =>
    let left ← groups? false left
    let right ← groups? true right
    if 7 < left.length + right.length then none
    some (writeGroups (left ++ List.replicate (8 - left.length - right.length) 0 ++ right))
  | none =>
    let groups ← groups? true text
    if groups.length ≠ 8 then none
    some (writeGroups groups)

/-- An address of eight groups, in brackets. -/
def bracketed? (inner : List Char) : Option String :=
  match inner.getLast? with
  | some ']' => (groupAddress? inner.dropLast).map fun address => "[" ++ address ++ "]"
  | _ => none

/-! ## Hosts -/

/-- The host of a URL whose scheme has an authority of its own kind. -/
def host? (text : List Char) : Option String :=
  match text with
  | '[' :: inner => bracketed? inner
  | text => do
    let labels ← Domain.labels? (Text.Utf8.decodeLossy (decodePercent text))
    let significant := if labels.getLast? = some [] then labels.dropLast else labels
    if isAddress significant then address? significant
    else if labels = [[]] then none
    else some (String.ofList (['.'].intercalate labels))

/-- A character that no host has, whatever the scheme. -/
def isNeverInHost (c : Char) : Bool := c.toNat = 0 || c ∈ " #/:<>?@[\\]^|".toList

/-- The host of any other URL, which may be empty. -/
def opaqueHost? (text : List Char) : Option String :=
  match text with
  | '[' :: inner => bracketed? inner
  | text => if text.any isNeverInHost then none else some (encode "" text)

end ChatGateway.Http.Url
