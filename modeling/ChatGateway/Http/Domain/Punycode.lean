import ChatGateway.Text.Digits

/-!
# Labels in ASCII

Punycode writes a label with ASCII letters, digits and hyphens: first the ASCII characters as they
are, then the place and the number of each other character, in the order of their numbers. Both
are told by one number, the difference from the character before, whose digits tell where it ends.
How many digits are expected adapts to the numbers that have come. No loop needs fuel: a number
shrinks when a digit is taken off, and reading shortens the text.
-/
namespace ChatGateway.Http.Domain.Punycode

def base : Nat := 36

/-- What is reached before the first number. -/
def firstOther : Nat := 128
def firstBias : Nat := 72

/-- A digit below the threshold ends a number; `k` grows by the base with each digit. -/
def threshold (bias k : Nat) : Nat :=
  if k ≤ bias then 1 else min 26 (k - bias)

theorem threshold_pos (bias k : Nat) : 1 ≤ threshold bias k := by
  unfold threshold
  split <;> omega

/-- The bias for a difference, which is made smaller first. -/
def scale (k delta : Nat) : Nat :=
  if 455 < delta then scale (k + base) (delta / 35) else k + 36 * delta / (delta + 38)
termination_by delta
decreasing_by exact Nat.div_lt_self (by omega) (by omega)

/-- The bias after a number: `count` characters have come, and `isFirst` tells that it is the first
number. -/
def adapt (delta count : Nat) (isFirst : Bool) : Nat :=
  let delta := if isFirst then delta / 700 else delta / 2
  scale 0 (delta + delta / count)

/-! ## Writing -/

def digit (n : Nat) : Char := if n < 26 then Char.ofNat (97 + n) else Char.ofNat (22 + n)

/-- The digits of a number. -/
def writeNumber (bias k n : Nat) : List Char :=
  let t := threshold bias k
  if n < t then [digit n]
  else digit (t + (n - t) % (base - t)) :: writeNumber bias (k + base) ((n - t) / (base - t))
termination_by n
decreasing_by
  have h := threshold_pos bias k
  exact Nat.lt_of_le_of_lt (Nat.div_le_self _ _) (by omega)

/-- What has been written: the number reached, the difference so far, the bias, how many characters
have been written, and the digits. -/
structure Writing where
  reached : Nat := firstOther
  delta : Nat := 0
  bias : Nat := firstBias
  count : Nat
  out : List Char := []

/-- Goes past a character on the way round for those with the number `n`. -/
def writeOne (basic n : Nat) (w : Writing) (c : Char) : Writing :=
  if c.toNat < n then { w with delta := w.delta + 1 }
  else if c.toNat = n then
    { w with
      delta := 0
      bias := adapt w.delta (w.count + 1) (w.count == basic)
      count := w.count + 1
      out := w.out ++ writeNumber w.bias base w.delta }
  else w

/-- Goes round the label once for the characters with the number `n`. -/
def writeAll (label : List Char) (basic : Nat) (w : Writing) (n : Nat) : Writing :=
  let w := { w with delta := w.delta + (n - w.reached) * (w.count + 1) }
  let w := label.foldl (writeOne basic n) w
  { w with delta := w.delta + 1, reached := n + 1 }

/-- Puts a number into a list of numbers in order, unless it is there. -/
def insertNumber (n : Nat) : List Nat → List Nat
  | [] => [n]
  | m :: rest =>
    if n < m then n :: m :: rest
    else if n = m then m :: rest
    else m :: insertNumber n rest

/-- The numbers of the characters outside ASCII, each once, in order. -/
def others (label : List Char) : List Nat :=
  ((label.map Char.toNat).filter (firstOther ≤ ·)).foldr insertNumber []

/-- A label that is not all ASCII. -/
def encode (label : List Char) : List Char :=
  let basic := label.filter (·.toNat < firstOther)
  let w := (others label).foldl (writeAll label basic.length) { count := basic.length }
  basic ++ (if basic.isEmpty then [] else ['-']) ++ w.out

/-! ## Reading -/

def digit? (c : Char) : Option Nat :=
  if c.isDigit then some (c.toNat - 22) else if c.isLower then some (c.toNat - 97) else none

/-- No number is greater. -/
def limit : Nat := UInt32.size

/-- A number at the front of the text, times `weight` and added to `value`. -/
def readNumber? (bias k weight value : Nat) : List Char → Option (Nat × List Char)
  | [] => none
  | c :: rest =>
    match digit? c with
    | none => none
    | some d =>
      let value := value + d * weight
      let t := threshold bias k
      if limit ≤ value then none
      else if d < t then some (value, rest)
      else if limit ≤ weight * (base - t) then none
      else readNumber? bias (k + base) (weight * (base - t)) value rest

theorem length_of_readNumber? {bias k weight value : Nat} {text rest : List Char} {n : Nat}
    (h : readNumber? bias k weight value text = some (n, rest)) : rest.length < text.length := by
  induction text generalizing k weight value with
  | nil => simp [readNumber?] at h
  | cons c tail ih =>
    unfold readNumber? at h
    split at h
    · cases h
    · dsimp only at h
      split at h
      · cases h
      · split at h
        · simp only [Option.some.injEq, Prod.mk.injEq] at h
          obtain ⟨-, rfl⟩ := h
          simp
        · split at h
          · cases h
          · exact Nat.lt_succ_of_lt (ih h)

/-- Reads number after number and puts in the characters. -/
def readAll? (n place bias : Nat) (label text : List Char) : Option (List Char) :=
  if text.isEmpty then some label
  else
    match _h : readNumber? bias base 1 place text with
    | none => none
    | some (reached, rest) =>
      let count := label.length + 1
      let n := n + reached / count
      let spot := reached % count
      if n.isValidChar then
        readAll? n (spot + 1) (adapt (reached - place) count (place == 0))
          (label.take spot ++ Char.ofNat n :: label.drop spot) rest
      else none
termination_by text.length
decreasing_by exact length_of_readNumber? _h

/-- A label that is not all ASCII: what follows the last hyphen is put into the ASCII characters
before it. -/
def decode? (text : List Char) : Option (List Char) :=
  let tail := (text.reverse.takeWhile (· ≠ '-')).reverse
  let basic := text.take (text.length - tail.length - 1)
  if tail.isEmpty ∨ (basic.isEmpty ∧ tail.length < text.length) then none
  else readAll? firstOther 0 firstBias basic tail

end ChatGateway.Http.Domain.Punycode
