import ChatGateway.Text.Digits

/-!
# Texts in TOML

Strings in their four forms, keys, comments and line ends. A reader takes its part from the front
of the text and gives back what it means and the text after it.
-/
namespace ChatGateway.Settings.Toml

def isSpace (c : Char) : Bool := c = ' ' || c = '\t'

def skipSpaces (text : List Char) : List Char := text.dropWhile isSpace

/-- Neither a control character nor the end of a line. -/
def isPlain (c : Char) : Bool := c = '\t' || (0x20 ≤ c.toNat && c.toNat ≠ 0x7F)

def afterNewline? : List Char → Option (List Char)
  | '\n' :: rest => some rest
  | '\r' :: '\n' :: rest => some rest
  | _ => none

/-- The text from the end of a comment on; a text that begins with no comment stays as it is. -/
def skipComment : List Char → List Char
  | '#' :: rest => rest.dropWhile isPlain
  | text => text

/-- Spaces, a comment and the end of the line or of the text. -/
def endLine? (text : List Char) : Option (List Char) :=
  match skipComment (skipSpaces text) with
  | [] => some []
  | rest => afterNewline? rest

/-- Drops spaces, comments and line ends; at most `fuel` lines. -/
def skipLines : Nat → List Char → List Char
  | 0, text => text
  | fuel + 1, text =>
    let rest := skipComment (skipSpaces text)
    match afterNewline? rest with
    | some rest => skipLines fuel rest
    | none => rest

/-! ## Strings -/

/-- The character whose number has these hexadecimal digits. -/
def charOfHex? (digits : List Char) : Option Char := do
  let n ← Text.natural? 16 digits
  if n.isValidChar then some (Char.ofNat n) else none

/-- What follows a backslash. -/
def escape? : List Char → Option (Char × List Char)
  | '"' :: rest => some ('"', rest)
  | '\\' :: rest => some ('\\', rest)
  | 'b' :: rest => some ('\x08', rest)
  | 'f' :: rest => some ('\x0c', rest)
  | 'n' :: rest => some ('\n', rest)
  | 'r' :: rest => some ('\r', rest)
  | 't' :: rest => some ('\t', rest)
  | 'u' :: rest => numbered 4 rest
  | 'U' :: rest => numbered 8 rest
  | _ => none
where
  numbered (width : Nat) (rest : List Char) : Option (Char × List Char) :=
    if rest.length < width then none
    else (charOfHex? (rest.take width)).map fun c => (c, rest.drop width)

/-- How a string is written: by which mark it is enclosed, whether a backslash escapes, and
whether it may go over several lines, enclosed by three marks. -/
structure StringForm where
  mark : Char
  escapes : Bool
  lines : Bool

/-- A backslash at the end of a line joins the next text that is no white space. -/
def joinLines? (fuel : Nat) (text : List Char) : Option (List Char) :=
  (afterNewline? (skipSpaces text)).map (skip fuel)
where
  skip : Nat → List Char → List Char
    | 0, text => text
    | fuel + 1, text =>
      match afterNewline? (skipSpaces text) with
      | some rest => skip fuel rest
      | none => skipSpaces text

/-- The rest of a string, collected back to front. Every step takes at least one character. Of
three to five marks in a row the last three end the string. -/
def stringBody (form : StringForm) : Nat → List Char → List Char → Option (String × List Char)
  | 0, _, _ => none
  | fuel + 1, acc, text =>
    let done (acc rest : List Char) : Option (String × List Char) :=
      some (String.ofList acc.reverse, rest)
    match text with
    | [] => none
    | c :: rest =>
      if c = form.mark then
        if !form.lines then done acc rest
        else
          let marks := min 5 (text.takeWhile (· = form.mark)).length
          let after := text.drop marks
          if 3 ≤ marks then done (List.replicate (marks - 3) c ++ acc) after
          else stringBody form fuel (List.replicate marks c ++ acc) after
      else if form.escapes && c = '\\' then
        match escape? rest with
        | some (e, rest) => stringBody form fuel (e :: acc) rest
        | none =>
          if form.lines then do
            let rest ← joinLines? rest.length rest
            stringBody form fuel acc rest
          else none
      else if isPlain c then stringBody form fuel (c :: acc) rest
      else if form.lines then do
        let rest ← afterNewline? text
        stringBody form fuel ('\n' :: acc) rest
      else none

/-- A string on one line. -/
def lineString? : List Char → Option (String × List Char)
  | '"' :: rest => stringBody ⟨'"', true, false⟩ (rest.length + 1) [] rest
  | '\'' :: rest => stringBody ⟨'\'', false, false⟩ (rest.length + 1) [] rest
  | _ => none

/-- A string in any form. The end of the line that the opening marks stand on does not belong to
it. -/
def string? (text : List Char) : Option (String × List Char) :=
  match text with
  | '"' :: '"' :: '"' :: rest => long ⟨'"', true, true⟩ rest
  | '\'' :: '\'' :: '\'' :: rest => long ⟨'\'', false, true⟩ rest
  | text => lineString? text
where
  long (form : StringForm) (rest : List Char) : Option (String × List Char) :=
    let rest := (afterNewline? rest).getD rest
    stringBody form (rest.length + 1) [] rest

/-! ## Keys -/

def isBareChar (c : Char) : Bool := c.isAlphanum || c = '_' || c = '-'

/-- One part of a key. -/
def keyPart? (text : List Char) : Option (String × List Char) :=
  match lineString? text with
  | some read => some read
  | none =>
    let bare := text.takeWhile isBareChar
    if bare.isEmpty then none else some (String.ofList bare, text.drop bare.length)

/-- Nothing nests as deep as this: neither the parts of a key nor values in values. -/
def depthLimit : Nat := 80

/-- The parts of a key, joined by points, fewer than `fuel + 1`. -/
def keyParts? : Nat → List Char → Option (List String × List Char)
  | 0, _ => none
  | fuel + 1, text => do
    let (part, rest) ← keyPart? (skipSpaces text)
    match skipSpaces rest with
    | '.' :: rest =>
      let (parts, rest) ← keyParts? fuel rest
      some (part :: parts, rest)
    | rest => some ([part], rest)

/-- A key and the spaces around it. -/
def key? (text : List Char) : Option (List String × List Char) := keyParts? (depthLimit - 1) text

end ChatGateway.Settings.Toml
