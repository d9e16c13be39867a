import ChatGateway.Text.Alphanumeric
import ChatGateway.Text.Blank
import ChatGateway.Text.Digits

/-!
# Patterns

A directive may ask for a value by a regular expression. Nothing is matched here: `isValid` says
which texts are patterns. A pattern has no braces, since the directive around it uses them.
-/
namespace ChatGateway.Logging.Pattern

/-- How a part of a pattern is read. -/
structure Mode where
  /-- White space and comments are passed over. -/
  isSpaced : Bool := false
  /-- Characters are meant, not bytes; without it nothing may match a byte above ASCII alone. -/
  isWide : Bool := true
  deriving DecidableEq, Repr

/-- Without the white space and the comments in front; a comment goes to the end of its line. -/
def skipSpaces (inComment : Bool) : List Char → List Char
  | [] => []
  | c :: rest =>
    if inComment then skipSpaces (c ≠ '\n') rest
    else if Text.isBlank c then skipSpaces false rest
    else if c = '#' then skipSpaces true rest
    else c :: rest

namespace Mode

def skip (mode : Mode) (text : List Char) : List Char :=
  if mode.isSpaced then skipSpaces false text else text

/-- The next character that counts, where the first one in a comment counts too. -/
def peek (mode : Mode) (text : List Char) : Option Char :=
  if mode.isSpaced then
    match text.dropWhile Text.isBlank with
    | '#' :: rest => (rest.dropWhile Text.isBlank).head?
    | rest => rest.head?
  else text.head?

/-- The letters for the modes; the other modes change only what is matched. -/
def letters : List Char := ['i', 'm', 's', 'U', 'u', 'R', 'x']

/-- Letters before a hyphen set a mode, those after it unset it. None comes twice. -/
def change? (mode : Mode) (word : List Char) : Option Mode :=
  if word.all (· ∈ '-' :: letters) ∧ word.Nodup ∧ word.getLast? ≠ some '-' then
    let value (letter : Char) (current : Bool) : Bool :=
      if letter ∈ word.takeWhile (· ≠ '-') then true else if letter ∈ word then false else current
    some ⟨value 'x' mode.isSpaced, value 'u' mode.isWide⟩
  else none

end Mode

/-! ## Single parts -/

/-- What one character or one escape stands for. -/
inductive Atom where
  | literal (c : Char)
  | set
  /-- A place between characters. -/
  | edge
  deriving DecidableEq, Repr

/-- The value of so many digits of base sixteen. -/
def hexDigits? (mode : Mode) : Nat → Nat → List Char → Option (Nat × List Char)
  | 0, value, text => some (value, text)
  | count + 1, value, text =>
    match mode.skip text with
    | [] => none
    | c :: rest => do hexDigits? mode count (value * 16 + (← Text.hexValue? c)) rest

/-- A character by its number. -/
def numbered? (mode : Mode) (count : Nat) (text : List Char) : Option (Char × List Char) := do
  let (value, rest) ← hexDigits? mode count 0 text
  if value.isValidChar then some (Char.ofNat value, rest) else none

/-- The characters for which a letter stands. -/
def controls : List (Char × Char) :=
  [('a', '\x07'), ('f', '\x0c'), ('t', '\t'), ('n', '\n'), ('r', '\r'), ('v', '\x0b')]

/-- What follows a backslash. Where a word begins or ends is known for ASCII only. -/
def escape? (mode : Mode) : List Char → Option (Atom × List Char)
  | [] => none
  | c :: rest =>
    if c = 'x' then do
      let (value, rest) ← numbered? mode 2 rest
      if mode.isWide ∨ value.toNat < 128 then some (.literal value, rest) else none
    else if c = 'u' then (numbered? mode 4 rest).map fun (value, rest) => (.literal value, rest)
    else if c = 'U' then (numbered? mode 8 rest).map fun (value, rest) => (.literal value, rest)
    else if c ∈ ['p', 'P'] then
      match mode.skip rest with
      | category :: rest =>
        if mode.isWide ∧ category.toLower ∈ ['c', 'l', 'm', 'n', 'p', 's', 'z'] then
          some (.set, rest)
        else none
      | [] => none
    else if c ∈ ['d', 's', 'w'] then some (.set, rest)
    else if c ∈ ['D', 'S', 'W'] then if mode.isWide then some (.set, rest) else none
    else if c ∈ ['A', 'z'] then some (.edge, rest)
    else if c ∈ ['b', 'B', '<', '>'] then if mode.isWide then none else some (.edge, rest)
    else
      match controls.lookup c with
      | some value => some (.literal value, rest)
      | none =>
        if c.toNat < 128 ∧ !c.isAlphanum then some (.literal c, rest) else none

/-! ## Depth

A pattern may nest 250 levels deep. Parts that stand together are a level, a single part is none. -/

def depthLimit : Nat := 250

def nest : List Nat → Nat
  | [] => 0
  | [depth] => depth
  | depths => depths.foldl max 0 + 1

/-! ## Sets in brackets -/

/-- A set that is being read. -/
structure Bracket where
  /-- How deep the parts before the last operator nest. -/
  before : Option Nat := none
  parts : List Nat := []
  /-- Only hyphens have been read; a bracket that would close the set is a part of it. -/
  isStart : Bool := true
  deriving DecidableEq, Repr

namespace Bracket

def add (b : Bracket) (depth : Nat) : Bracket :=
  { b with parts := depth :: b.parts, isStart := false }

def addHyphen (b : Bracket) : Bracket := { b with parts := 0 :: b.parts }

def join (b : Bracket) : Nat :=
  match b.before with
  | none => nest b.parts
  | some depth => max depth (nest b.parts) + 1

/-- What has been read becomes the left side of an operator. -/
def operate (b : Bracket) : Bracket := ⟨some b.join, [], false⟩

end Bracket

/-- The names of sets of ASCII. -/
def setNames : List String :=
  ["alnum", "alpha", "ascii", "blank", "cntrl", "digit", "graph", "lower", "print", "punct",
   "space", "upper", "word", "xdigit"]

/-- A named set without its first bracket: whether it is turned round, and the text after it. -/
def namedSet? (text : List Char) : Option (Bool × List Char) := do
  let text ← if text.head? = some ':' then some text.tail else none
  let isTurned := text.head? = some '^'
  let text := if isTurned then text.tail else text
  let name := text.takeWhile (· ≠ ':')
  match text.drop name.length with
  | ':' :: ']' :: rest => if String.ofList name ∈ setNames then some (isTurned, rest) else none
  | _ => none

/-- A set is turned round by a caret. -/
def openSet? (mode : Mode) (text : List Char) : Option (List Char) :=
  match mode.skip text with
  | '^' :: rest => if mode.isWide then some rest else none
  | rest => some rest

/-- One end of a range. -/
def member? (mode : Mode) (text : List Char) : Option (Atom × List Char) := do
  let (atom, rest) ←
    match text with
    | [] => none
    | '\\' :: rest => escape? mode rest
    | c :: rest => some (.literal c, rest)
  match atom with
  | .literal c => if mode.isWide ∨ c.toNat < 128 then some (atom, rest) else none
  | .set => some (atom, rest)
  | .edge => none

/-- A character, a set or a range of characters. -/
def range? (mode : Mode) (text : List Char) : Option (List Char) := do
  let (first, rest) ← member? mode text
  match mode.skip rest with
  | '-' :: after =>
    if mode.peek after ∈ [some ']', some '-'] then some ('-' :: after)
    else do
      let (last, rest) ← member? mode (mode.skip after)
      match first, last with
      | .literal low, .literal high => if low ≤ high then some rest else none
      | _, _ => none
  | rest => some rest

/-- Reads sets one within the other to the end of the outermost: how deep it nests, and the text
after it. Every step takes a character. -/
def brackets? (mode : Mode) :
    Nat → Bracket → List Bracket → List Char → Option (Nat × List Char)
  | 0, _, _, _ => none
  | fuel + 1, b, outer, text =>
    match mode.skip text with
    | [] => none
    | '[' :: rest =>
      match namedSet? rest with
      | some (isTurned, rest) =>
        if isTurned && !mode.isWide then none else brackets? mode fuel (b.add 0) outer rest
      | none => do
        let rest ← openSet? mode rest
        brackets? mode fuel {} ({ b with isStart := false } :: outer) rest
    | ']' :: rest =>
      if b.isStart && b.parts.isEmpty then brackets? mode fuel (b.add 0) outer rest
      else
        match outer with
        | [] => some (b.join + 1, rest)
        | next :: outer => brackets? mode fuel (next.add (b.join + 1)) outer rest
    | c :: rest =>
      if c = '-' && b.isStart then brackets? mode fuel b.addHyphen outer rest
      else if c ∈ ['&', '-', '~'] ∧ rest.head? = some c then
        brackets? mode fuel b.operate outer rest.tail
      else do
        let rest ← range? mode (c :: rest)
        brackets? mode fuel (b.add 0) outer rest

/-! ## Groups -/

/-- A group that is being read, or the pattern itself. The last part and the last branch come
first. -/
structure Group where
  mode : Mode := {}
  /-- How deep the parts of this branch nest. A change of mode is a part too, none, that cannot be
  repeated. -/
  parts : List (Option Nat) := []
  branches : List Nat := []
  deriving DecidableEq, Repr

namespace Group

def add (g : Group) (depth : Nat) : Group := { g with parts := some depth :: g.parts }

def branch (g : Group) : Nat := nest (g.parts.map (·.getD 0))

def depth (g : Group) : Nat := nest (g.branch :: g.branches)

def nextBranch (g : Group) : Group := { g with parts := [], branches := g.branch :: g.branches }

def repeatLast? (g : Group) : Option Group :=
  match g.parts with
  | some depth :: parts => some { g with parts := some (depth + 1) :: parts }
  | _ => none

end Group

/-- The name of a group: a letter or a low line, then also numbers, points and brackets. -/
def isName : List Char → Bool
  | [] => false
  | c :: rest =>
    (c = '_' || Text.isLetter c)
      && rest.all fun c => c ∈ ['_', '.', '[', ']'] || Text.isLetterOrNumber c

structure State where
  group : Group := {}
  /-- The groups around it. -/
  outer : List Group := []
  names : List (List Char) := []
  deriving DecidableEq, Repr

namespace State

def mode (s : State) : Mode := s.group.mode

def add (s : State) (depth : Nat) : State := { s with group := s.group.add depth }

def opened (s : State) (mode : Mode) : State :=
  { s with group := { mode }, outer := s.group :: s.outer }

def close? (s : State) : Option State :=
  match s.outer with
  | next :: outer => some { s with group := next.add (s.group.depth + 1), outer }
  | [] => none

/-- A group with a name of its own. -/
def openNamed? (s : State) (text : List Char) : Option (State × List Char) :=
  let name := text.takeWhile (· ≠ '>')
  match text.drop name.length with
  | '>' :: rest =>
    if isName name ∧ name ∉ s.names then
      some ({ s.opened s.mode with names := name :: s.names }, rest)
    else none
  | _ => none

/-- A change of mode, for a new group or for the rest of this one. -/
def openChanged? (s : State) (text : List Char) : Option (State × List Char) := do
  let word := text.takeWhile fun c => c ≠ ':' ∧ c ≠ ')'
  let mode ← s.mode.change? word
  match text.drop word.length with
  | ':' :: rest => some (s.opened mode, rest)
  | ')' :: rest =>
    if word.isEmpty then none
    else some ({ s with group := { s.group with mode, parts := none :: s.group.parts } }, rest)
  | _ => none

/-- What follows an opening parenthesis. -/
def open? (s : State) (text : List Char) : Option (State × List Char) :=
  match s.mode.skip text with
  | '?' :: 'P' :: '<' :: rest => s.openNamed? rest
  | '?' :: '<' :: rest => s.openNamed? rest
  | '?' :: rest => s.openChanged? rest
  | rest => some (s.opened s.mode, rest)

/-- The next part or mark, which begins with `c`, and the text after it. -/
def step (s : State) (c : Char) (rest : List Char) : Option (State × List Char) :=
  match c with
  | '(' => s.open? rest
  | ')' => s.close?.map (·, rest)
  | '|' => some ({ s with group := s.group.nextBranch }, rest)
  | '?' | '*' | '+' => s.group.repeatLast?.map fun group => ({ s with group }, rest)
  | '\x7b' => none
  | '[' => do
    let inner ← openSet? s.mode rest
    let (depth, rest) ← brackets? s.mode (inner.length + 1) {} [] inner
    some (s.add depth, rest)
  | '\\' => (escape? s.mode rest).map fun (_, rest) => (s.add 0, rest)
  | '.' => if s.mode.isWide then some (s.add 0, rest) else none
  | _ => some (s.add 0, rest)

/-- Every step takes a character. -/
def run : Nat → State → List Char → Option State
  | 0, _, _ => none
  | fuel + 1, s, text =>
    match s.mode.skip text with
    | [] => some s
    | c :: rest => do
      let (s, rest) ← s.step c rest
      run fuel s rest

end State

/-- The text is a pattern. -/
def isValid (text : List Char) : Bool :=
  match State.run (text.length + 1) {} text with
  | some s => s.outer.isEmpty && s.group.depth ≤ depthLimit
  | none => false

end ChatGateway.Logging.Pattern
