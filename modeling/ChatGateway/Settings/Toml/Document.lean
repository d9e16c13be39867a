import ChatGateway.Settings.Toml.Scalar
import ChatGateway.Settings.Toml.Text
import ChatGateway.Text.Cut

/-!
# TOML documents

Lines of a document set keys in the current table or open another one. No key is set twice and no
table is opened twice; a table that was only passed through may still be opened once.
-/
namespace ChatGateway.Settings.Toml

/-- How a table came to be: opened itself, on the way to another table, or by a key with points. -/
inductive Origin where
  | opened
  | passed
  | pointed
  deriving DecidableEq, Repr

/-- A document under construction. The newest element of an array of tables comes first. -/
inductive Node where
  | leaf (value : Value)
  | table (origin : Origin) (members : List (String × Node))
  | tables (elements : List (List (String × Node)))

abbrev Members := List (String × Node)

namespace Members

def replace (key : String) (node : Node) : Members → Members
  | [] => [(key, node)]
  | member :: rest =>
    if member.1 = key then (key, node) :: rest else member :: replace key node rest

/-- Changes the table that a path leads to. Missing tables are passed through, and an array of
tables stands for its newest element. -/
def change (act : Members → Option Members) : List String → Members → Option Members
  | [], ms => act ms
  | key :: path, ms =>
    match ms.lookup key with
    | none => do some (ms.replace key (.table .passed (← change act path [])))
    | some (.leaf _) => none
    | some (.table origin inner) => do
      some (ms.replace key (.table origin (← change act path inner)))
    | some (.tables []) => none
    | some (.tables (newest :: older)) => do
      some (ms.replace key (.tables ((← change act path newest) :: older)))

/-- Sets a key. Its parts but the last lead through tables that keys with points made, or that were
passed through on the way to others. -/
def set (value : Value) : List String → Members → Option Members
  | [], _ => none
  | [key], ms => if (ms.lookup key).isSome then none else some (ms ++ [(key, .leaf value)])
  | key :: next :: path, ms =>
    match ms.lookup key with
    | none => do some (ms.replace key (.table .pointed (← set value (next :: path) [])))
    | some (.leaf _) => none
    | some (.table origin inner) =>
      if origin = .opened ∨ (path = [] ∧ origin ≠ .pointed) then none
      else do some (ms.replace key (.table origin (← set value (next :: path) inner)))
    | some (.tables []) => none
    | some (.tables (newest :: older)) =>
      if path = [] then none
      else do some (ms.replace key (.tables ((← set value (next :: path) newest) :: older)))

/-- Opens a table. -/
def openTable (key : String) (ms : Members) : Option Members :=
  match ms.lookup key with
  | none => some (ms.replace key (.table .opened []))
  | some (.table .passed inner) => some (ms.replace key (.table .opened inner))
  | some _ => none

/-- Opens a new element of an array of tables. -/
def openElement (key : String) (ms : Members) : Option Members :=
  match ms.lookup key with
  | none => some (ms.replace key (.tables [[]]))
  | some (.tables elements) => some (ms.replace key (.tables ([] :: elements)))
  | some _ => none

end Members

mutual

def Node.value : Node → Value
  | .leaf value => value
  | .table _ ms => .table (membersValue ms)
  | .tables elements => .list (elementValues elements).reverse

def membersValue : List (String × Node) → List (String × Value)
  | [] => []
  | (key, node) :: rest => (key, node.value) :: membersValue rest

def elementValues : List (List (String × Node)) → List Value
  | [] => []
  | ms :: rest => .table (membersValue ms) :: elementValues rest

end

/-! ## Values -/

mutual

/-- A value at the front of the text. `depth` more arrays and tables may be entered; every step
takes at least one character, so that as many steps as characters are enough. -/
def value? (depth : Nat) : Nat → List Char → Option (Value × List Char)
  | 0, _ => none
  | fuel + 1, text =>
    match text with
    | '"' :: _ | '\'' :: _ => (string? text).map fun (s, rest) => (.text s, rest)
    | '[' :: rest => if depth = 0 then none else items? (depth - 1) fuel [] rest
    | '\x7b' :: rest =>
      if depth = 0 then none
      else
        match skipSpaces rest with
        | '\x7d' :: rest => some (.table [], rest)
        | rest => pairs? (depth - 1) fuel [] rest
    | text =>
      let (word, rest) := splitWord text
      (ofWord? word).map fun value => (value, rest)

/-- The items of an array, which may stand on lines of their own, up to its end. -/
def items? (depth : Nat) : Nat → List Value → List Char → Option (Value × List Char)
  | 0, _, _ => none
  | fuel + 1, reversed, text =>
    match skipLines text.length text with
    | ']' :: rest => some (.list reversed.reverse, rest)
    | text => do
      let (item, rest) ← value? depth fuel text
      match skipLines rest.length rest with
      | ',' :: rest => items? depth fuel (item :: reversed) rest
      | ']' :: rest => some (.list (item :: reversed).reverse, rest)
      | _ => none

/-- The members of a table on one line, up to its end. -/
def pairs? (depth : Nat) : Nat → Members → List Char → Option (Value × List Char)
  | 0, _, _ => none
  | fuel + 1, ms, text => do
    let (path, rest) ← key? text
    let '=' :: rest := rest | none
    let (value, rest) ← value? depth fuel (skipSpaces rest)
    let ms ← ms.set value path
    match skipSpaces rest with
    | ',' :: rest => pairs? depth fuel ms rest
    | '\x7d' :: rest => some (.table (membersValue ms), rest)
    | _ => none

end

/-! ## Lines -/

/-- A document up to some line: its tables and the path of the current one. -/
structure Draft where
  root : Members := []
  current : List String := []

/-- A line that opens a table. -/
def header? (d : Draft) (text : List Char) : Option (Draft × List Char) := do
  let (isElement, text) := match text with
    | '[' :: rest => (true, rest)
    | rest => (false, rest)
  let (path, rest) ← key? text
  let rest ← if isElement then Text.afterLead "]]" rest else Text.afterLead "]" rest
  let key ← path.getLast?
  let act := if isElement then Members.openElement key else Members.openTable key
  let root ← d.root.change act path.dropLast
  some (⟨root, path⟩, rest)

/-- A line that sets a key. -/
def pair? (d : Draft) (text : List Char) : Option (Draft × List Char) := do
  let (path, rest) ← key? text
  let '=' :: rest := rest | none
  let rest := skipSpaces rest
  let (value, rest) ← value? (depthLimit - 1) (rest.length + 1) rest
  let root ← d.root.change (Members.set value path) d.current
  some ({ d with root }, rest)

/-- The lines of a document, at most `fuel` of them. -/
def lines? : Nat → Draft → List Char → Option Draft
  | 0, _, _ => none
  | fuel + 1, d, text => do
    match skipSpaces text with
    | [] => some d
    | c :: rest =>
      let (d, rest) ←
        if c = '[' then header? d rest
        else if c = '#' ∨ (afterNewline? (c :: rest)).isSome then some (d, c :: rest)
        else pair? d (c :: rest)
      lines? fuel d (← endLine? rest)

/-- The table that a document stands for. A mark of the byte order in front is dropped. -/
def ofText? (text : String) : Option (List (String × Value)) := do
  let text := match text.toList with
    | '\uFEFF' :: rest => rest
    | text => text
  let d ← lines? (text.length + 1) {} text
  some (membersValue d.root)

end ChatGateway.Settings.Toml
