import ChatGateway.Logging.Pattern
import ChatGateway.Text.Cut

/-!
# Log filters

A filter is a list of directives such as `info` or `server=debug`, separated by commas. For a
target the most specific directive decides which levels are logged.
-/
namespace ChatGateway.Logging

inductive Level where
  | error
  | warn
  | info
  | debug
  | trace
  deriving DecidableEq, Repr

/-- Rare levels first. Verbosity `n` admits the levels of rank up to `n`. -/
def Level.rank : Level → Nat
  | error => 1
  | warn => 2
  | info => 3
  | debug => 4
  | trace => 5

def verbosityNames : List (String × Nat) :=
  [("off", 0), ("error", 1), ("warn", 2), ("info", 3), ("debug", 4), ("trace", 5)]

/-- A number from 0 to 5, with any zeros before it and perhaps a plus sign. -/
def verbosityNumber? (text : List Char) : Option Nat :=
  (Text.unsigned? text).filter (· ≤ 5)

/-- A number or a name in any letter case. -/
def verbosity? (text : List Char) : Option Nat :=
  (verbosityNumber? text).or (verbosityNames.lookup (String.ofList (text.map Char.toLower)))

structure Directive where
  /-- The targets that begin with it are meant, or all. -/
  target : Option String := none
  /-- It holds only within a span or for events with a given value. -/
  isConditional : Bool := false
  /-- A field that an event must have. -/
  field : Option String := none
  verbosity : Nat := 5
  deriving DecidableEq, Repr

/-- Where the next character of a directive stands; `first` is the place where the current part
begins. Places are counted in bytes. -/
inductive DirectivePart where
  | start
  | head (first : Nat)
  | span (first : Nat)
  | field (first : Nat)
  | fieldEnd
  | tail
  | level (first : Nat)
  deriving DecidableEq, Repr

namespace Directive

/-- Characters with the number of bytes before them. -/
def placed (before : Nat) : List Char → List (Char × Nat)
  | [] => []
  | c :: rest => (c, before) :: placed (before + c.utf8Size) rest

/-- The characters from a place on. -/
def cutFrom (text : List Char) (first : Nat) : List Char :=
  ((placed 0 text).filter (first ≤ ·.2)).map Prod.fst

/-- The characters from one place to another. -/
def cut (text : List Char) (first stop : Nat) : List Char :=
  ((placed 0 text).filter fun (_, place) => first ≤ place ∧ place < stop).map Prod.fst

/-- A value is a pattern or a number. A number without a plus sign is a pattern as well. -/
def isValue (text : List Char) : Bool :=
  Pattern.isValid text ||
    match text with
    | '+' :: rest =>
      Text.isDecimal rest ||
        String.ofList (rest.map Char.toLower) ∈ ["inf", "infinity", "nan"]
    | _ => false

/-- One more character; `i` is its place without leading white space. The parts are cut out of the
text with its white space. -/
def step (text : List Char) (state : DirectivePart × Directive) (i : Nat) (c : Char) :
    Option (DirectivePart × Directive) :=
  let (part, d) := state
  match part with
  | .start =>
    if c = '[' then some (.span (i + 1), d)
    else if c ∈ ['-', ':', '_'] ∨ Text.isLetterOrNumber c then some (.head i, d)
    else none
  | .head first =>
    let named := { d with target := some (String.ofList (cut text first i)) }
    if c = '=' then some (.level (i + 1), named)
    else if c = '[' then some (.span (i + 1), named)
    else some (part, d)
  | .span first =>
    if c = ']' then some (.tail, { d with isConditional := true })
    else if c = '\x7b' then
      some (.field (i + 1), if first = i then d else { d with isConditional := true })
    else some (part, d)
  | .field first =>
    if c = '\x7d' then
      if first = i then none
      else
        let inner := cut text first i
        match Text.splitFirst '=' inner with
        | some (_, value) =>
          if isValue (Text.before '=' value) then some (.fieldEnd, { d with isConditional := true })
          else none
        | none => some (.fieldEnd, { d with field := some (String.ofList inner) })
    else some (part, d)
  | .fieldEnd => if c = ']' then some (.tail, d) else none
  | .tail => if c = '=' then some (.level (i + 1), d) else none
  | .level _ => some (part, d)

/-- Without a level everything is logged. A lone word is a level if it names one, else a target. -/
def finish (text : List Char) : DirectivePart × Directive → Option Directive
  | (.head first, d) =>
    let word := cutFrom text first
    match verbosity? word with
    | some n => some { d with verbosity := n }
    | none => some { d with target := some (String.ofList word) }
  | (.level first, d) =>
    let word := cutFrom text first
    if word.isEmpty then some d else (verbosity? word).map fun n => { d with verbosity := n }
  | (.tail, d) => some d
  | _ => none

def ofText? (text : List Char) : Option Directive := do
  let state ← (placed 0 (Text.trim text)).foldlM (fun state (c, i) => step text state i c)
    (.start, {})
  finish text state

/-- The target begins with the one the directive names, and the field is among the given ones. A
question about a target alone has no fields to look at. -/
def covers (d : Directive) (target : String) (fields : Option (List String)) : Bool :=
  !d.isConditional
    && d.target.all (fun lead => lead.toList.isPrefixOf target.toList)
    && d.field.all (fun name => fields.all (name ∈ ·))

/-- How long the target is; none is the shortest. -/
def reach (d : Directive) : Nat := (d.target.map fun t => t.utf8ByteSize + 1).getD 0

/-- The other directive is at least as specific: its target is longer, or as long and its field is
not before this one's. -/
def yields (d other : Directive) : Bool :=
  if d.reach = other.reach then
    match d.field, other.field with
    | none, _ => true
    | some _, none => false
    | some name, some next => decide (name ≤ next)
  else d.reach < other.reach

end Directive

structure Filter where
  directives : List Directive
  deriving DecidableEq, Repr

namespace Filter

/-- Without a directive nothing is logged. -/
def ofText? (text : String) : Option Filter := do
  let pieces := (Text.pieces (· = ',') text.toList).filter fun piece => !piece.isEmpty
  let directives ← pieces.mapM Directive.ofText?
  some ⟨if directives.isEmpty then [{ verbosity := 0 }] else directives⟩

/-- How much is logged for a target. Of two equally specific directives the later one counts. -/
def verbosityFor (f : Filter) (target : String) (fields : Option (List String)) : Nat :=
  let deciding := (f.directives.filter (·.covers target fields)).foldl
    (fun (best : Option Directive) d =>
      match best with
      | some b => if b.yields d then some d else some b
      | none => some d)
    none
  (deciding.map Directive.verbosity).getD 0

/-- Whether a level is looked at for a target, whatever fields an event may have. -/
def isEnabled (f : Filter) (target : String) (level : Level) : Bool :=
  level.rank ≤ f.verbosityFor target none

/-- Whether an event with these fields is logged. -/
def admits (f : Filter) (target : String) (fields : List String) (level : Level) : Bool :=
  level.rank ≤ f.verbosityFor target (some fields)

end Filter

end ChatGateway.Logging
