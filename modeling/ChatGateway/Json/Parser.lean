import ChatGateway.Json.Token

/-!
# From tokens to a reading

Containers that are still open are frames on a stack; a finished value goes into the top frame.
At a token that does not fit, every open container is left unclosed and the rest of the text is
not looked at.
-/
namespace ChatGateway.Json

/-- The members of an open object, back to front, as long as their keys are texts. -/
structure Entries where
  reversed : List (String × Reading) := []
  legible : Bool := true
  deriving Repr

namespace Entries

def isEmpty (entries : Entries) : Bool := entries.legible && entries.reversed.isEmpty

/-- A key that is no text, and all that follows it, is left out. -/
def push (entries : Entries) (key : Option String) (value : Reading) : Entries :=
  match key with
  | some key =>
    if entries.legible then { entries with reversed := (key, value) :: entries.reversed }
    else entries
  | none => { entries with legible := false }

/-- The object when its brace is met. -/
def close (entries : Entries) : Reading :=
  .object entries.reversed.reverse (if entries.legible then .closed else .illegible)

/-- The object when it is given up. -/
def breakOff (entries : Entries) : Reading := .object entries.reversed.reverse .broken

end Entries

/-- An open container. An object also holds the key whose value is awaited, if that is a text. -/
inductive Frame where
  | array (reversed : List Reading)
  | object (entries : Entries) (key : Option String)
  deriving Repr

/-- What has been read of a document and what may come next. -/
inductive Parse where
  | awaitValue (stack : List Frame)
  | firstItem (stack : List Frame)
  | afterItem (items : List Reading) (stack : List Frame)
  | awaitKey (entries : Entries) (stack : List Frame)
  | awaitColon (entries : Entries) (key : Option String) (stack : List Frame)
  | afterMember (entries : Entries) (stack : List Frame)
  | complete (root : Reading)
  | stopped (document : Document)
  deriving Inhabited

namespace Parse

/-- A finished value goes into the innermost open container. -/
def place (value : Reading) : List Frame → Parse
  | [] => .complete value
  | .array items :: stack => .afterItem (value :: items) stack
  | .object entries key :: stack => .afterMember (entries.push key value) stack

/-- The whole text, when the innermost open container ends with a value and no more is read. -/
def abandon (value : Reading) : List Frame → Reading
  | [] => value
  | .array items :: stack => abandon (.array (value :: items).reverse false) stack
  | .object entries key :: stack => abandon (entries.push key value).breakOff stack

def stop (value : Reading) (stack : List Frame) : Parse := .stopped ⟨abandon value stack, true⟩

def value? (stack : List Frame) : Token → Option Parse
  | .leaf value => some (place value stack)
  | .openArray => some (.firstItem stack)
  | .openObject => some (.awaitKey {} stack)
  | _ => none

def step (parse : Parse) (token : Token) : Parse :=
  match parse with
  | .awaitValue stack => (value? stack token).getD (stop .broken stack)
  | .firstItem stack =>
    match token with
    | .closeArray => place (.array [] true) stack
    | token => (value? (.array [] :: stack) token).getD (stop (.array [] false) stack)
  | .afterItem items stack =>
    match token with
    | .comma => .awaitValue (.array items :: stack)
    | .closeArray => place (.array items.reverse true) stack
    | _ => stop (.array items.reverse false) stack
  | .awaitKey entries stack =>
    match token with
    | .leaf (.string key) => .awaitColon entries (some key) stack
    | .leaf .unpaired => .awaitColon entries none stack
    | .closeObject =>
      if entries.isEmpty then place entries.close stack else stop entries.breakOff stack
    | _ => stop entries.breakOff stack
  | .awaitColon entries key stack =>
    match token with
    | .colon => .awaitValue (.object entries key :: stack)
    | _ => stop .broken (.object entries key :: stack)
  | .afterMember entries stack =>
    match token with
    | .comma => .awaitKey entries stack
    | .closeObject => place entries.close stack
    | _ => stop entries.breakOff stack
  | .complete root => .stopped ⟨root, false⟩
  | .stopped document => .stopped document

/-- A document whose text ends here. -/
def document : Parse → Document
  | .awaitValue stack => ⟨abandon .broken stack, true⟩
  | .firstItem stack => ⟨abandon (.array [] false) stack, true⟩
  | .afterItem items stack => ⟨abandon (.array items.reverse false) stack, true⟩
  | .awaitKey entries stack => ⟨abandon entries.breakOff stack, true⟩
  | .awaitColon entries key stack => ⟨abandon .broken (.object entries key :: stack), true⟩
  | .afterMember entries stack => ⟨abandon entries.breakOff stack, true⟩
  | .complete root => ⟨root, true⟩
  | .stopped document => document

end Parse

namespace Document

def ofTokens (tokens : List Token) : Document := (tokens.foldl Parse.step (.awaitValue [])).document

def ofChars (text : List Char) : Document := ofTokens (Token.ofChars text)

end Document

end ChatGateway.Json
