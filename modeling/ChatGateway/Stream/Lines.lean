import ChatGateway.Failure
import ChatGateway.Text.Utf8

/-!
# Lines of a byte stream

Lines end with LF or CRLF; a last line without an end counts if it is not empty. Bytes are put
together to whole lines before they are read as text, so a character may be cut anywhere between
two pieces. A failure of the stream ends the lines at once.
-/
namespace ChatGateway.Stream

/-- A line, or the failure of the stream. -/
abbrev Item := Except Failure String

def lineFeed : UInt8 := 0x0A

def carriageReturn : UInt8 := 0x0D

/-- The text of a line whose bytes are given back to front, without its LF. -/
def lineText (reversed : List UInt8) : String :=
  let content :=
    match reversed with
    | [] => []
    | last :: rest => if last = carriageReturn then rest else reversed
  String.ofList (Text.Utf8.decodeLossy content.reverse)

/-- The lines that are complete, and the bytes after the last of them, both back to front. -/
structure Splitter where
  lines : List String := []
  carry : List UInt8 := []

namespace Splitter

def push (s : Splitter) (b : UInt8) : Splitter :=
  if b = lineFeed then ⟨lineText s.carry :: s.lines, []⟩ else ⟨s.lines, b :: s.carry⟩

/-- The lines without the bytes that are left over. -/
def complete (s : Splitter) : List Item := (s.lines.map Except.ok).reverse

/-- The lines, with a last one that has no end. -/
def all (s : Splitter) : List Item :=
  if s.carry.isEmpty then s.complete else s.complete ++ [.ok (lineText s.carry)]

end Splitter

/-- The lines of pieces that arrive one after another; `finish` says which lines there are when no
piece follows. -/
def itemsFrom (finish : Splitter → List Item) (s : Splitter) :
    List (Except Failure (List UInt8)) → List Item
  | [] => finish s
  | .ok bytes :: rest => itemsFrom finish (bytes.foldl Splitter.push s) rest
  | .error failure :: _ => s.complete ++ [.error failure]

/-- The lines of a whole stream. -/
def items (pieces : List (Except Failure (List UInt8))) : List Item :=
  itemsFrom Splitter.all {} pieces

/-- The lines of a stream that has not ended. -/
def itemsSoFar (pieces : List (Except Failure (List UInt8))) : List Item :=
  itemsFrom Splitter.complete {} pieces

end ChatGateway.Stream
