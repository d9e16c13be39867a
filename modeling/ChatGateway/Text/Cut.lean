/-!
# Cutting texts

Texts are cut at marks and at fixed leads and tails.
-/
namespace ChatGateway.Text

/-- The text before the first `mark` and the text after it, if there is one. -/
def splitFirst (mark : Char) (text : List Char) : Option (List Char × List Char) :=
  match text.dropWhile (· ≠ mark) with
  | [] => none
  | _ :: rest => some (text.takeWhile (· ≠ mark), rest)

/-- The text before the first `mark`, or all of it. -/
def before (mark : Char) (text : List Char) : List Char := text.takeWhile (· ≠ mark)

/-- The text after `lead`, if it begins with it. -/
def afterLead (lead : String) (text : List Char) : Option (List Char) :=
  if lead.toList.isPrefixOf text then some (text.drop lead.toList.length) else none

/-- The text before `tail`, if it ends with it. -/
def beforeTail (tail : String) (text : List Char) : Option (List Char) :=
  if tail.toList.isSuffixOf text then some (text.take (text.length - tail.toList.length)) else none

/-- The pieces between marks; there is always one more piece than marks. -/
def pieces (isMark : Char → Bool) (text : List Char) : List (List Char) :=
  text.foldr
    (fun c pieces =>
      match pieces with
      | piece :: rest => if isMark c then [] :: piece :: rest else (c :: piece) :: rest
      | [] => [[c]])
    [[]]

end ChatGateway.Text
