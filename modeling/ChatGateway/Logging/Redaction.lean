import ChatGateway.Text.Cut

/-!
# Redaction of API keys

Every key, a fixed lead with at least one key character after it, is replaced by a mask. The scan
goes from left to right and a key is taken as long as it reaches.
-/
namespace ChatGateway.Logging

def keyLead : String := "sk-ant-"

def keyMask : String := "[REDACTED_API_KEY]"

def isKeyChar (c : Char) : Bool := c.isAlphanum || c = '_' || c = '-'

/-- What follows a key at the front of the text, if there is one. -/
def afterKey? (text : List Char) : Option (List Char) :=
  match Text.afterLead keyLead text with
  | some (c :: rest) => if isKeyChar c then some (rest.dropWhile isKeyChar) else none
  | _ => none

theorem length_afterKey? {text rest : List Char} (h : afterKey? text = some rest) :
    rest.length < text.length := by
  unfold afterKey? at h
  split at h
  · next c tail heq =>
    split at h
    · simp only [Option.some.injEq] at h
      subst h
      have hdrop : (List.dropWhile isKeyChar tail).length ≤ tail.length :=
        (List.dropWhile_sublist _).length_le
      unfold Text.afterLead at heq
      split at heq
      · simp only [Option.some.injEq] at heq
        have hlen := congrArg List.length heq
        simp only [List.length_drop, List.length_cons] at hlen
        omega
      · simp at heq
    · simp at h
  · simp at h

def redactChars (text : List Char) : List Char :=
  match _h : afterKey? text with
  | some rest => keyMask.toList ++ redactChars rest
  | none =>
    match text with
    | [] => []
    | c :: rest => c :: redactChars rest
termination_by text.length
decreasing_by
  · exact length_afterKey? _h
  · simp

def redact (text : String) : String := String.ofList (redactChars text.toList)

end ChatGateway.Logging
