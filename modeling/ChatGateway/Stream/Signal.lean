import ChatGateway.Stream.Lines
import ChatGateway.Stream.Relay

/-!
# Signals to the client

What becomes of a stream in the end: its chunks and then one signal that it is over, with the
tokens it took.
-/
namespace ChatGateway.Stream

open Chat (Chunk Usage)

inductive Signal where
  | chunk (chunk : Chunk)
  /-- The message was complete. -/
  | closed (usage : Usage)
  | failed (failure : Failure) (usage : Usage)
  deriving DecidableEq, Repr

namespace Signal

/-- Nothing follows it. -/
def isFinal : Signal → Bool
  | chunk _ => false
  | closed _ | failed _ _ => true

end Signal

/-- The failure of a stream that ends before its message does. -/
def endedEarly : Failure := .decode "stream ended before message_stop"

/-- What one item leads to: a signal if there is one to send, and how to go on after it. -/
structure Reaction where
  signal : Option Signal
  phase : Phase
  usage : Usage
  deriving DecidableEq, Repr

/-- The reaction to an item. -/
def react (stamp : Chat.Stamp) (model : String) (phase : Phase) (usage : Usage) (item : Item) :
    Reaction :=
  match item with
  | .error failure => ⟨some (.failed failure usage), phase, usage⟩
  | .ok line =>
    let outcome := feed stamp model phase usage line
    match outcome.step with
    | .ok .skip => ⟨none, outcome.phase, outcome.usage⟩
    | .ok (.chunk chunk) => ⟨some (.chunk chunk), outcome.phase, outcome.usage⟩
    | .ok .done => ⟨some (.closed outcome.usage), outcome.phase, outcome.usage⟩
    | .error failure => ⟨some (.failed failure outcome.usage), outcome.phase, outcome.usage⟩

/-- The signals of a stream whose first item stands at `place`. -/
def signals (stamps : Stamps) (model : String) (place : Nat) (phase : Phase) (usage : Usage) :
    List Item → List Signal
  | [] => [.failed endedEarly usage]
  | item :: rest =>
    let reaction := react (stamps place) model phase usage item
    match reaction.signal with
    | none => signals stamps model (place + 1) reaction.phase reaction.usage rest
    | some signal =>
      if signal.isFinal then [signal]
      else signal :: signals stamps model (place + 1) reaction.phase reaction.usage rest

end ChatGateway.Stream
