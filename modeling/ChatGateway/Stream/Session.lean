import ChatGateway.Stream.Signal

/-!
# A producer, a bounded queue and a client

The producer reads items and sends signals into a queue; the client receives them and may leave at
any moment. Each `Move` is one step of one party, and `Session.next?` says when it is possible and
what it does. A client that is gone is noticed before the next item is read, and whatever is sent
to it is lost.
-/
namespace ChatGateway.Stream

open Chat (Usage)

/-- What comes when the next item is asked for. -/
inductive Poll where
  | item (item : Item)
  /-- The stream is over. -/
  | ended
  /-- Nothing comes, however long one waits. -/
  | silent
  deriving Repr

/-- The stream that is read: what comes at each place. -/
abbrev Source := Nat → Poll

namespace Source

/-- The items of a list, and `after` from there on. -/
def ofList (items : List Item) (after : Poll) : Source := fun place =>
  match items[place]? with
  | some item => .item item
  | none => after

end Source

/-- What does not change during a session. -/
structure Setup where
  source : Source
  stamps : Stamps
  model : String
  capacity : Nat

namespace Setup

/-- The queue always has room for one signal. -/
def room (setup : Setup) : Nat := max setup.capacity 1

end Setup

/-- Where the producer is. -/
inductive Stage where
  /-- About to ask for the next item. -/
  | waiting
  | holding (item : Item)
  | sending (signal : Signal)
  | ended
  deriving Repr

structure Session where
  stage : Stage := .waiting
  /-- How many items the producer has read. -/
  place : Nat := 0
  phase : Phase := .fresh
  usage : Usage := {}
  /-- Oldest first. -/
  queue : List Signal := []
  /-- Oldest first. -/
  received : List Signal := []
  present : Bool := true
  deriving Repr

inductive Move where
  | produce
  | receive
  | leave
  deriving DecidableEq, Repr

namespace Session

/-- A step of the producer, unless it has to wait or has ended. -/
def produce? (setup : Setup) (s : Session) : Option Session :=
  match s.stage with
  | .waiting =>
    if !s.present then some { s with stage := .ended }
    else
      match setup.source s.place with
      | .item item => some { s with stage := .holding item, place := s.place + 1 }
      | .ended => some { s with stage := .sending (.failed endedEarly s.usage) }
      | .silent => none
  | .holding item =>
    let reaction := react (setup.stamps (s.place - 1)) setup.model s.phase s.usage item
    some { s with
      stage := (reaction.signal.map Stage.sending).getD .waiting
      phase := reaction.phase
      usage := reaction.usage }
  | .sending signal =>
    if !s.present then some { s with stage := .ended }
    else if s.queue.length < setup.room then
      some { s with
        stage := if signal.isFinal then .ended else .waiting
        queue := s.queue ++ [signal] }
    else none
  | .ended => none

/-- The client takes the oldest signal. -/
def receive? (s : Session) : Option Session :=
  match s.present, s.queue with
  | true, signal :: rest => some { s with queue := rest, received := s.received ++ [signal] }
  | _, _ => none

/-- What is still in the queue is lost. -/
def leave? (s : Session) : Option Session :=
  if s.present then some { s with present := false, queue := [] } else none

def next? (setup : Setup) (s : Session) : Move → Option Session
  | .produce => s.produce? setup
  | .receive => s.receive?
  | .leave => s.leave?

/-- Every state that some order of moves leads to. -/
inductive Reachable (setup : Setup) (start : Session) : Session → Prop where
  | start : Reachable setup start start
  | move {s t : Session} (m : Move) :
      Reachable setup start s → s.next? setup m = some t → Reachable setup start t

/-- What a client does that wants `wanted` signals: it leaves when it has them or when nothing
more comes, it takes what is there, and else it lets the producer work. -/
def choose (setup : Setup) (wanted : Nat) (s : Session) : Move :=
  if !s.present then .produce
  else if wanted ≤ s.received.length then .leave
  else if !s.queue.isEmpty then .receive
  else if (s.produce? setup).isSome then .produce
  else .leave

/-- At most `fuel` moves of a session with such a client. -/
def run (setup : Setup) (wanted : Nat) : Nat → Session → Session
  | 0, s => s
  | fuel + 1, s =>
    match s.next? setup (s.choose setup wanted) with
    | some next => run setup wanted fuel next
    | none => s

end Session

end ChatGateway.Stream
