import ChatGateway.Stream.Signal

/-!
# Event streams to the client

Each signal is one record: a line of data and a blank line. The payload is JSON on a single line,
except for the mark of a completed message. While no signal comes, a comment keeps the connection
alive from time to time.
-/
namespace ChatGateway.Gateway

open ChatGateway.Stream (Signal)

/-- A record with a payload of a single line. -/
def record (payload : String) : String := "data: " ++ payload ++ "\n\n"

/-- What a record of a signal holds. -/
def payloadOf : Signal → String
  | .chunk chunk => chunk.toJson.text
  | .closed _ => "[DONE]"
  | .failed failure _ => failure.response.toJson.text

def keepAlive : String := ": keep-alive\n\n"

/-- What ends a wait of the writer. -/
inductive Wake where
  | signal (signal : Signal)
  /-- Nothing came in time. -/
  | idle
  deriving DecidableEq, Repr

namespace Wake

def signal? : Wake → Option Signal
  | signal s => some s
  | idle => none

end Wake

/-- What is written, piece by piece. A final signal is the last one that is waited for. -/
def written : List Wake → List String
  | [] => []
  | .idle :: rest => keepAlive :: written rest
  | .signal signal :: rest =>
    record (payloadOf signal) :: if signal.isFinal then [] else written rest

/-- The body of an event stream whose signals all come in time. -/
def eventStream (signals : List Signal) : String := String.join (written (signals.map .signal))

end ChatGateway.Gateway
