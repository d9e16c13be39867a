import ChatGateway.Http.Exchange
import ChatGateway.Failure

/-!
# Requests to the gateway and its answers
-/
namespace ChatGateway.Gateway

open Http (Header)

/-- What a client sends. The path may be followed by a query. -/
structure Inbound where
  method : String
  path : String
  headers : List Header := []
  body : List UInt8 := []
  deriving Repr

namespace Inbound

/-- The value of a header, whatever the case of its name. -/
def header? (inbound : Inbound) (name : String) : Option String :=
  (inbound.headers.find? fun h => h.name.toLower = name).map Header.value

end Inbound

structure Answer where
  status : Nat
  headers : List Header := []
  body : String := ""
  deriving DecidableEq, Repr

namespace Answer

def json (status : Nat) (body : Json) : Answer :=
  ⟨status, [⟨"content-type", "application/json"⟩], body.text⟩

def plain (status : Nat) (body : String) : Answer :=
  ⟨status, [⟨"content-type", "text/plain; charset=utf-8"⟩], body⟩

/-- Every failure is reported in the same envelope. -/
def ofFailure (failure : Failure) : Answer := json failure.status failure.response.toJson

def withHeader (answer : Answer) (name value : String) : Answer :=
  { answer with headers := answer.headers ++ [⟨name, value⟩] }

def withoutBody (answer : Answer) : Answer := { answer with body := "" }

end Answer

end ChatGateway.Gateway
