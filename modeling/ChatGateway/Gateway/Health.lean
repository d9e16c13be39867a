import ChatGateway.Json.Record

/-!
# Health reports

What the gateway says about itself: a state, the checks behind it, and when they were made.
-/
namespace ChatGateway.Gateway

open ChatGateway.Json (Decoder Record)

inductive HealthState where
  | healthy
  | degraded
  deriving DecidableEq, Repr

namespace HealthState

def names : List (String × HealthState) := [("healthy", healthy), ("degraded", degraded)]

def name : HealthState → String
  | healthy => "healthy"
  | degraded => "degraded"

def toJson (state : HealthState) : Json := .string state.name

def decoder : Decoder HealthState := .enumeration names

end HealthState

structure HealthCheck where
  status : String
  message : String
  deriving DecidableEq, Repr

namespace HealthCheck

def toJson (check : HealthCheck) : Json :=
  .object [("message", .string check.message), ("status", .string check.status)]

def decoder : Decoder HealthCheck :=
  (Record.field "status" .string ++ Record.field "message" .string
    |>.map fun (status, message) => { status, message }).decoder "HealthCheck"

end HealthCheck

/-- The checks are sorted by name. -/
structure HealthReport where
  state : HealthState
  checks : List (String × HealthCheck)
  timestamp : String
  deriving DecidableEq, Repr

namespace HealthReport

/-- Members are written in the order of their names. -/
def toJson (report : HealthReport) : Json :=
  .object [
    ("checks", .object (report.checks.map fun (name, check) => (name, check.toJson))),
    ("status", report.state.toJson),
    ("timestamp", .string report.timestamp)]

def decoder : Decoder HealthReport :=
  (Record.field "status" HealthState.decoder
      ++ Record.field "checks" (.dictionary HealthCheck.decoder)
      ++ Record.field "timestamp" .string
    |>.map fun ((state, checks), timestamp) => { state, checks, timestamp }).decoder
    "HealthResponse"

/-- A missing key is a warning, because it fails only once the provider is called. -/
def ofSettings (apiKey baseUrl timestamp : String) : HealthReport :=
  let key : HealthCheck :=
    if apiKey = "" then ⟨"warning", "No Claude API key configured"⟩
    else ⟨"ok", "Claude API key configured"⟩
  {
    state := if apiKey = "" then .degraded else .healthy
    checks := [("api_key", key), ("configuration", ⟨"ok", "API base: " ++ baseUrl⟩)]
    timestamp }

end HealthReport

end ChatGateway.Gateway
