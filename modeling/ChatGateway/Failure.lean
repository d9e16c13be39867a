import ChatGateway.Chat.Completion
import ChatGateway.Messages.Response

/-!
# Failures of the gateway

Every way in which answering a client can fail, with its wording, the HTTP status and the report
the client gets.
-/
namespace ChatGateway

open Chat (ErrorReport ErrorResponse)

/-- A failure that the provider reported, in the client's terms. -/
structure ProviderFailure where
  status : Nat
  report : ErrorReport
  deriving DecidableEq, Repr

inductive Failure where
  | invalidRequest (reason : String)
  | invalidImage (reason : String)
  | provider (failure : ProviderFailure)
  | decode (reason : String)
  /-- The provider answered with an error status and a body that reports no failure. -/
  | refused (status : Nat) (body : String)
  | configuration (reason : String)
  | http (reason : String)
  | configurationParsing (reason : String)
  | internal (reason : String)
  deriving DecidableEq, Repr

namespace ProviderFailure

/-- Every failure the provider reports is a bad request to the client. An empty report counts for
nothing. -/
def ofFault? (fault : Option Messages.Fault) : Option ProviderFailure :=
  match fault with
  | none => none
  | some fault =>
    if fault.isEmpty then none
    else
      some {
        status := 400
        report := {
          message := fault.message
          kind := fault.kind
          code := if fault.kind = "" then none else some fault.kind } }

end ProviderFailure

namespace Failure

def message : Failure → String
  | invalidRequest reason => "Invalid request: " ++ reason
  | invalidImage reason => "Invalid image reference: " ++ reason
  | provider failure => "Claude API error: " ++ failure.report.message
  | decode reason => "Failed to decode Claude payload: " ++ reason
  | refused status body => s!"Claude API returned HTTP {status}: {body}"
  | configuration reason => "Configuration error: " ++ reason
  | http reason => "HTTP error: " ++ reason
  | configurationParsing reason => "Config parsing error: " ++ reason
  | internal reason => "Internal error: " ++ reason

/-- The status the client gets. -/
def status : Failure → Nat
  | invalidRequest _ | invalidImage _ => 400
  | provider failure => failure.status
  | refused _ _ | http _ => 502
  | decode _ | configuration _ | configurationParsing _ | internal _ => 500

/-- The provider's own report is passed on as it is. -/
def report (failure : Failure) : ErrorReport :=
  match failure with
  | provider f => f.report
  | invalidRequest _ => ⟨failure.message, "invalid_request_error", none⟩
  | invalidImage _ => ⟨failure.message, "invalid_request_error", some "image_url_invalid"⟩
  | decode _ => ⟨failure.message, "decode_error", some "decode_claude_response_failed"⟩
  | refused _ _ | http _ => ⟨failure.message, "upstream_error", none⟩
  | configuration _ | configurationParsing _ => ⟨failure.message, "configuration_error", none⟩
  | internal _ => ⟨failure.message, "api_error", none⟩

def response (failure : Failure) : ErrorResponse := ⟨failure.report⟩

end Failure

end ChatGateway
