import ChatGateway.Chat.Completion
import ChatGateway.Failure
import ChatGateway.Messages.Response

/-!
# The completion of a messages response

A response that reports a failure gives that failure and leaves the token count alone; every other
response gives a completion and sets the count.
-/
namespace ChatGateway.Chat

namespace FinishReason

/-- A reason that is not known counts as an ordinary end. -/
def ofStopReason : Messages.StopReason → FinishReason
  | .endTurn | .stopSequence | .unknown => stop
  | .maxTokens => length
  | .toolUse => toolCalls

end FinishReason

/-- Continuations come with a leading space; one is removed. -/
def withoutLead (text : String) : String :=
  match text.toList with
  | ' ' :: rest => String.ofList rest
  | _ => text

/-- The text of the first text block. -/
def contentOf (blocks : List Messages.ResponseBlock) : String :=
  match blocks.find? Messages.ResponseBlock.isText with
  | some block => withoutLead block.text
  | none => ""

namespace Completion

/-- The completion, or the failure, with the token count after it. -/
def ofResponse (created : Int64) (model : String) (response : Messages.Response) (usage : Usage) :
    Except Failure Completion × Usage :=
  match ProviderFailure.ofFault? response.error with
  | some failure => (.error (.provider failure), usage)
  | none =>
    let counted := Usage.ofCounts response.usage.inputTokens response.usage.outputTokens
    let choice : Choice := {
      index := 0
      message := ⟨response.role, contentOf response.content⟩
      finishReason := response.stopReason.map FinishReason.ofStopReason }
    (.ok {
      id := response.id
      kind := "chat.completion"
      created
      model
      choices := [choice]
      usage := some counted }, counted)

/-- The outcomes of several responses that share one token count, with the count after each. -/
def ofResponses (created : Int64) (model : String) :
    List Messages.Response → Usage → List (Except Failure Completion × Usage)
  | [], _ => []
  | response :: rest, usage =>
    let outcome := ofResponse created model response usage
    outcome :: ofResponses created model rest outcome.2

end Completion

end ChatGateway.Chat
