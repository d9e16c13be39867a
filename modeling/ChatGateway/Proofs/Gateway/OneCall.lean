import ChatGateway.Proofs.Gateway.Stages
import ChatGateway.Proofs.Gateway.WireText
import ChatGateway.Proofs.Http.Endpoint

/-!
What a chat request makes the gateway ask for: the images of the conversation one after the other,
and then one call to the provider, which carries the translated request. What stops the request
before the call also stops the call, and nothing that the call brings back leads to another one.
-/
namespace ChatGateway.Gateway

def loopbackBase : Http.Url :=
  ⟨"http", "", "", some "[::1]", none, .segments ["v1", ""], none, none⟩

theorem loopback_target {target : Http.Url}
    (isTarget : Http.Url.IsTarget loopback.baseUrl loopbackBase target) : target = loopbackUrl := by
  obtain ⟨_, bare, without, parsed, _⟩ := isTarget
  rw [← Provider.messagesUrl_eq without] at parsed
  have known : Http.Url.parse? loopback.messagesUrl = some loopbackUrl := by decide +kernel
  rw [known] at parsed
  exact (Option.some.inj parsed).symm

theorem loopback_valid : loopback.IsValid loopbackBase where
  read := by decide +kernel
  bare := by decide +kernel
  hosted := by decide
  sendable := by
    have bare : loopbackBase.withoutLogin = loopbackBase := by decide +kernel
    rw [bare]
    simp [loopbackBase, Http.Request.isSendable, String.any, String.contains_prop_eq]
    decide
  short := by
    intro target isTarget
    rw [loopback_target isTarget]
    decide +kernel
  key := by decide
  version := by decide

/-- The provider refuses, and of the images only the first one is there. -/
def scantWorld : World where
  fetch := Messages.onlyFirst
  network _ := some { status := 529 }
  created := 0
  timestamp := ""
  stamps _ := ⟨"", 0⟩

/-- The text of a chat request without floats is read as this request. -/
theorem chatRequest_text (chat : Chat.Request) (plain : chat.floats = []) :
    chatRequest chat.toJson.text = .ok chat := by
  rw [chatRequest, chat.decodeText_toJson (by simp [plain])]
  rfl

end ChatGateway.Gateway
