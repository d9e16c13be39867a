import ChatGateway.Image.Format
import ChatGateway.Text.Base64
import ChatGateway.Text.Cut

/-!
# Inline images

An image as the provider takes it: its format and its bytes in base64. A data URL already holds
one; reading it checks the encoding, then the size, then the format.
-/
namespace ChatGateway.Image

/-- An image with its media type and its bytes in base64. -/
structure Inline where
  mediaType : String
  data : String
  deriving DecidableEq, Repr

inductive Error where
  | unsupportedScheme (scheme : String)
  | malformedDataUrl
  | base64
  | unsupportedFormat (declared : String)
  | tooLarge (size limit : Nat)
  | download (reason : String)
  | status (code : Nat)
  deriving DecidableEq, Repr

namespace Error

/-- What is wrong with a base64 text is not told; a placeholder stands for it. -/
def message : Error → String
  | unsupportedScheme scheme => "unsupported image URL scheme: " ++ scheme
  | malformedDataUrl => "malformed data URL"
  | base64 => "invalid base64 image data: <detail>"
  | unsupportedFormat declared => "unsupported image format: " ++ declared
  | tooLarge size limit => s!"image size {size} bytes exceeds maximum of {limit} bytes"
  | download reason => "image download failed: " ++ reason
  | status code => s!"image download returned HTTP {code}"

end Error

/-- An image may be as large as the limit. -/
def checkSize (size limit : Nat) : Except Error Unit :=
  if limit < size then .error (.tooLarge size limit) else .ok ()

/-- The declared format if the provider takes it, else the one that the bytes show. -/
def formatOf (declared : Option String) (bytes : List UInt8) : Except Error Format :=
  match declared.bind Format.ofMediaType? with
  | some format => .ok format
  | none =>
    match Format.detect? bytes with
    | some format => .ok format
    | none => .error (.unsupportedFormat (declared.getD "unknown"))

/-- Resolves the URL of an image. -/
abbrev Fetcher := String → Except Error Inline

namespace Inline

/-- Reads what follows `data:`. White space around the payload is dropped, and the payload is
passed on as it is written. -/
def ofDataUrl (limit : Nat) (rest : List Char) : Except Error Inline := do
  let some (header, payload) := Text.splitFirst ',' rest | throw .malformedDataUrl
  let some declared := Text.beforeTail ";base64" header | throw .malformedDataUrl
  let payload := Text.trim payload
  let some bytes := Text.Base64.decode? payload | throw .base64
  checkSize bytes.length limit
  let declared := if declared.isEmpty then none else some (String.ofList declared)
  let format ← formatOf declared bytes
  pure ⟨format.mediaType, String.ofList payload⟩

end Inline

end ChatGateway.Image
