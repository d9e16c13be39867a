import ChatGateway.Text.Blank
import ChatGateway.Text.Cut

/-!
# Image formats

The formats the provider takes, by their media type or by the bytes an image of the format begins
with.
-/
namespace ChatGateway.Image

inductive Format where
  | jpeg
  | png
  | webP
  | gif
  deriving DecidableEq, Repr

namespace Format

def mediaType : Format → String
  | jpeg => "image/jpeg"
  | png => "image/png"
  | webP => "image/webp"
  | gif => "image/gif"

def mediaTypes : List (String × Format) :=
  [("image/jpeg", jpeg), ("image/jpg", jpeg), ("image/png", png), ("image/webp", webP),
    ("image/gif", gif)]

/-- Parameters after a semicolon, letter case and surrounding white space do not matter. -/
def ofMediaType? (mediaType : String) : Option Format :=
  mediaTypes.lookup
    (Text.lower (String.ofList (Text.trim (Text.before ';' mediaType.toList))))

/-- The format whose signature the bytes carry. A WebP image has the length of its container
between the two parts of its signature. -/
def detect? (bytes : List UInt8) : Option Format :=
  if [0xFF, 0xD8, 0xFF].isPrefixOf bytes then some jpeg
  else if [0x89, 0x50, 0x4E, 0x47, 0x0D, 0x0A, 0x1A, 0x0A].isPrefixOf bytes then some png
  else if [0x47, 0x49, 0x46, 0x38, 0x37, 0x61].isPrefixOf bytes
      || [0x47, 0x49, 0x46, 0x38, 0x39, 0x61].isPrefixOf bytes then some gif
  else if [0x52, 0x49, 0x46, 0x46].isPrefixOf bytes
      && [0x57, 0x45, 0x42, 0x50].isPrefixOf (bytes.drop 8) then some webP
  else none

end Format

end ChatGateway.Image
