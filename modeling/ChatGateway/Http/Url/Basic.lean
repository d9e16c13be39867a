import ChatGateway.Http.Url.Percent

/-!
# URLs

A URL in its normal form: scheme and host in lower case, no port number that the scheme implies, no
dot segments, and other characters than a part may hold written as percent codes. `Url.text` writes
it.
-/
namespace ChatGateway.Http

inductive Path where
  /-- Text that is not divided into segments; such a URL has no host. -/
  | opaquePath (text : String)
  /-- Each segment has a slash in front. -/
  | segments (segments : List String)
  deriving DecidableEq, Repr

/-- The parts of a URL, each already in its normal form. The host is none where there is no place
for one, and may be empty. -/
structure Url where
  scheme : String
  user : String := ""
  password : String := ""
  host : Option String
  portNumber : Option Nat := none
  path : Path
  query : Option String := none
  fragment : Option String := none
  deriving DecidableEq, Repr

namespace Url

def hasHost (url : Url) : Bool := url.host.any (· ≠ "")

/-- The text without its percent codes is UTF-8. -/
def isReadable (text : String) : Bool := (Text.Utf8.decode? (decodePercent text.toList)).isOk

/-- The URL without a user name and a password, which stand in a header then. A user name that
cannot be read stays where it is, and so does a password that cannot be read and has no user
name. -/
def withoutLogin (url : Url) : Url :=
  let isLogin := url.user ≠ "" || (url.password ≠ "" && isReadable url.password)
  if isReadable url.user && isLogin then { url with user := "", password := "" } else url

/-- User name and password, as they stand before the host. -/
def login (url : Url) : String :=
  if url.user = "" ∧ url.password = "" then ""
  else if url.password = "" then url.user ++ "@"
  else url.user ++ ":" ++ url.password ++ "@"

def authority (url : Url) : String :=
  match url.host with
  | none => ""
  | some host => "//" ++ url.login ++ host ++ (url.portNumber.map fun n => s!":{n}").getD ""

/-- Where there is no place for a host, a path that begins with an empty segment has a dot before
it, so that the segment is not taken for a host. -/
def pathText (url : Url) : String :=
  match url.path with
  | .opaquePath text => text
  | .segments segments =>
    (match url.host, segments with
      | none, "" :: _ :: _ => "/."
      | _, _ => "") ++ String.join (segments.map ("/" ++ ·))

/-- The normal form. -/
def text (url : Url) : String :=
  url.scheme ++ ":" ++ url.authority ++ url.pathText
    ++ (url.query.map ("?" ++ ·)).getD "" ++ (url.fragment.map ("#" ++ ·)).getD ""

end Url

end ChatGateway.Http
