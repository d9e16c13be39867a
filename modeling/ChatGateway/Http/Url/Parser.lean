import ChatGateway.Http.Url.Basic
import ChatGateway.Http.Url.Host

/-!
# Reading URLs

`Url.parse?` reads an absolute URL and brings each part into its normal form.
-/
namespace ChatGateway.Http.Url

/-! ## Schemes -/

/-- Schemes whose URLs always have a host, and the port numbers they imply. -/
def hostSchemes : List (String × Nat) :=
  [("http", 80), ("https", 443), ("ws", 80), ("wss", 443), ("ftp", 21)]

def fileScheme : String := "file"

def scheme? (text : List Char) : Option (String × List Char) :=
  match Text.splitFirst ':' text with
  | some (scheme, rest) =>
    match scheme with
    | c :: _ =>
      if c.isAlpha && scheme.all (fun c => c.isAlphanum || c ∈ ['+', '-', '.']) then
        some (String.ofList (scheme.map Char.toLower), rest)
      else none
    | [] => none
  | none => none

/-- A backslash is another slash where the scheme is a known one. -/
def isSlash (c : Char) : Bool := c = '/' || c = '\\'

/-! ## Paths -/

def isDot (segment : String) : Bool := segment.toLower ∈ [".", "%2e"]

def isDoubleDot (segment : String) : Bool :=
  segment.toLower ∈ ["..", ".%2e", "%2e.", "%2e%2e"]

/-- A letter and a colon name a drive, from which no double dot leads up. -/
def isDrive (marks : List Char) (segment : String) : Bool :=
  match segment.toList with
  | [letter, mark] => letter.isAlpha && mark ∈ marks
  | _ => false

/-- A dot segment stands for the segment itself or the one above; at the end it leaves an empty
segment. -/
def resolveDots (isFile : Bool) (segments : List String) : List String :=
  let last := segments.getLast?
  let kept := segments.foldl
    (fun reversed segment =>
      if isDoubleDot segment then
        if isFile && reversed.head?.any (isDrive [':']) then reversed else reversed.drop 1
      else if isDot segment then reversed
      else segment :: reversed)
    []
  let kept := kept.reverse
  if last.any (fun s => isDot s || isDoubleDot s) then kept ++ [""] else kept

/-- The segments of a path, of which the first has no slash in front. -/
def rawSegments (isMark : Char → Bool) (text : List Char) : List String :=
  (Text.pieces isMark text).map (encode pathSet)

/-- Without the slash in front. -/
def dropMark (isMark : Char → Bool) (text : List Char) : List Char :=
  match text with
  | c :: rest => if isMark c then rest else text
  | [] => []

def pathOf (isMark : Char → Bool) (text : List Char) : Path :=
  .segments (resolveDots false (rawSegments isMark (dropMark isMark text)))

/-- The path of a file: a drive may be marked by a bar, and there are no empty segments in front. -/
def filePath (text : List Char) : Path :=
  let segments := match rawSegments isSlash (dropMark isSlash text) with
    | first :: rest =>
      (if isDrive ['|', ':'] first then String.ofList (first.toList.take 1 ++ [':']) else first)
        :: rest
    | [] => []
  match (resolveDots true segments).dropWhile (· = "") with
  | [] => .segments [""]
  | segments => .segments segments

/-! ## What stands before the path -/

/-- Splits at the first colon outside brackets. -/
def splitPort (inside : Bool) : List Char → List Char × Option (List Char)
  | [] => ([], none)
  | c :: rest =>
    if c = ':' ∧ !inside then ([], some rest)
    else
      let inside := c = '[' ∨ (inside ∧ c ≠ ']')
      let (host, portText) := splitPort inside rest
      (c :: host, portText)

/-- Digits after a colon. The number that the scheme implies is left out. -/
def portNumber? (scheme : String) (text : List Char) : Option (Option Nat) :=
  if text.isEmpty then some none
  else do
    let number ← Text.natural? 10 text
    if 65535 < number then none
    else some (if hostSchemes.lookup scheme = some number then none else some number)

/-- Splits at the last `@`. -/
def splitLogin (text : List Char) : Option (List Char) × List Char :=
  match (Text.pieces (· = '@') text).reverse with
  | host :: login :: logins => (some (['@'].intercalate (login :: logins).reverse), host)
  | _ => (none, text)

/-- Puts what stands before the path into a URL; `isLast` tells that nothing comes after it. Only a
URL of an unknown scheme may have an empty host, and then it has neither a login nor a port
number. -/
def withAuthority? (url : Url) (isLast : Bool) (text : List Char) : Option Url := do
  let (login, hostPort) := splitLogin text
  let (user, password) := match login with
    | none => ([], [])
    | some login => (Text.splitFirst ':' login).getD (login, [])
  let (hostText, portText) := splitPort false hostPort
  let portNumber ← portNumber? url.scheme (portText.getD [])
  let isKnown := (hostSchemes.lookup url.scheme).isSome
  if hostText.isEmpty then
    if isKnown || portText.isSome || !user.isEmpty || !password.isEmpty
        || (login = some [] && !isLast) then none
    else some { url with host := some "" }
  else
    let host ← if isKnown then host? hostText else opaqueHost? hostText
    some { url with
      user := encode loginSet user
      password := encode loginSet password
      host := some host
      portNumber }

/-- The URL of a file. After two slashes comes a host, unless it names a drive. The own machine is
no host, and a path on a drive has none. -/
def ofFile? (url : Url) (text : List Char) : Option Url := do
  let (hostText, rest) := match text with
    | a :: b :: rest =>
      if isSlash a && isSlash b then
        let host := rest.takeWhile (!isSlash ·)
        if isDrive ['|', ':'] (String.ofList host) then ([], rest)
        else (host, rest.drop host.length)
      else ([], text)
    | text => ([], text)
  let host ← if hostText.isEmpty then some "" else host? hostText
  let path := filePath rest
  let onDrive := (rawSegments isSlash (dropMark isSlash rest)).head?.any (isDrive ['|', ':'])
  some { url with host := some (if host = "localhost" || onDrive then "" else host), path }

/-! ## Whole URLs -/

/-- White space and control characters at both ends do not count, and line ends and tabs nowhere. -/
def strip (text : List Char) : List Char :=
  let isEdge (c : Char) : Bool := c.toNat ≤ 0x20
  (((text.dropWhile isEdge).reverse.dropWhile isEdge).reverse).filter
    fun c => c ∉ ['\t', '\n', '\r']

/-- Cuts off what comes from the first mark on. -/
def cutAt (mark : Char) (text : List Char) : List Char × Option (List Char) :=
  match Text.splitFirst mark text with
  | some (before, after) => (before, some after)
  | none => (text, none)

def parse? (text : String) : Option Url := do
  let (scheme, rest) ← scheme? (strip text.toList)
  let isKnown := scheme = fileScheme || (hostSchemes.lookup scheme).isSome
  let (rest, fragment) := cutAt '#' rest
  let (rest, query) := cutAt '?' rest
  let url : Url := {
    scheme
    host := none
    path := .segments []
    query := query.map (encode (if isKnown then specialQuerySet else querySet))
    fragment := fragment.map (encode fragmentSet) }
  let isLast := query.isNone && fragment.isNone
  if scheme = fileScheme then url.ofFile? rest
  else if isKnown then
    let rest := rest.dropWhile isSlash
    let authority := rest.takeWhile (!isSlash ·)
    let path := rest.drop authority.length
    { url with path := pathOf isSlash path }.withAuthority? (isLast && path.isEmpty) authority
  else
    match rest with
    | '/' :: '/' :: rest =>
      let authority := rest.takeWhile (· ≠ '/')
      let path := rest.drop authority.length
      let url :=
        { url with path := if path.isEmpty then .segments [] else pathOf (· = '/') path }
      url.withAuthority? (isLast && path.isEmpty) authority
    | '/' :: rest => some { url with path := pathOf (· = '/') ('/' :: rest) }
    | rest => some { url with path := .opaquePath (encode "" rest) }

end ChatGateway.Http.Url
