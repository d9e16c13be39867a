import ChatGateway.Proofs.Image.DataUrl

/-!
An image is the same whether it stands in a data URL or is downloaded. Both ways look at the size
and then at the format, of the same bytes and the same declared type; that a length declared
beforehand is looked at first makes no difference, because it is the length of the bytes.
-/
namespace ChatGateway.Image

open Text (Trimmed isBlank)
open Text.Base64 (Spells)

/-- The URL that holds the bytes and the type that is declared for them. -/
def dataUrl (declared : Option String) (bytes : List UInt8) : String :=
  "data:" ++ (declared.getD "" ++ ";base64," ++ String.ofList (Text.Base64.encode bytes))

/-- A type as it may stand in a data URL and in a header: printable ASCII without a comma. -/
structure IsPlain (type : String) : Prop where
  stated : type ≠ ""
  printable : ∀ c ∈ type.toList, 0x20 ≤ c.toNat ∧ c.toNat < 0x7F
  noComma : ',' ∉ type.toList

/-- The reply delivers all of the bytes, of the declared type. It may also declare their number. -/
structure Delivers (reply : Http.Reply) (declared : Option String) (bytes : List UInt8) : Prop where
  success : 200 ≤ reply.status ∧ reply.status < 300
  type : reply.header? "content-type" = declared
  whole : reply.isBroken = false ∧ reply.chunks.flatten = bytes
  length : ∀ length, reply.length = some length → length = bytes.length

/-- The URL leads to a server, which answers with the bytes. -/
inductive Answered (network : Http.Network) (declared : Option String) (bytes : List UInt8) :
    String → Prop where
  | mk {scheme rest : String} {request : Http.Request} {reply : Http.Reply}
      (remote : scheme = "http://" ∨ scheme = "https://")
      (built : Http.Request.build "GET" (scheme ++ rest) [] "" = .ok request)
      (replies : network request = some reply) (delivers : Delivers reply declared bytes) :
      Answered network declared bytes (scheme ++ rest)

variable {declared : Option String} {bytes : List UInt8}

theorem Delivers.resolves {reply : Http.Reply} (delivers : Delivers reply declared bytes)
    (plain : ∀ type, declared = some type → IsPlain type) (limit : Nat) :
    Resolves limit declared bytes (ofReply limit reply) := by
  obtain ⟨⟨low, high⟩, type, ⟨whole, held⟩, length⟩ := delivers
  have success : reply.isSuccess = true := by
    simp [Http.Reply.isSuccess, low, high]
  have known : declaredType reply = declared := by
    rw [declaredType, type]
    cases declared with
    | none => rfl
    | some value =>
      rw [Option.filter_some, if_pos]
      refine List.all_eq_true.mpr fun c member => ?_
      obtain ⟨low, high⟩ := (plain value rfl).printable c member
      simp [low, high]
  have read : ofFault reply.bytes = .ok bytes := by
    rw [Http.Reply.bytes, whole, held]
    rfl
  have checked := resolves_checked limit declared bytes
  unfold ofReply
  rw [success, read, known]
  cases told : reply.length with
  | none => exact checked
  | some count =>
    obtain rfl := length count told
    dsimp only
    cases size : checkSize bytes.length limit with
    | error failure =>
      rw [size] at checked
      exact checked
    | ok => exact checked

theorem Answered.resolves {network : Http.Network} {url : String}
    (answered : Answered network declared bytes url)
    (plain : ∀ type, declared = some type → IsPlain type) (limit : Nat) :
    Resolves limit declared bytes (fetch network limit url) := by
  obtain ⟨remote, built, replies, delivers⟩ := answered
  next scheme rest request reply =>
  have noData : Text.afterLead "data:" (scheme ++ rest).toList = none := by
    rcases remote with rfl | rfl <;> simp [Text.afterLead]
  have isRemote : isRemote (scheme ++ rest) = true := by
    rcases remote with rfl | rfl <;> simp [isRemote, Text.afterLead]
  have sent : request.send network = .ok reply := by rw [Http.Request.send, replies]
  have downloaded : download network limit (scheme ++ rest) = ofReply limit reply := by
    rw [download, built]
    change (ofFault (request.send network) >>= ofReply limit) = _
    rw [sent]
    rfl
  rw [fetch, noData]
  simp only [isRemote, if_true, downloaded]
  exact delivers.resolves plain limit

/-- A digit is no white space, and neither is the sign that fills up a group. -/
theorem spells_not_blank {text : List Char} (spells : Spells text bytes) {c : Char}
    (member : c ∈ text) : isBlank c = false := by
  rcases spells.mem member with rfl | ⟨n, isDigit⟩
  · decide
  · have all : ((List.range 64).all fun n => !isBlank (Text.Base64.digit n)) = true := by decide
    have own := List.all_eq_true.mp all n (List.mem_range.mpr isDigit.lt)
    rw [isDigit.eq_digit]
    simpa using own

theorem dataUrl_resolves (network : Http.Network)
    (plain : ∀ type, declared = some type → IsPlain type) (limit : Nat) :
    Resolves limit declared bytes (fetch network limit (dataUrl declared bytes)) := by
  have spells := Text.Base64.spells_encode bytes
  have trimmed : Trimmed (Text.Base64.encode bytes) (Text.Base64.encode bytes) :=
    ⟨⟨[], [], (List.append_nil _).symm, nofun, nofun⟩,
      fun c first => spells_not_blank spells (List.mem_of_head? first),
      fun c last => spells_not_blank spells (List.mem_of_getLast? last)⟩
  have shaped : Shaped
      (declared.getD "" ++ ";base64," ++ String.ofList (Text.Base64.encode bytes)).toList
      (declared.getD "").toList (Text.Base64.encode bytes) := by
    refine ⟨⟨_, ?_, trimmed⟩, ?_⟩
    · simp
    · cases declared with
      | none => exact List.not_mem_nil
      | some type => exact (plain type rfl).noComma
  have isGiven : given (declared.getD "").toList = declared := by
    cases declared with
    | none => rfl
    | some type =>
      have stated : type.toList.isEmpty = false := by
        simpa using (plain type rfl).stated
      simp [given, stated]
  obtain ⟨outcome, resolves⟩ : ∃ outcome, Resolves limit declared bytes outcome :=
    ⟨_, resolves_checked limit declared bytes⟩
  have reading := Reading.decoded shaped spells (isGiven.symm ▸ resolves)
  rw [dataUrl, fetch_data_iff.mpr reading]
  exact resolves

/-- An image in a data URL and the same image from a server amount to the same: the image, or that
it is too large, or that its format is not supported. In an image that is resolved the data stand
for exactly the bytes, which are no more than allowed, and its type is the canonical one of the
declared format if there is one, and else of the format that the bytes carry. -/
theorem inline_and_downloaded_agree (network : Http.Network) (limit : Nat)
    (declared : Option String) (bytes : List UInt8) (url : String)
    (plain : ∀ type, declared = some type → IsPlain type)
    (answered : Answered network declared bytes url) :
    fetch network limit (dataUrl declared bytes) = fetch network limit url ∧
    Resolves limit declared bytes (fetch network limit url) ∧
    ∀ image, (fetch network limit (dataUrl declared bytes) = .ok image ∨
        fetch network limit url = .ok image) →
      Spells image.data.toList bytes ∧ Text.Base64.decode? image.data.toList = some bytes ∧
        bytes.length ≤ limit ∧
        ∃ format, HasFormat declared bytes format ∧ Canonical format image.mediaType := by
  have downloaded := answered.resolves plain limit
  have same : fetch network limit (dataUrl declared bytes) = fetch network limit url :=
    (dataUrl_resolves network plain limit).unique downloaded
  refine ⟨same, downloaded, fun image resolved => ?_⟩
  rw [same, or_self] at resolved
  rw [resolved] at downloaded
  cases downloaded with
  | image fits hasFormat canonical spells =>
    exact ⟨spells, Text.Base64.decode?_iff.mpr spells, fits, _, hasFormat, canonical⟩

/-- The signature of a GIF image and nothing else. -/
def gifBytes : List UInt8 := [0x47, 0x49, 0x46, 0x38, 0x39, 0x61]

/-- A reply in two pieces that declares some type for the bytes. -/
def gifReply (type : String) : Http.Reply where
  status := 206
  headers := [⟨"Content-Type", type⟩]
  chunks := [gifBytes.take 2, gifBytes.drop 2]
  length := some 6

def gifUrl : Http.Url := ⟨"http", "", "", some "[::1]", none, .segments [""], none, none⟩

theorem gif_answered (type : String) :
    Answered (fun _ => some (gifReply type)) (some type) gifBytes ("http://" ++ "[::1]") := by
  have parsed : Http.Url.parse? ("http://" ++ "[::1]") = some gifUrl := by decide +kernel
  have hosted : gifUrl.hasHost = true := by decide
  have bare : gifUrl.withoutLogin = gifUrl := by decide +kernel
  have sendable : Http.Request.isSendable gifUrl = true := by
    simp [Http.Request.isSendable, gifUrl, String.any, String.contains_prop_eq]
    decide
  have built : Http.Request.build "GET" ("http://" ++ "[::1]") [] "" =
      .ok ⟨"GET", gifUrl, [], ""⟩ := by
    simp only [Http.Request.build, parsed, hosted, bare, sendable]
    rfl
  have lower : "Content-Type".toLower = "content-type" := by decide +kernel
  have declares : (gifReply type).header? "content-type" = some type := by
    simp [Http.Reply.header?, gifReply, lower]
  exact .mk (.inl rfl) built rfl ⟨⟨by simp [gifReply], by simp [gifReply]⟩, declares, ⟨rfl, rfl⟩,
    by rintro _ ⟨⟩; rfl⟩

/-- The type that is declared is unknown, or it is known and its bytes would be of another one. -/
theorem gif_both_ways :
    (fetch (fun _ => some (gifReply "text/plain")) 6 (dataUrl (some "text/plain") gifBytes) =
        .ok ⟨"image/gif", "R0lGODlh"⟩ ∧
      fetch (fun _ => some (gifReply "text/plain")) 6 ("http://" ++ "[::1]") =
        .ok ⟨"image/gif", "R0lGODlh"⟩) ∧
    fetch (fun _ => some (gifReply "Image/WebP;q=1")) 6
        (dataUrl (some "Image/WebP;q=1") gifBytes) = .ok ⟨"image/webp", "R0lGODlh"⟩ ∧
      fetch (fun _ => some (gifReply "Image/WebP;q=1")) 6 ("http://" ++ "[::1]") =
        .ok ⟨"image/webp", "R0lGODlh"⟩ := by
  have plain {type : String} (stated : type ≠ "") (noComma : ',' ∉ type.toList)
      (printable : type.toList.all (fun c => 0x20 ≤ c.toNat ∧ c.toNat < 0x7F) = true) :
      ∀ other, some type = some other → IsPlain other := by
    rintro _ ⟨⟩
    refine ⟨stated, fun c member => ?_, noComma⟩
    exact of_decide_eq_true (List.all_eq_true.mp printable c member)
  have spells : Spells "R0lGODlh".toList gifBytes :=
    Text.Base64.decode?_iff.mp (by decide +kernel)
  constructor
  · obtain ⟨same, resolves, _⟩ := inline_and_downloaded_agree _ 6 _ _ _
      (plain (by decide) (by decide) (by decide)) (gif_answered "text/plain")
    have hasFormat : HasFormat (some "text/plain") gifBytes .gif := by
      refine .shown ?_ (.gif89 [])
      rintro _ ⟨⟩ other declares
      have unknown : Format.ofMediaType? "text/plain" = none := by decide
      cases unknown.symm.trans (Format.ofMediaType?_iff.mpr declares)
    have known := resolves.unique (.image (by decide) hasFormat .gif spells)
    exact ⟨same.trans known, known⟩
  · obtain ⟨same, resolves, _⟩ := inline_and_downloaded_agree _ 6 _ _ _
      (plain (by decide) (by decide) (by decide)) (gif_answered "Image/WebP;q=1")
    have declares : Declares ([] ++ ("Image/WebP".toList ++ []) ++ ";q=1".toList) .webP :=
      .mk .webP (by decide) nofun nofun (by simp)
    have known := resolves.unique (.image (by decide) (.declared rfl declares) .webP spells)
    exact ⟨same.trans known, known⟩

end ChatGateway.Image
