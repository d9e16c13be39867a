import ChatGateway.Proofs.Messages.IdleEvent
import ChatGateway.Proofs.Stream.Reported

/-!
Lines that an event stream may hold without anyone noticing: everything that is no data, and events
that nobody asked for. What a provider puts in of them, and how it spaces its data, does not show in
the chunks, in the end of the stream or in the count.
-/
namespace ChatGateway

open Chat (Chunk Usage)
open Json (Reading without)
open Messages (Envelope Event)

/-- A chunk but for its serial and its time. -/
def Chat.Chunk.unstamped (chunk : Chunk) : Chunk := { chunk with id := "", created := 0 }

namespace Stream

/-- A line that tells nothing. -/
inductive Idle (line : String) : Prop where
  | noData (other : ¬ "data:".toList <+: line.toList) : Idle line
  | event {payload : List Char} {members : List (String × Reading)}
      (data : payload? line = some payload)
      (read : Json.Document.ofChars payload = ⟨.object members .closed, true⟩)
      (idle : Messages.IdleEvent members) : Idle line

/-- A line as it is, or with other white space in front of its data. -/
inductive Respells : String → String → Prop where
  | same (line : String) : Respells line line
  | spaced {before after : List Char} (text : List Char)
      (blankBefore : ∀ c ∈ before, Json.Token.isSpace c = true)
      (blankAfter : ∀ c ∈ after, Json.Token.isSpace c = true) :
      Respells ("data:" ++ String.ofList (before ++ text)) ("data:" ++ String.ofList (after ++ text))

theorem meaning_noData {line : String} (other : ¬ "data:".toList <+: line.toList) :
    meaning line = .noise := by
  have none : Text.afterLead "data:" line.toList = none := by
    rw [Text.afterLead, if_neg (by simpa using other)]
  simp only [meaning, payload?, none, Option.map_none]

/-- Whether one space belongs to the framing or not, the data say the same. -/
theorem exists_payload (data : List Char) :
    ∃ payload, payload? ("data:" ++ String.ofList data) = some payload ∧
      Json.Document.ofChars payload = Json.Document.ofChars data := by
  have cut : Text.afterLead "data:" ("data:" ++ String.ofList data).toList = some data := by
    simp [Text.afterLead]
  rw [payload?, cut]
  by_cases spaced : ∃ rest, data = ' ' :: rest
  · obtain ⟨rest, rfl⟩ := spaced
    have blank : ∀ c ∈ [' '], Json.Token.isSpace c = true := by simp [Json.Token.isSpace]
    refine ⟨rest, rfl, ?_⟩
    rw [Json.Document.ofChars, Json.Document.ofChars, ← Json.Token.ofChars_space blank rest]
    rfl
  · refine ⟨data, ?_, rfl⟩
    rw [Option.map_some]
    split
    · exact absurd ⟨_, rfl⟩ spaced
    · rfl

theorem meaning_spaced {spaces : List Char} (blank : ∀ c ∈ spaces, Json.Token.isSpace c = true)
    (text : List Char) :
    meaning ("data:" ++ String.ofList (spaces ++ text)) = meaning ("data:" ++ String.ofList text) := by
  obtain ⟨spaced, dataSpaced, readSpaced⟩ := exists_payload (spaces ++ text)
  obtain ⟨plain, dataPlain, readPlain⟩ := exists_payload text
  have same : Json.Document.ofChars spaced = Json.Document.ofChars plain := by
    rw [readSpaced, readPlain, Json.Document.ofChars, Json.Token.ofChars_space blank]
    rfl
  simp only [meaning, dataSpaced, dataPlain, Json.decodeChars, same]

theorem Respells.meaning_eq {line spelling : String} (respells : Respells line spelling) :
    meaning spelling = meaning line := by
  cases respells with
  | same => rfl
  | spaced text blankBefore blankAfter =>
    rw [meaning_spaced blankBefore, meaning_spaced blankAfter]

/-- An idle line is passed over, in every phase. -/
theorem feed_idle {line : String} (idle : Idle line) (stamp : Chat.Stamp) (model : String)
    (phase : Phase) (usage : Usage) :
    feed stamp model phase usage line = ⟨.ok .skip, phase, usage⟩ := by
  by_cases isOpen : phase = .closed
  · rw [isOpen, feed_closed]
  rw [feed_open isOpen]
  cases idle with
  | noData other => rw [meaning_noData other]
  | event data read idle =>
    obtain ⟨envelope, decoded, nothing, kind⟩ := idle.decodes
    have whole : Json.decodeChars Envelope.decoder _ = .ok envelope :=
      Json.decodeChars_iff.mpr (by rw [read]; exact ⟨decoded, rfl⟩)
    rw [meaning_unreported data whole nothing]
    rcases kind with kind | kind <;> rw [kind] <;> rfl

/-- Whatever a line gives, but for the serial and the time of a chunk. -/
def Outcome.unstamped (outcome : Outcome) : Outcome :=
  match outcome.step with
  | .ok (.chunk chunk) => { outcome with step := .ok (.chunk chunk.unstamped) }
  | _ => outcome

/-- The stamp of a line shows in the serial and the time only. -/
theorem feed_unstamped {line spelling : String} (respells : Respells line spelling)
    (stamp other : Chat.Stamp) (model : String) (phase : Phase) (usage : Usage) :
    (feed stamp model phase usage spelling).unstamped =
      (feed other model phase usage line).unstamped := by
  rw [feed_eq_of_meaning respells.meaning_eq]
  by_cases isOpen : phase = .closed
  · rw [isOpen, feed_closed, feed_closed]
  rw [feed_open isOpen, feed_open isOpen]
  cases meaning line with
  | noise | failure => rfl
  | event event => cases event <;> rfl

namespace Outcome

theorem unstamped_phase (outcome : Outcome) : outcome.unstamped.phase = outcome.phase := by
  unfold unstamped
  split <;> rfl

theorem unstamped_usage (outcome : Outcome) : outcome.unstamped.usage = outcome.usage := by
  unfold unstamped
  split <;> rfl

theorem unstamped_chunk? (outcome : Outcome) :
    outcome.unstamped.chunk? = outcome.chunk?.map Chunk.unstamped := by
  obtain ⟨step, phase, usage⟩ := outcome
  cases step with
  | error failure => rfl
  | ok step => cases step <;> rfl

end Outcome

/-- A place in a padded stream: a line that is put in, or a line of the plain stream and how it is
spelt now. -/
inductive Place where
  | extra (line : String)
  | kept (line spelling : String)

namespace Place

def Allowed : Place → Prop
  | extra line => Idle line
  | kept line spelling => Respells line spelling

/-- The line in the plain stream. -/
def plain? : Place → Option String
  | extra _ => none
  | kept line _ => some line

/-- The line in the padded stream. -/
def padded : Place → String
  | extra line => line
  | kept _ spelling => spelling

end Place

/-- The outcomes of a padded stream beside those of the plain one: nothing where a line was put in,
and at each line of the plain stream what it gives there. -/
inductive Echoes : List Place → List Outcome → List Outcome → Prop where
  | nil : Echoes [] [] []
  | extra {line : String} {places : List Place} {plain padded : List Outcome} {outcome : Outcome}
      (skips : outcome.step = .ok .skip) (rest : Echoes places plain padded) :
      Echoes (.extra line :: places) plain (outcome :: padded)
  | kept {line spelling : String} {places : List Place} {plain padded : List Outcome}
      {before after : Outcome} (same : after.unstamped = before.unstamped)
      (rest : Echoes places plain padded) :
      Echoes (.kept line spelling :: places) (before :: plain) (after :: padded)

theorem Echoes.chunks {places : List Place} {plain padded : List Outcome}
    (echoes : Echoes places plain padded) :
    (padded.filterMap Outcome.chunk?).map Chunk.unstamped =
      (plain.filterMap Outcome.chunk?).map Chunk.unstamped := by
  simp only [List.map_filterMap, ← Outcome.unstamped_chunk?]
  induction echoes with
  | nil => rfl
  | @extra _ _ _ _ outcome skips _ ih =>
    have nothing : outcome.unstamped.chunk? = none := by
      rw [Outcome.unstamped_chunk?, Outcome.chunk?, skips]
      rfl
    simp only [List.filterMap_cons, nothing, ih]
  | kept same _ ih => simp only [List.filterMap_cons, same, ih]

theorem feedAll_echoes (stamps others : Stamps) (model : String) {places : List Place}
    (allowed : ∀ place ∈ places, place.Allowed) (place other : Nat) (phase : Phase) (usage : Usage) :
    let plain := feedAll stamps model place phase usage (places.filterMap Place.plain?)
    let padded := feedAll others model other phase usage (places.map Place.padded)
    Echoes places plain padded ∧ phaseAfter phase padded = phaseAfter phase plain ∧
      usageAfter usage padded = usageAfter usage plain := by
  induction places generalizing place other phase usage with
  | nil => exact ⟨.nil, rfl, rfl⟩
  | cons first places ih =>
    have rest := ih fun later found => allowed later (List.mem_cons_of_mem _ found)
    have here := allowed first (List.mem_cons_self ..)
    cases first with
    | extra line =>
      have passed := feed_idle here (others other) model phase usage
      obtain ⟨echoes, samePhase, sameUsage⟩ := rest place (other + 1) phase usage
      simp only [List.map_cons, Place.padded, List.filterMap_cons, Place.plain?, feedAll, passed]
      exact ⟨.extra rfl echoes, samePhase, sameUsage⟩
    | kept line spelling =>
      have same := feed_unstamped here (others other) (stamps place) model phase usage
      have phases : (feed (others other) model phase usage spelling).phase =
          (feed (stamps place) model phase usage line).phase := by
        rw [← Outcome.unstamped_phase, same, Outcome.unstamped_phase]
      have usages : (feed (others other) model phase usage spelling).usage =
          (feed (stamps place) model phase usage line).usage := by
        rw [← Outcome.unstamped_usage, same, Outcome.unstamped_usage]
      obtain ⟨echoes, samePhase, sameUsage⟩ := rest (place + 1) (other + 1)
        (feed (stamps place) model phase usage line).phase
        (feed (stamps place) model phase usage line).usage
      simp only [List.map_cons, Place.padded, List.filterMap_cons, Place.plain?, feedAll, phases,
        usages, phaseAfter, usageAfter]
      exact ⟨.kept same echoes, samePhase, sameUsage⟩

/-- Padding does not show: a fresh relay gives nothing for the lines that are put in and for the
others what it gives without them, whatever the stamps are. So the chunks are the same, in the same
order, and the relay ends in the same phase with the same count. -/
theorem padding_is_invisible (stamps others : Stamps) (model : String) (usage : Usage)
    (places : List Place) (allowed : ∀ place ∈ places, place.Allowed) :
    let plain := feedAll stamps model 0 .fresh usage (places.filterMap Place.plain?)
    let padded := feedAll others model 0 .fresh usage (places.map Place.padded)
    Echoes places plain padded ∧
      (padded.filterMap Outcome.chunk?).map Chunk.unstamped =
        (plain.filterMap Outcome.chunk?).map Chunk.unstamped ∧
      phaseAfter .fresh padded = phaseAfter .fresh plain ∧
      usageAfter usage padded = usageAfter usage plain := by
  obtain ⟨echoes, samePhase, sameUsage⟩ := feedAll_echoes stamps others model allowed 0 0 .fresh usage
  exact ⟨echoes, echoes.chunks, samePhase, sameUsage⟩

/-- An event without a meaning, with a report that says nothing. -/
def ping : List (String × Json) :=
  [("message", .array [.string "any"]), ("error", .object [("message", .string "")]),
    ("type", .string "ping")]

/-- A start and an end, spaced otherwise and between lines that tell nothing. -/
def spread : List Place :=
  [.extra ": noise",
    .kept (eventLine (.messageStart ⟨"", ⟨7, 0⟩⟩))
      ("data:" ++ String.ofList (['\t', ' '] ++ (Event.messageStart ⟨"", ⟨7, 0⟩⟩).toJson.chars)),
    .extra ("data: " ++ (Json.object ping).text),
    .kept (eventLine .messageStop) (eventLine .messageStop)]

theorem spread_is_invisible :
    (∀ place ∈ spread, place.Allowed) ∧
      phaseAfter .fresh (feedAll (fun _ => ⟨"", 0⟩) "m" 0 .fresh {} (spread.map Place.padded)) =
        .closed ∧
      usageAfter {} (feedAll (fun _ => ⟨"", 0⟩) "m" 0 .fresh {} (spread.map Place.padded)) =
        ⟨7, 0, 0⟩ := by
  have respelt (event : Event) : Respells (eventLine event)
      ("data:" ++ String.ofList (['\t', ' '] ++ event.toJson.chars)) := by
    have framed : eventLine event = "data:" ++ String.ofList ([' '] ++ event.toJson.chars) := by
      apply String.toList_injective
      simp [eventLine, Json.text]
    rw [framed]
    exact .spaced _ (by simp [Json.Token.isSpace]) (by simp [Json.Token.isSpace])
  have idle : Idle ("data: " ++ (Json.object ping).text) := by
    refine .event (payload?_data _) (Json.Document.ofChars_chars (.object ping) rfl) ?_
    have others : without "error" (Reading.ofMembers ping) =
        [("message", .array [.string "any"] true), ("type", .string "ping")] := rfl
    refine ⟨⟨"ping", rfl, by decide⟩, .inr ⟨_, rfl, rfl, .inl rfl, .inr rfl, ?_⟩, ?_⟩
    · simp [Reading.ofMembers]
    · rw [others]
      simp only [List.forall_mem_cons]
      exact ⟨rfl, rfl, by simp⟩
  have allowed : ∀ place ∈ spread, place.Allowed := by
    simp only [spread, List.forall_mem_cons]
    exact ⟨.noData (by decide), respelt _, idle, .same _, by simp⟩
  obtain ⟨_, _, phase, usage⟩ := padding_is_invisible (fun _ => ⟨"", 0⟩) (fun _ => ⟨"", 0⟩) "m" {}
    spread allowed
  have plain : spread.filterMap Place.plain? =
      [eventLine (.messageStart ⟨"", ⟨7, 0⟩⟩), eventLine .messageStop] := rfl
  have start : feed ⟨"", 0⟩ "m" .fresh {} (eventLine (.messageStart ⟨"", ⟨7, 0⟩⟩)) =
      ⟨.ok (chunkOf ⟨"", 0⟩ "m" 0 {} none), .streaming, ⟨7, 0, 0⟩⟩ :=
    feed_event _ _ _ (by decide) (meaning_eventLine _)
  have stop : feed ⟨"", 0⟩ "m" .streaming ⟨7, 0, 0⟩ (eventLine .messageStop) =
      ⟨.ok .done, .closed, ⟨7, 0, 0⟩⟩ := feed_event _ _ _ (by decide) (meaning_eventLine _)
  refine ⟨allowed, phase.trans ?_, usage.trans ?_⟩
  · simp only [plain, feedAll, start, stop, phaseAfter]
  · simp only [plain, feedAll, start, stop, usageAfter]

end Stream

end ChatGateway
