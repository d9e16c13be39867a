import ChatGateway.Stream.Session

/-!
What a single move of a session can do. `Produces` lists the steps of the producer with the guard
and the effect of each, so that a later proof splits by step and opens no definition. The rest says
which parts of a session a move leaves alone.
-/
namespace ChatGateway.Stream

open Chat (Usage)

namespace Session

/-- A session in which nothing has happened yet; the relay may be in any phase. -/
def opening (phase : Phase) (usage : Usage) : Session := { phase, usage }

/-- What the item in hand leads to. -/
def reaction (setup : Setup) (s : Session) (item : Item) : Reaction :=
  react (setup.stamps (s.place - 1)) setup.model s.phase s.usage item

/-- The steps of the producer. Only `read` takes an item and only `sent` fills the queue; neither
is possible without a client. -/
inductive Produces (setup : Setup) (s : Session) : Session → Prop where
  | noticed (waiting : s.stage = .waiting) (gone : s.present = false) :
      Produces setup s { s with stage := .ended }
  | read {item : Item} (waiting : s.stage = .waiting) (here : s.present = true)
      (polled : setup.source s.place = .item item) :
      Produces setup s { s with stage := .holding item, place := s.place + 1 }
  | exhausted (waiting : s.stage = .waiting) (here : s.present = true)
      (polled : setup.source s.place = .ended) :
      Produces setup s { s with stage := .sending (.failed endedEarly s.usage) }
  | translated {item : Item} (holding : s.stage = .holding item) :
      Produces setup s { s with
        stage := ((s.reaction setup item).signal.map Stage.sending).getD .waiting
        phase := (s.reaction setup item).phase
        usage := (s.reaction setup item).usage }
  | refused {signal : Signal} (sending : s.stage = .sending signal) (gone : s.present = false) :
      Produces setup s { s with stage := .ended }
  | sent {signal : Signal} (sending : s.stage = .sending signal) (here : s.present = true)
      (room : s.queue.length < setup.room) :
      Produces setup s { s with
        stage := if signal.isFinal then .ended else .waiting
        queue := s.queue ++ [signal] }

theorem produces_of_produce? {setup : Setup} {s t : Session} (step : s.produce? setup = some t) :
    Produces setup s t := by
  unfold produce? at step
  split at step
  next waiting =>
    split at step
    next gone =>
      cases step
      exact .noticed waiting (by simpa using gone)
    next here =>
      have here : s.present = true := by simpa using here
      split at step
      next item polled =>
        cases step
        exact .read waiting here polled
      next polled =>
        cases step
        exact .exhausted waiting here polled
      · cases step
  next item holding =>
    cases step
    exact .translated holding
  next signal sending =>
    split at step
    next gone =>
      cases step
      exact .refused sending (by simpa using gone)
    next here =>
      split at step
      next room =>
        cases step
        exact .sent sending (by simpa using here) room
      · cases step
  · cases step

theorem receive?_success {s t : Session} (step : s.receive? = some t) :
    s.present = true ∧ ∃ signal rest, s.queue = signal :: rest ∧
      t = { s with queue := rest, received := s.received ++ [signal] } := by
  unfold receive? at step
  split at step
  next signal rest here queued =>
    cases step
    exact ⟨here, signal, rest, queued, rfl⟩
  · cases step

theorem leave?_success {s t : Session} (step : s.leave? = some t) :
    s.present = true ∧ t = { s with present := false, queue := [] } := by
  unfold leave? at step
  split at step
  next here =>
    cases step
    exact ⟨here, rfl⟩
  · cases step

/-- The session after several moves in a row, if each of them is possible in its turn. -/
def follow? (setup : Setup) : List Move → Session → Option Session
  | [], s => some s
  | m :: rest, s => (s.next? setup m).bind (follow? setup rest)

theorem follow?_cons {setup : Setup} {m : Move} {rest : List Move} {s t : Session}
    (followed : follow? setup (m :: rest) s = some t) :
    ∃ next, s.next? setup m = some next ∧ follow? setup rest next = some t := by
  rw [follow?, Option.bind_eq_some_iff] at followed
  exact followed

theorem reachable_of_follow? {setup : Setup} {start s t : Session} (moves : List Move)
    (reached : Reachable setup start s) (followed : follow? setup moves s = some t) :
    Reachable setup start t := by
  induction moves generalizing s with
  | nil =>
    cases followed
    exact reached
  | cons m rest ih =>
    obtain ⟨next, step, later⟩ := follow?_cons followed
    exact ih (.move m reached step) later

end Session

end ChatGateway.Stream
