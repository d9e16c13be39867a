import ChatGateway.Proofs.Settings.Precedence

/-!
Settings from all their layers. What the command line leaves open is taken from the environment, and
what is given then takes the place of the host and the port and of nothing else. So a setting
depends on its own layers only (`Key.Layered.eq_of_same`), and settings that make sense still do
when the command line has changed them.
-/
namespace ChatGateway

open CommandLine (Arguments Environment Opt)
open Json (bind_eq_ok_iff)

namespace CommandLine

variable {env : Environment} {given bare : Arguments} {arguments : List String}

/-- What is not given for an option is what its variable says. -/
theorem fromEnvironment_config (usable : ∀ text, env "CLAUDE2OAI_CONFIG" = some text → text ≠ "") :
    fromEnvironment env given .config =
      .ok { given with config := given.config.or (env "CLAUDE2OAI_CONFIG") } := by
  obtain ⟨config, host, portNumber⟩ := given
  cases config with
  | some path => rfl
  | none =>
    simp only [fromEnvironment, Arguments.isGiven, Opt.variableName]
    cases set : env "CLAUDE2OAI_CONFIG" with
    | none => rfl
    | some text => simp [Arguments.set, Arguments.isGiven, usable text set]

theorem fromEnvironment_host : fromEnvironment env given .host =
    .ok { given with host := given.host.or (env "CLAUDE2OAI_HOST") } := by
  obtain ⟨config, host, portNumber⟩ := given
  cases host with
  | some name => rfl
  | none =>
    simp only [fromEnvironment, Arguments.isGiven, Opt.variableName]
    cases set : env "CLAUDE2OAI_HOST" with
    | none => rfl
    | some text => rfl

theorem fromEnvironment_portNumber
    (usable : ∀ text, env "CLAUDE2OAI_PORT" = some text → (number? text).isSome) :
    fromEnvironment env given .portNumber =
      .ok { given with portNumber := given.portNumber.or ((env "CLAUDE2OAI_PORT").bind number?) } := by
  obtain ⟨config, host, portNumber⟩ := given
  cases portNumber with
  | some n => rfl
  | none =>
    simp only [fromEnvironment, Arguments.isGiven, Opt.variableName]
    cases set : env "CLAUDE2OAI_PORT" with
    | none => rfl
    | some text =>
      obtain ⟨n, said⟩ := Option.isSome_iff_exists.mp (usable text set)
      simp [Arguments.set, Arguments.isGiven, said]

/-- The options, from the command line and else from the environment. -/
def layered (env : Environment) (given : Arguments) : Arguments where
  config := given.config.or (env "CLAUDE2OAI_CONFIG")
  host := given.host.or (env "CLAUDE2OAI_HOST")
  portNumber := given.portNumber.or ((env "CLAUDE2OAI_PORT").bind number?)

/-- Variables of the command line that can be read. -/
structure Usable (env : Environment) : Prop where
  config : ∀ text, env "CLAUDE2OAI_CONFIG" = some text → text ≠ ""
  portNumber : ∀ text, env "CLAUDE2OAI_PORT" = some text → (number? text).isSome

theorem fromEnvironment_all (usable : Usable env) :
    Opt.all.foldlM (fromEnvironment env) given = .ok (layered env given) := by
  simp only [Opt.all, List.foldlM_cons, List.foldlM_nil, fromEnvironment_config usable.config]
  change (fromEnvironment env _ .host >>= _) = _
  rw [fromEnvironment_host]
  change (fromEnvironment env _ .portNumber >>= _) = _
  rw [fromEnvironment_portNumber usable.portNumber]
  rfl

theorem read_iff (usable : Usable env) :
    read env arguments = .ok given ↔
      ∃ bare, (arguments.foldlM State.step {} >>= State.settle) = .ok bare ∧
        layered env bare = given := by
  have read' : read env arguments = (arguments.foldlM State.step {} >>= State.settle) >>=
      Opt.all.foldlM (fromEnvironment env) := by
    rw [bind_assoc]
    rfl
  rw [read', bind_eq_ok_iff]
  simp only [fromEnvironment_all usable, Except.ok.injEq]

/-- A command line that can be read alone can be read in an environment. -/
theorem read_layered (usable : Usable env) (alone : read (fun _ => none) arguments = .ok bare) :
    read env arguments = .ok (layered env bare) := by
  have nothing : Usable fun _ => none := ⟨fun _ set => (by cases set), fun _ set => (by cases set)⟩
  obtain ⟨own, done, rfl⟩ := (read_iff nothing).mp alone
  have same : layered (fun _ => none) own = own := by
    simp [layered]
  rw [same]
  exact (read_iff usable).mpr ⟨own, done, rfl⟩

end CommandLine

namespace Settings

variable {settings other : Settings} {vars : Variables} {file : Option String}
  {document : List (String × Value)}

/-- Settings make sense if there is room in the queue and an address to ask. -/
theorem validate_iff : settings.validate = .ok () ↔
    1 ≤ settings.streaming.channelCapacity.toNat ∧ settings.claude.apiBaseUrl ≠ "" := by
  have room : settings.streaming.channelCapacity = 0 ↔
      settings.streaming.channelCapacity.toNat = 0 := by
    rw [← UInt64.toNat_inj]
    rfl
  rw [validate]
  by_cases full : settings.streaming.channelCapacity = 0
  · rw [if_pos full]
    have := room.mp full
    simp [this]
  · rw [if_neg full]
    have := mt room.mpr full
    by_cases empty : settings.claude.apiBaseUrl = ""
    · simp [empty]
    · simp only [empty, if_false, not_false_eq_true, and_true, true_iff, ne_eq]
      omega

/-- Settings that can be read are loaded exactly if they make sense. -/
theorem load_iff (done : read vars file = .ok settings) {loaded : Settings} :
    load vars file = .ok loaded ↔ loaded = settings ∧ settings.validate = .ok () := by
  rw [load, done]
  change (settings.validate >>= fun _ => pure settings) = _ ↔ _
  rw [bind_eq_ok_iff]
  constructor
  · rintro ⟨_, valid, same⟩
    cases same
    exact ⟨rfl, valid⟩
  · rintro ⟨rfl, valid⟩
    exact ⟨(), valid, rfl⟩

/-- The default of the API key matters to no other key. -/
theorem Key.absent_other {key : Key} (other : key ≠ .apiKey) (one two : String) :
    key.absent one = key.absent two := by
  cases key <;> first | rfl | exact absurd rfl other

/-- A setting depends on its own layers only. -/
theorem Key.Layered.eq_of_same {key : Key} {others : Variables}
    {otherDocument : List (String × Value)} (one : key.Layered vars document settings)
    (two : key.Layered others otherDocument other)
    (sameVariable : others.lookup key.variableName = vars.lookup key.variableName)
    (sameFile : lastIn key.group key.name otherDocument = lastIn key.group key.name document)
    (ownKey : key = .apiKey →
      others.lookup "ANTHROPIC_API_KEY" = vars.lookup "ANTHROPIC_API_KEY") :
    key.get other = key.get settings := by
  cases set : vars.lookup key.variableName with
  | some text =>
    have left := two.fromVariable text (sameVariable.trans set)
    exact Option.some.inj (left.symm.trans (one.fromVariable text set))
  | none =>
    have unset := sameVariable.trans set
    cases filed : lastIn key.group key.name document with
    | some value =>
      have left := two.fromFile unset value (sameFile.trans filed)
      exact Option.some.inj (left.symm.trans (one.fromFile set value filed))
    | none =>
      rw [two.byDefault unset (sameFile.trans filed), one.byDefault set filed]
      by_cases own : key = .apiKey
      · rw [ownKey own]
      · exact absent_other own _ _

/-- What is given takes the place of the host and the port. -/
theorem apply_get (given : CommandLine.Arguments) :
    (given.apply settings).server.host = given.host.getD settings.server.host ∧
    (given.apply settings).server.portNumber =
      given.portNumber.getD settings.server.portNumber ∧
    ∀ key : Key, key ≠ .host → key ≠ .portNumber →
      key.get (given.apply settings) = key.get settings := by
  refine ⟨rfl, rfl, fun key noHost noPort => ?_⟩
  cases key <;> first | rfl | exact absurd rfl noHost | exact absurd rfl noPort

/-- Every setting comes from the first of its layers that has it, whatever the others have; settings
are loaded if they make sense; and what the command line or a variable gives for the host and the
port goes before all that, so that they still make sense. -/
theorem settings_come_from_their_layers (readable : Readable vars) (sets : Sets file document) :
    ∃ settings, read vars file = .ok settings ∧
      (∀ key : Key, key.Layered vars document settings) ∧
      (∀ loaded, load vars file = .ok loaded ↔
        loaded = settings ∧ 1 ≤ settings.streaming.channelCapacity.toNat ∧
          settings.claude.apiBaseUrl ≠ "") ∧
      (∀ others otherFile otherDocument, Readable others → Sets otherFile otherDocument →
        ∀ other, read others otherFile = .ok other →
        ∀ key : Key, others.lookup key.variableName = vars.lookup key.variableName →
          lastIn key.group key.name otherDocument = lastIn key.group key.name document →
          (key = .apiKey →
            others.lookup "ANTHROPIC_API_KEY" = vars.lookup "ANTHROPIC_API_KEY") →
          key.get other = key.get settings) ∧
      ∀ arguments bare, CommandLine.Usable (fun name => vars.lookup name) →
        CommandLine.read (fun _ => none) arguments = .ok bare →
        ∃ given, CommandLine.read (fun name => vars.lookup name) arguments = .ok given ∧
          (given.apply settings).server.host =
            (bare.host.or (vars.lookup "CLAUDE2OAI_HOST")).getD settings.server.host ∧
          (given.apply settings).server.portNumber =
            (bare.portNumber.or ((vars.lookup "CLAUDE2OAI_PORT").bind CommandLine.number?)).getD
              settings.server.portNumber ∧
          (∀ key : Key, key ≠ .host → key ≠ .portNumber →
            key.get (given.apply settings) = key.get settings) ∧
          (settings.validate = .ok () → (given.apply settings).validate = .ok ()) := by
  obtain ⟨settings, done, layered⟩ := read_layered readable sets
  refine ⟨settings, done, layered, fun loaded => ?_, ?_, fun arguments bare usable alone => ?_⟩
  · rw [load_iff done, validate_iff]
  · intro others otherFile otherDocument otherReadable otherSets other otherDone key
    obtain ⟨_, again, otherLayered⟩ := read_layered otherReadable otherSets
    obtain rfl := Except.ok.inj (otherDone.symm.trans again)
    exact (layered key).eq_of_same (otherLayered key)
  · obtain ⟨host, portNumber, others⟩ :=
      @apply_get settings (CommandLine.layered (fun name => vars.lookup name) bare)
    exact ⟨_, CommandLine.read_layered usable alone, host, portNumber, others, id⟩

/-- The port is set in a variable and in a file, and the host for the command line. -/
def everywhere : Variables :=
  [("CLAUDE2OAI_SERVER__PORT", "9000"), ("CLAUDE2OAI_HOST", "h"), ("ANTHROPIC_API_KEY", "k")]

def filed : String := "[server]\nport = 1\nmax_body_bytes = 5\n"

theorem convert_everywhere : Kind.short.convert (.text "9000") = some (9000 : UInt16) := by
  decide +kernel

theorem readable_everywhere : Readable everywhere where
  distinct := by decide
  known := by
    simp only [everywhere, List.forall_mem_cons]
    refine ⟨.inl ⟨.portNumber, rfl, ?_⟩, .inr (.inl (by decide)), .inr (.inr (by decide +kernel)),
      by simp⟩
    exact Option.isSome_of_eq_some convert_everywhere

/-- The section of a document that holds one with two numbers. Values cannot be compared, but what
is in such a section can. -/
def twoNumbers? : List (String × Value) → Option (String × (String × Int) × (String × Int))
  | [(name, .table [(first, .integer m), (second, .integer n)])] =>
    some (name, (first, m), (second, n))
  | _ => none

theorem filed_document : Toml.ofText? (documentOf filed) =
    some [("server", .table [("port", .integer 1), ("max_body_bytes", .integer 5)])] := by
  have spelt : (Toml.ofText? (documentOf filed)).bind twoNumbers? =
      some ("server", ("port", 1), ("max_body_bytes", 5)) := by decide +kernel
  obtain ⟨document, read, numbers⟩ := Option.bind_eq_some_iff.mp spelt
  unfold twoNumbers? at numbers
  split at numbers
  next =>
    cases numbers
    exact read
  next => cases numbers

theorem sets_filed : Sets (some filed)
    [("server", .table [("port", .integer 1), ("max_body_bytes", .integer 5)])] := by
  refine .document filed_document ?_
  rw [List.forall_mem_singleton]
  refine ⟨by decide, _, rfl, ?_⟩
  simp only [List.forall_mem_cons]
  exact ⟨⟨.portNumber, rfl, rfl, rfl⟩, ⟨.maxBodyBytes, rfl, rfl, rfl⟩, by simp⟩

theorem port_read :
    CommandLine.read (fun _ => none) ["--port", "7"] = .ok ⟨none, none, some 7⟩ := by
  have given : (CommandLine.read (fun _ => none) ["--port", "7"]).toOption =
      some ⟨none, none, some 7⟩ := by decide +kernel
  cases read : CommandLine.read (fun _ => none) ["--port", "7"] with
  | error error =>
    rw [read] at given
    cases given
  | ok arguments =>
    rw [read] at given
    exact congrArg _ (Option.some.inj given)

theorem everywhere_read :
    ∃ settings, read everywhere (some filed) = .ok settings ∧
      settings.server.portNumber = 9000 ∧ settings.server.maxBodyBytes = 5 ∧
      settings.claude.apiKey = "k" ∧ settings.logging.level = "info" ∧
      load everywhere (some filed) = .ok settings ∧
      ∃ given, CommandLine.read (fun name => everywhere.lookup name) ["--port", "7"] = .ok given ∧
        (given.apply settings).server.host = "h" ∧
        (given.apply settings).server.portNumber = 7 := by
  obtain ⟨settings, done, layered, loads, _, applies⟩ :=
    settings_come_from_their_layers readable_everywhere sets_filed
  have portNumber := (layered .portNumber).fromVariable "9000" rfl
  have bytes := (layered .maxBodyBytes).fromFile rfl (.integer 5) rfl
  have capacity := (layered .channelCapacity).byDefault rfl rfl
  have address := (layered .apiBaseUrl).byDefault rfl rfl
  have usable : CommandLine.Usable fun name => everywhere.lookup name :=
    ⟨fun _ set => (by cases set), fun _ set => (by cases set)⟩
  obtain ⟨given, read, host, number, _⟩ := applies _ _ usable port_read
  refine ⟨settings, done, ?_, ?_, (layered .apiKey).byDefault rfl rfl,
    (layered .level).byDefault rfl rfl, (loads settings).mpr ⟨rfl, ?_, ?_⟩, given, read, host,
    number⟩
  · exact Option.some.inj (portNumber.symm.trans convert_everywhere)
  · exact (Option.some.inj bytes).symm
  · change settings.streaming.channelCapacity = 64 at capacity
    rw [capacity]
    decide
  · change settings.claude.apiBaseUrl = "https://api.anthropic.com/v1" at address
    rw [address]
    decide

end Settings

end ChatGateway
