import TextRelay.CommandLine.Role
import TextRelay.Proofs.CommandLine.Spelling
import TextRelay.Proofs.Settings

/-!
# Options over the environment over defaults

Each setting has an option, a variable and a default, and is to be what the first of them says that
says something. So it is, for every setting of either program but one: the dialing program has a
default label of its own in the place of the option, which hides the variable
(`settings_of_layers`).
-/

namespace TextRelay

/-! ## What an accepted option does -/

/-- Whether the kind of an option is the kind of what it is about. -/
def Flag.fits (f : Flag) : Bool :=
  match f.topic, f.kind with
  | .host, .text | .sentinel, .text | .label, .text | .logLevel, .text => true
  | .socket, .text | .socket, .path => true
  | .port, .port | .chunkSize, .size => true
  | .timestamps, .switch | .help, .switch | .version, .switch => true
  | _, _ => false

theorem Role.fits_of_mem {role : Role} {f : Flag} (h : f ∈ role.grammar.flags) : f.fits = true := by
  have hall : ∀ f ∈ role.grammar.flags, f.fits = true := by cases role <;> decide
  exact hall f h

namespace Choices

/-- What becomes of the choices when an option is taken. It was not chosen before. -/
inductive Accepted (c : Choices) : Topic → Option String → Choices → Prop where
  | host {text : String} (hnew : c.host = none) :
    Accepted c .host (some text) { c with host := some text }
  | port {text : String} {n : Nat} (hnew : c.port = none) (hread : readPort text = .ok n) :
    Accepted c .port (some text) { c with port := some (.ofNat n) }
  | socket {text : String} (hnew : c.socket = none) :
    Accepted c .socket (some text) { c with socket := some text }
  | chunkSize {text : String} {n : Nat} (hnew : c.chunkSize = none)
    (hread : readSize text = .ok n) :
    Accepted c .chunkSize (some text) { c with chunkSize := some (.ofNat n) }
  | sentinel {text : String} (hnew : c.sentinel = none) :
    Accepted c .sentinel (some text) { c with sentinel := some text }
  | label {text : String} (hnew : c.label = none) :
    Accepted c .label (some text) { c with label := some text }
  | timestamps {value : Option String} (hnew : c.timestamps = false) :
    Accepted c .timestamps value { c with timestamps := true }
  | logLevel {text : String} (hnew : c.logLevel = none) :
    Accepted c .logLevel (some text) { c with logLevel := some text }

variable {c c' : Choices} {f : Flag} {value : Option String}

theorem of_accept_eq_ok (h : c.accept f value = .ok c') :
    f.topic ≠ .help ∧ f.topic ≠ .version ∧ c.has f.topic = false ∧
      c.set f (value.getD "") = .ok c' ∧ (f.takesValue = true → ∃ text, value = some text) := by
  have hvalue : f.takesValue = true → ∃ text, value = some text := by
    intro htakes
    cases value with
    | none =>
      obtain ⟨e, herror⟩ := c.accept_none htakes
      rw [herror] at h
      cases h
    | some text => exact ⟨text, rfl⟩
  unfold accept at h
  split at h
  · cases h
  · cases h
  · cases h
  · next hhelp hversion _ =>
    split at h
    · cases h
    · next hnew => exact ⟨hhelp, hversion, by simpa using hnew, h, hvalue⟩

theorem of_accept (hfits : f.fits = true) (h : c.accept f value = .ok c') :
    Accepted c f.topic value c' := by
  obtain ⟨hhelp, hversion, hnew, hset, hvalue⟩ := of_accept_eq_ok h
  obtain ⟨topic, long, short, kind, name, help, default?⟩ := f
  dsimp only at hhelp hversion hnew ⊢
  cases topic with
  | help => exact absurd rfl hhelp
  | version => exact absurd rfl hversion
  | timestamps =>
    cases kind <;> cases hfits
    cases hset
    exact .timestamps hnew
  | port =>
    cases kind <;> cases hfits
    obtain ⟨text, rfl⟩ := hvalue rfl
    simp only [set, Option.getD_some] at hset
    split at hset
    · next n hread =>
      cases hset
      exact .port (by simpa [has] using hnew) hread
    · cases hset
  | chunkSize =>
    cases kind <;> cases hfits
    obtain ⟨text, rfl⟩ := hvalue rfl
    simp only [set, Option.getD_some] at hset
    split at hset
    · next n hread =>
      cases hset
      exact .chunkSize (by simpa [has] using hnew) hread
    · cases hset
  | socket =>
    cases kind <;> cases hfits
    · obtain ⟨text, rfl⟩ := hvalue rfl
      cases hset
      exact .socket (by simpa [has] using hnew)
    · obtain ⟨text, rfl⟩ := hvalue rfl
      simp only [set, Option.getD_some] at hset
      split at hset
      · cases hset
      · cases hset
        exact .socket (by simpa [has] using hnew)
  | host | sentinel | label | logLevel =>
    cases kind <;> cases hfits
    obtain ⟨text, rfl⟩ := hvalue rfl
    cases hset
    constructor
    simpa [has] using hnew

theorem Accepted.has_eq {topic : Topic} (h : Accepted c topic value c') (other : Topic) :
    c'.has other = (c.has other || decide (other = topic)) := by
  cases h <;> cases other <;> simp [has]

theorem Accepted.new {topic : Topic} (h : Accepted c topic value c') : c.has topic = false := by
  cases h <;> simpa [has]

/-- No topic is mentioned twice, or was chosen before. -/
theorem topics_of_collect {mentions : List Mention} (hfits : ∀ m ∈ mentions, m.flag.fits = true)
    (h : c.collect mentions = .ok c') :
    (∀ m ∈ mentions, c.has m.flag.topic = false) ∧ (mentions.map (·.flag.topic)).Nodup := by
  induction mentions generalizing c with
  | nil => exact ⟨fun m hm => absurd hm List.not_mem_nil, List.nodup_nil⟩
  | cons m rest ih =>
    obtain ⟨c₁, haccept, hrest⟩ := of_bind_eq_ok h
    have haccepted := of_accept (hfits m List.mem_cons_self) haccept
    obtain ⟨hnew, hnodup⟩ := ih (fun m' hm' => hfits m' (List.mem_cons_of_mem m hm')) hrest
    -- What is new after the first mention was new before it, and is about something else.
    have hlater : ∀ m' ∈ rest, c.has m'.flag.topic = false ∧ m'.flag.topic ≠ m.flag.topic := by
      intro m' hm'
      simpa [haccepted.has_eq] using hnew m' hm'
    refine ⟨?_, ?_⟩
    · intro m' hm'
      rcases List.mem_cons.1 hm' with rfl | hm'
      · exact haccepted.new
      · exact (hlater m' hm').1
    · rw [List.map_cons, List.nodup_cons]
      refine ⟨fun hmem => ?_, hnodup⟩
      obtain ⟨m', hm', heq⟩ := List.mem_map.1 hmem
      exact (hlater m' hm').2 heq

end Choices

/-! ## Settings and their layers -/

namespace Field

def topic : Field → Topic
  | host => .host
  | port => .port
  | chunkSize => .chunkSize
  | sentinel => .sentinel
  | label => .label

/-- The built-in default of a program. -/
def default (role : Role) (field : Field) : field.Value :=
  match role, field with
  | .dial, label => "server"
  | _, field => field.builtIn

/-- The value that a text is to an option. -/
def readOption : (field : Field) → String → Option field.Value
  | host, text | sentinel, text | label, text => some text
  | port, text => (Choices.readPort text).toOption.map UInt16.ofNat
  | chunkSize, text => (Choices.readSize text).toOption.map UInt64.ofNat

/-- The value in some choices. -/
def chosen (c : Choices) : (field : Field) → Option field.Value
  | host => c.host
  | port => c.port
  | chunkSize => c.chunkSize
  | sentinel => c.sentinel
  | label => c.label

/-- The value that the option was given. -/
def given (field : Field) (mentions : List Mention) : Option field.Value :=
  (mentions.find? (·.flag.topic = field.topic)).bind fun m => m.value.bind field.readOption

/-- What the first layer says that says something. -/
def layered (field : Field) (role : Role) (lookup : String → Option String)
    (mentions : List Mention) : field.Value :=
  ((field.given mentions).or (field.ofVariable lookup)).getD (field.default role)

variable {c c' : Choices}

theorem has_topic (field : Field) (c : Choices) : c.has field.topic = (field.chosen c).isSome := by
  cases field <;> rfl

theorem chosen_own (field : Field) {value : Option String} (h : c.Accepted field.topic value c') :
    ∃ a, value.bind field.readOption = some a ∧ field.chosen c' = some a := by
  cases field with
  | host | sentinel | label =>
    cases h
    exact ⟨_, rfl, rfl⟩
  | port =>
    cases h with
    | port _ hread => exact ⟨_, by rw [Option.bind_some, readOption, hread]; rfl, rfl⟩
  | chunkSize =>
    cases h with
    | chunkSize _ hread => exact ⟨_, by rw [Option.bind_some, readOption, hread]; rfl, rfl⟩

theorem chosen_other (field : Field) {topic : Topic} {value : Option String}
    (h : c.Accepted topic value c') (hne : topic ≠ field.topic) :
    field.chosen c' = field.chosen c := by
  cases h <;> cases field <;> first | rfl | exact absurd rfl hne

/-- What is chosen in the end was chosen at first, or is what an option was given. -/
theorem chosen_of_collect (field : Field) {mentions : List Mention}
    (hfits : ∀ m ∈ mentions, m.flag.fits = true) (h : c.collect mentions = .ok c') :
    field.chosen c' = (field.chosen c).or (field.given mentions) ∧
      (field.given mentions = none → ∀ m ∈ mentions, m.flag.topic ≠ field.topic) := by
  induction mentions generalizing c with
  | nil =>
    cases h
    exact ⟨Option.or_none.symm, fun _ m hm => absurd hm List.not_mem_nil⟩
  | cons m rest ih =>
    obtain ⟨c₁, haccept, hrest⟩ := of_bind_eq_ok h
    have haccepted := Choices.of_accept (hfits m List.mem_cons_self) haccept
    obtain ⟨hchosen, hnone⟩ := ih (fun m' hm' => hfits m' (List.mem_cons_of_mem m hm')) hrest
    by_cases htopic : m.flag.topic = field.topic
    · -- This is the mention that counts, for nothing was chosen before.
      have hnew := haccepted.new
      rw [htopic] at haccepted
      rw [htopic, has_topic] at hnew
      obtain ⟨a, hread, hset⟩ := field.chosen_own haccepted
      have hgiven : field.given (m :: rest) = some a := by
        rw [given, List.find?_cons_of_pos (by simpa using htopic)]
        exact hread
      have hunset : field.chosen c = none := by simpa using hnew
      rw [hgiven, hchosen, hset, hunset]
      exact ⟨rfl, fun hno => by cases hno⟩
    · have hgiven : field.given (m :: rest) = field.given rest := by
        rw [given, List.find?_cons_of_neg (by simpa using htopic)]
        rfl
      rw [hgiven, hchosen, field.chosen_other haccepted htopic]
      refine ⟨rfl, fun hno m' hm' => ?_⟩
      rcases List.mem_cons.1 hm' with rfl | hm'
      · exact htopic
      · exact hnone hno m' hm'

/-- Only the dialing program's label is not laid over what the environment gives. -/
theorem get_settings (field : Field) {role : Role} {c : Choices} (base : Settings)
    (hsize : role = .dial → c.chunkSize = none) :
    field.get (role.settings c base) = if role = .dial ∧ field = .label then
      (field.chosen c).getD (field.default role) else (field.chosen c).getD (field.get base) := by
  cases role with
  | listen => cases field <;> rfl
  | dial =>
    cases field with
    | chunkSize =>
      show base.chunkSize = c.chunkSize.getD base.chunkSize
      rw [hsize rfl]
      rfl
    | _ => rfl

theorem default_eq {field : Field} {role : Role} (h : ¬ (role = .dial ∧ field = .label)) :
    field.default role = field.builtIn := by
  cases role with
  | listen => rfl
  | dial =>
    cases field with
    | label => exact absurd ⟨rfl, rfl⟩ h
    | _ => rfl

variable {role : Role} {arguments : List String} {mentions : List Mention}

theorem fits_of_spells (h : Spells role.grammar none arguments mentions) :
    ∀ m ∈ mentions, m.flag.fits = true := fun m hm =>
  Role.fits_of_mem (h.mem_flags nofun m hm)

/-- The options of accepted arguments are what was chosen, and each of them has a value. -/
theorem chosen_of_parse (field : Field) (hparse : Choices.parse role.grammar arguments = .ok c)
    (hspells : Spells role.grammar none arguments mentions) :
    field.chosen c = field.given mentions ∧
      (field.given mentions = none → ∀ m ∈ mentions, m.flag.topic ≠ field.topic) := by
  obtain ⟨mentions', hspells', hcollect⟩ := spells_of_parse hparse
  obtain rfl := hspells.unique hspells'
  obtain ⟨hchosen, hnone⟩ := field.chosen_of_collect (fits_of_spells hspells) hcollect
  refine ⟨hchosen.trans ?_, hnone⟩
  cases field <;> rfl

/-- The dialing program has no option for the chunk size. -/
theorem given_chunkSize (hspells : Spells Role.dial.grammar none arguments mentions) :
    chunkSize.given mentions = none := by
  have habsent : ∀ f ∈ Role.dial.grammar.flags, f.topic ≠ .chunkSize := by decide
  have hfind : mentions.find? (·.flag.topic = .chunkSize) = none := by
    rw [List.find?_eq_none]
    intro m hm
    simpa using habsent m.flag (hspells.mem_flags nofun m hm)
  rw [given, topic, hfind]
  rfl

theorem get_of_parse (field : Field) (lookup : String → Option String)
    (hparse : Choices.parse role.grammar arguments = .ok c)
    (hspells : Spells role.grammar none arguments mentions) :
    field.get (role.settings c (.ofLookup lookup)) = if role = .dial ∧ field = .label then
      (field.given mentions).getD (field.default role) else field.layered role lookup mentions := by
  have hsize : role = .dial → c.chunkSize = none := by
    rintro rfl
    have hchosen := (chunkSize.chosen_of_parse hparse hspells).1
    rwa [given_chunkSize hspells] at hchosen
  rw [field.get_settings _ hsize, (field.chosen_of_parse hparse hspells).1]
  split
  · rfl
  · next hrole =>
    rw [layered, Option.getD_or, default_eq hrole, get_ofLookup]

/-- The default of the dialing program's label stands in front of its variable. -/
def Hidden (field : Field) (role : Role) (lookup : String → Option String)
    (mentions : List Mention) : Prop :=
  role = .dial ∧ field = .label ∧ field.given mentions = none ∧
    ∃ text, lookup "RELAY_PEER_LABEL" = some text ∧ text ≠ "server"

theorem layered_of_variable {lookup : String → Option String} {text : String}
    (hnone : label.given mentions = none) (htext : lookup "RELAY_PEER_LABEL" = some text) :
    label.layered role lookup mentions = text := by
  rw [layered, hnone, ofVariable, variableName, htext]
  rfl

/-- Where nothing is hidden, the two layers of the label say what all three would. -/
theorem layered_of_shown {lookup : String → Option String}
    (h : ¬ label.Hidden .dial lookup mentions) :
    (label.given mentions).getD (label.default .dial) = label.layered .dial lookup mentions := by
  cases hgiven : label.given mentions with
  | some text =>
    rw [layered, hgiven]
    rfl
  | none =>
    cases hlookup : lookup "RELAY_PEER_LABEL" with
    | none =>
      rw [layered, hgiven, ofVariable, variableName, hlookup]
      rfl
    | some text =>
      rw [layered_of_variable hgiven hlookup]
      by_cases hsame : text = "server"
      · rw [hsame]
        rfl
      · exact absurd ⟨rfl, rfl, hgiven, text, hlookup, hsame⟩ h

/-- Accepted arguments of either program in any environment. -/
theorem settings_of_layers (role : Role) (lookup : String → Option String)
    {arguments : List String} {c : Choices}
    (hparse : Choices.parse role.grammar arguments = .ok c) :
    ∃ mentions, Spells role.grammar none arguments mentions ∧
      (mentions.map (·.flag.topic)).Nodup ∧ ∀ field : Field,
      -- An option that is mentioned has a value.
      (field.given mentions = none ↔ ∀ m ∈ mentions, m.flag.topic ≠ field.topic) ∧
      -- The setting is what its option says, or else its variable, or else its default,
      (¬ field.Hidden role lookup mentions →
        field.get (role.settings c (.ofLookup lookup)) = field.layered role lookup mentions) ∧
      -- but for the one that is hidden from its variable.
      (field.Hidden role lookup mentions →
        field.get (role.settings c (.ofLookup lookup)) = field.default role ∧
          field.get (role.settings c (.ofLookup lookup)) ≠ field.layered role lookup mentions) ∧
      -- Nothing else matters to it.
      ∀ lookup' arguments' c' mentions', Choices.parse role.grammar arguments' = .ok c' →
        Spells role.grammar none arguments' mentions' →
        field.given mentions' = field.given mentions →
        lookup' field.variableName = lookup field.variableName →
        field.get (role.settings c' (.ofLookup lookup')) =
          field.get (role.settings c (.ofLookup lookup)) := by
  obtain ⟨mentions, hspells, hcollect⟩ := spells_of_parse hparse
  have htopics := (Choices.topics_of_collect (fits_of_spells hspells) hcollect).2
  refine ⟨mentions, hspells, htopics, fun field => ⟨?_, ?_, ?_, ?_⟩⟩
  · refine ⟨(field.chosen_of_parse hparse hspells).2, fun hnone => ?_⟩
    have hfind : mentions.find? (·.flag.topic = field.topic) = none := by
      simpa [List.find?_eq_none] using hnone
    rw [given, hfind]
    rfl
  · intro hshown
    rw [field.get_of_parse lookup hparse hspells]
    split
    · next hlabel =>
      obtain ⟨rfl, rfl⟩ := hlabel
      exact layered_of_shown hshown
    · rfl
  · rintro ⟨rfl, rfl, hnone, text, htext, hne⟩
    rw [label.get_of_parse lookup hparse hspells, if_pos ⟨rfl, rfl⟩, hnone,
      layered_of_variable hnone htext]
    exact ⟨rfl, Ne.symm hne⟩
  · intro lookup' arguments' c' mentions' hparse' hspells' hgiven hlookup
    rw [field.get_of_parse lookup hparse hspells, field.get_of_parse lookup' hparse' hspells',
      layered, layered, ofVariable, ofVariable, hgiven, hlookup]

/-- An environment in which the port and the label are set. -/
def furnished : String → Option String
  | "RELAY_PORT" => some "4000"
  | "RELAY_PEER_LABEL" => some "guest"
  | _ => none

theorem settings_of_layers_furnished :
    ∃ c mentions, Choices.parse Role.listen.grammar ["-tp80", "--host", "::1"] = .ok c ∧
      Spells Role.listen.grammar none ["-tp80", "--host", "::1"] mentions ∧
      port.get (Role.listen.settings c (.ofLookup furnished)) = (80 : UInt16) ∧
      port.layered .listen furnished mentions = (80 : UInt16) ∧
      label.get (Role.listen.settings c (.ofLookup furnished)) = "guest" ∧
      label.layered .listen furnished mentions = "guest" := by
  have hparse : Choices.parse Role.listen.grammar ["-tp80", "--host", "::1"] =
      .ok { timestamps := true, port := some 80, host := some "::1" } := rfl
  obtain ⟨mentions, hspells, -, hfields⟩ := settings_of_layers .listen furnished hparse
  have hshown (field : Field) : ¬ field.Hidden .listen furnished mentions := nofun
  exact ⟨_, mentions, hparse, hspells, rfl, ((hfields port).2.1 (hshown port)).symm, rfl,
    ((hfields label).2.1 (hshown label)).symm⟩

/-- The dialing program does not show the label that the environment gives. -/
theorem label_hidden_from_variable :
    ∃ c mentions, Choices.parse Role.dial.grammar [] = .ok c ∧
      Spells Role.dial.grammar none [] mentions ∧
      label.layered .dial furnished mentions = "guest" ∧
      label.get (Role.dial.settings c (.ofLookup furnished)) = "server" :=
  ⟨_, [], rfl, .done, rfl, rfl⟩

end Field

end TextRelay
