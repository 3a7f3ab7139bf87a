import TextRelay.CommandLine.Parse

/-!
# How options are spelled

Which options some arguments mention, and with which values, as a grammar: `Spells`. A list of
arguments has at most one reading (`Spells.unique`), and arguments that are accepted have one, whose
mentions are taken in their order (`spells_of_parse`). That values are looked at late and that the
first trouble decides does not show in what is accepted.
-/

namespace TextRelay

section outcome

variable {ε α β : Type} {x : Except ε α} {b : β}

theorem of_bind_eq_ok {next : α → Except ε β} (h : x.bind next = .ok b) :
    ∃ a, x = .ok a ∧ next a = .ok b := by
  cases x with
  | error e => cases h
  | ok a => exact ⟨a, rfl, h⟩

theorem of_map_eq_ok {change : α → β} (h : x.map change = .ok b) :
    ∃ a, x = .ok a ∧ change a = b := by
  cases x with
  | error e => cases h
  | ok a => exact ⟨a, rfl, Except.ok.inj h⟩

end outcome

/-- An option that was given, with its value if it has one. -/
structure Mention where
  flag : Flag
  value : Option String

/-- Long options without their dashes, the options they mention, and the one that still waits for a
value. -/
inductive LongOption (g : Grammar) : List Char → List Mention → Option Flag → Prop where
  | switch {name : List Char} {f : Flag} (hname : '=' ∉ name)
    (hflag : g.long? (.ofList name) = some f) (htakes : f.takesValue = false) :
    LongOption g name [⟨f, none⟩] none
  | waiting {name : List Char} {f : Flag} (hname : '=' ∉ name)
    (hflag : g.long? (.ofList name) = some f) (htakes : f.takesValue = true) :
    LongOption g name [] (some f)
  | equals {name value : List Char} {f : Flag} (hname : '=' ∉ name)
    (hflag : g.long? (.ofList name) = some f) (htakes : f.takesValue = true) :
    LongOption g (name ++ '=' :: value) [⟨f, some (.ofList value)⟩] none

/-- Letters of short options: switches, and at last perhaps an option with a value. -/
inductive Cluster (g : Grammar) : List Char → List Mention → Option Flag → Prop where
  | done : Cluster g [] [] none
  | switch {c : Char} {letters : List Char} {f : Flag} {mentions : List Mention}
    {next : Option Flag} (hflag : g.short? c = some f) (htakes : f.takesValue = false)
    (rest : Cluster g letters mentions next) : Cluster g (c :: letters) (⟨f, none⟩ :: mentions) next
  | waiting {c : Char} {f : Flag} (hflag : g.short? c = some f) (htakes : f.takesValue = true) :
    Cluster g [c] [] (some f)
  | equals {c : Char} {f : Flag} {value : List Char} (hflag : g.short? c = some f)
    (htakes : f.takesValue = true) :
    Cluster g (c :: '=' :: value) [⟨f, some (.ofList value)⟩] none
  | joined {c d : Char} {f : Flag} {value : List Char} (hflag : g.short? c = some f)
    (htakes : f.takesValue = true) (hd : d ≠ '=') :
    Cluster g (c :: d :: value) [⟨f, some (.ofList (d :: value))⟩] none

/-- An argument that can be a value: it does not begin with a dash, or is only that. -/
def IsPlain (argument : String) : Prop := ∀ c rest, argument.toList ≠ '-' :: c :: rest

/-- The options that arguments mention, after one that may be waiting for its value. -/
inductive Spells (g : Grammar) : Option Flag → List String → List Mention → Prop where
  | done : Spells g none [] []
  | stop : Spells g none ["--"] []
  | value {f : Flag} {argument : String} {rest : List String} {mentions : List Mention}
    (hplain : IsPlain argument) (hrest : Spells g none rest mentions) :
    Spells g (some f) (argument :: rest) (⟨f, some argument⟩ :: mentions)
  | long {argument : String} {rest : List String} {body : List Char}
    {first mentions : List Mention} {next : Option Flag}
    (hargument : argument.toList = '-' :: '-' :: body) (hbody : body ≠ [])
    (hlong : LongOption g body first next) (hrest : Spells g next rest mentions) :
    Spells g none (argument :: rest) (first ++ mentions)
  | short {argument : String} {rest : List String} {c : Char} {letters : List Char}
    {first mentions : List Mention} {next : Option Flag}
    (hargument : argument.toList = '-' :: c :: letters) (hc : c ≠ '-')
    (hcluster : Cluster g (c :: letters) first next) (hrest : Spells g next rest mentions) :
    Spells g none (argument :: rest) (first ++ mentions)

variable {g : Grammar}

/-! ## There is at most one reading -/

/-- A name ends where the first equals sign stands. -/
theorem span_name {name rest : List Char} (hname : '=' ∉ name)
    (hrest : rest = [] ∨ ∃ value, rest = '=' :: value) :
    (name ++ rest).takeWhile (· ≠ '=') = name ∧ (name ++ rest).dropWhile (· ≠ '=') = rest := by
  have hall : ∀ c ∈ name, decide (c ≠ '=') = true := by
    intro c hc
    have hne : c ≠ '=' := fun heq => hname (heq ▸ hc)
    simpa using hne
  rw [List.takeWhile_append_of_pos hall, List.dropWhile_append_of_pos hall]
  obtain rfl | ⟨value, rfl⟩ := hrest
  · simp
  · simp

theorem LongOption.unique {body : List Char} {first first' : List Mention}
    {next next' : Option Flag} (h : LongOption g body first next)
    (h' : LongOption g body first' next') : first = first' ∧ next = next' := by
  cases h with
  | @switch name f hname hflag htakes =>
    cases h' with
    | switch _ hflag' =>
      cases hflag.symm.trans hflag'
      exact ⟨rfl, rfl⟩
    | waiting _ hflag' htakes' =>
      cases hflag.symm.trans hflag'
      exact absurd (htakes.symm.trans htakes') Bool.false_ne_true
    | equals => exact absurd (by simp) hname
  | waiting hname hflag htakes =>
    cases h' with
    | switch _ hflag' htakes' =>
      cases hflag.symm.trans hflag'
      exact absurd (htakes'.symm.trans htakes) Bool.false_ne_true
    | waiting _ hflag' =>
      cases hflag.symm.trans hflag'
      exact ⟨rfl, rfl⟩
    | equals => exact absurd (by simp) hname
  | @equals name value f hname hflag htakes =>
    generalize hbody : name ++ '=' :: value = body at h'
    have hsplit := span_name hname (.inr ⟨value, rfl⟩)
    rw [hbody] at hsplit
    cases h' with
    | switch hname' => exact absurd (by simp [← hbody]) hname'
    | waiting hname' => exact absurd (by simp [← hbody]) hname'
    | @equals name' value' f' hname' hflag' =>
      obtain ⟨htake, hdrop⟩ := span_name hname' (.inr ⟨value', rfl⟩)
      obtain rfl : name' = name := htake.symm.trans hsplit.1
      obtain rfl : value' = value := (List.cons.inj (hdrop.symm.trans hsplit.2)).2
      cases hflag.symm.trans hflag'
      exact ⟨rfl, rfl⟩

theorem Cluster.unique {letters : List Char} {first first' : List Mention}
    {next next' : Option Flag} (h : Cluster g letters first next)
    (h' : Cluster g letters first' next') : first = first' ∧ next = next' := by
  have hconflict {c : Char} {f f' : Flag} (hflag : g.short? c = some f)
      (htakes : f.takesValue = false) (hflag' : g.short? c = some f')
      (htakes' : f'.takesValue = true) : False := by
    cases hflag.symm.trans hflag'
    exact absurd (htakes.symm.trans htakes') Bool.false_ne_true
  induction h generalizing first' next' with
  | done =>
    cases h'
    exact ⟨rfl, rfl⟩
  | switch hflag htakes rest ih =>
    cases h' with
    | switch hflag' _ rest' =>
      cases hflag.symm.trans hflag'
      obtain ⟨rfl, rfl⟩ := ih rest'
      exact ⟨rfl, rfl⟩
    | waiting hflag' htakes' => exact (hconflict hflag htakes hflag' htakes').elim
    | equals hflag' htakes' => exact (hconflict hflag htakes hflag' htakes').elim
    | joined hflag' htakes' => exact (hconflict hflag htakes hflag' htakes').elim
  | waiting hflag htakes =>
    cases h' with
    | switch hflag' htakes' => exact (hconflict hflag' htakes' hflag htakes).elim
    | waiting hflag' =>
      cases hflag.symm.trans hflag'
      exact ⟨rfl, rfl⟩
  | equals hflag htakes =>
    cases h' with
    | switch hflag' htakes' => exact (hconflict hflag' htakes' hflag htakes).elim
    | equals hflag' =>
      cases hflag.symm.trans hflag'
      exact ⟨rfl, rfl⟩
    | joined _ _ hd => exact absurd rfl hd
  | joined hflag htakes hd =>
    cases h' with
    | switch hflag' htakes' => exact (hconflict hflag' htakes' hflag htakes).elim
    | equals => exact absurd rfl hd
    | joined hflag' =>
      cases hflag.symm.trans hflag'
      exact ⟨rfl, rfl⟩

theorem Spells.unique {waiting : Option Flag} {arguments : List String}
    {mentions mentions' : List Mention} (h : Spells g waiting arguments mentions)
    (h' : Spells g waiting arguments mentions') : mentions = mentions' := by
  induction h generalizing mentions' with
  | done =>
    cases h'
    rfl
  | stop =>
    cases h' with
    | stop => rfl
    | long hargument hbody =>
      exact absurd (List.cons.inj (List.cons.inj hargument).2).2.symm hbody
    | short hargument hc => exact absurd (List.cons.inj (List.cons.inj hargument).2).1.symm hc
  | value _ _ ih =>
    cases h' with
    | value _ hrest' => rw [ih hrest']
  | long hargument hbody hlong _ ih =>
    cases h' with
    | stop => exact absurd (List.cons.inj (List.cons.inj hargument).2).2.symm hbody
    | long hargument' _ hlong' hrest' =>
      rw [hargument] at hargument'
      cases hargument'
      obtain ⟨rfl, rfl⟩ := hlong.unique hlong'
      rw [ih hrest']
    | short hargument' hc =>
      rw [hargument] at hargument'
      cases hargument'
      exact absurd rfl hc
  | short hargument hc hcluster _ ih =>
    cases h' with
    | stop => exact absurd (List.cons.inj (List.cons.inj hargument).2).1.symm hc
    | long hargument' =>
      rw [hargument] at hargument'
      cases hargument'
      exact absurd rfl hc
    | short hargument' _ hcluster' hrest' =>
      rw [hargument] at hargument'
      cases hargument'
      obtain ⟨rfl, rfl⟩ := hcluster.unique hcluster'
      rw [ih hrest']

/-! ## Only options of the program are mentioned -/

theorem LongOption.mem_flags {body : List Char} {first : List Mention} {next : Option Flag}
    (h : LongOption g body first next) :
    (∀ m ∈ first, m.flag ∈ g.flags) ∧ ∀ f, next = some f → f ∈ g.flags := by
  cases h with
  | switch _ hflag => exact ⟨by simpa using List.mem_of_find?_eq_some hflag, by simp⟩
  | waiting _ hflag => exact ⟨by simp, by simpa using List.mem_of_find?_eq_some hflag⟩
  | equals _ hflag => exact ⟨by simpa using List.mem_of_find?_eq_some hflag, by simp⟩

theorem Cluster.mem_flags {letters : List Char} {first : List Mention} {next : Option Flag}
    (h : Cluster g letters first next) :
    (∀ m ∈ first, m.flag ∈ g.flags) ∧ ∀ f, next = some f → f ∈ g.flags := by
  induction h with
  | done => exact ⟨by simp, by simp⟩
  | switch hflag _ _ ih =>
    refine ⟨fun m hm => ?_, ih.2⟩
    rcases List.mem_cons.1 hm with rfl | hm
    · exact List.mem_of_find?_eq_some hflag
    · exact ih.1 m hm
  | waiting hflag => exact ⟨by simp, by simpa using List.mem_of_find?_eq_some hflag⟩
  | equals hflag => exact ⟨by simpa using List.mem_of_find?_eq_some hflag, by simp⟩
  | joined hflag => exact ⟨by simpa using List.mem_of_find?_eq_some hflag, by simp⟩

theorem Spells.mem_flags {waiting : Option Flag} {arguments : List String} {mentions : List Mention}
    (h : Spells g waiting arguments mentions) (hwaiting : ∀ f, waiting = some f → f ∈ g.flags) :
    ∀ m ∈ mentions, m.flag ∈ g.flags := by
  induction h with
  | done => simp
  | stop => simp
  | value _ _ ih =>
    intro m hm
    rcases List.mem_cons.1 hm with rfl | hm
    · exact hwaiting _ rfl
    · exact ih (by simp) m hm
  | long _ _ hlong _ ih =>
    intro m hm
    rcases List.mem_append.1 hm with hm | hm
    · exact hlong.mem_flags.1 m hm
    · exact ih hlong.mem_flags.2 m hm
  | short _ _ hcluster _ ih =>
    intro m hm
    rcases List.mem_append.1 hm with hm | hm
    · exact hcluster.mem_flags.1 m hm
    · exact ih hcluster.mem_flags.2 m hm

/-! ## Accepted arguments have a reading -/

/-- Takes the options that were mentioned, one after the other. -/
def Choices.collect (c : Choices) : List Mention → Except UsageError Choices
  | [] => .ok c
  | m :: rest => (c.accept m.flag m.value).bind fun c => c.collect rest

theorem Choices.collect_append {c c' : Choices} {first : List Mention}
    (h : c.collect first = .ok c') (rest : List Mention) :
    c.collect (first ++ rest) = c'.collect rest := by
  induction first generalizing c with
  | nil =>
    cases h
    rfl
  | cons m first ih =>
    obtain ⟨c₁, haccept, hfirst⟩ := of_bind_eq_ok h
    rw [List.cons_append, collect, haccept]
    exact ih hfirst

/-- An option that has a value is never taken without one. -/
theorem Choices.accept_none (c : Choices) {f : Flag} (htakes : f.takesValue = true) :
    ∃ e, c.accept f none = .error e := by
  unfold accept
  cases f.topic <;> simp [htakes]

namespace ArgumentReader

/-- The option that waits for its value. -/
def waiting (r : ArgumentReader) : Option Flag :=
  match r.pending with
  | some (f, none) => some f
  | _ => none

/-- The option whose value was put off. -/
def putOff (r : ArgumentReader) : List Mention :=
  match r.pending with
  | some (f, some value) => [⟨f, some value⟩]
  | _ => []

/-- Only options with values are waited for. -/
def WF (r : ArgumentReader) : Prop := ∀ f, r.waiting = some f → f.takesValue = true

/-- A reader consumes some options, and then waits for the value of one, or for none. -/
structure Consumes (r r' : ArgumentReader) (mentions : List Mention) (next : Option Flag) :
    Prop where
  idle : r.waiting = none
  collected : r.choices.collect (r.putOff ++ mentions) = .ok r'.choices
  pending : r'.pending = next.map (·, none)
  takes : ∀ f, next = some f → f.takesValue = true

variable {r r₁ r' : ArgumentReader} {f : Flag} {mentions : List Mention} {next : Option Flag}

theorem Consumes.refl (hpending : r.pending = none) : Consumes r r [] none := by
  refine ⟨?_, ?_, hpending, nofun⟩
  · rw [waiting, hpending]
  · rw [putOff, hpending]
    rfl

theorem Consumes.waiting_eq (h : Consumes r r' mentions next) : r'.waiting = next := by
  rw [waiting, h.pending]
  cases next <;> rfl

theorem Consumes.putOff_eq (h : Consumes r r' mentions next) : r'.putOff = [] := by
  rw [putOff, h.pending]
  cases next <;> rfl

theorem Consumes.trans {rest : List Mention} (h₁ : Consumes r r₁ mentions none)
    (h₂ : Consumes r₁ r' rest next) : Consumes r r' (mentions ++ rest) next := by
  refine ⟨h₁.idle, ?_, h₂.pending, h₂.takes⟩
  have hrest := h₂.collected
  rw [h₁.putOff_eq, List.nil_append] at hrest
  rw [← List.append_assoc, Choices.collect_append h₁.collected]
  exact hrest

theorem consumes_of_resolve (hwf : r.WF) (h : r.resolve = .ok r') : Consumes r r' [] none := by
  unfold resolve at h
  split at h
  · next hnone =>
    cases h
    exact .refl hnone
  · next f value hsome =>
    obtain ⟨c, haccept, rfl⟩ := of_map_eq_ok h
    cases value with
    | none =>
      -- The value never came.
      obtain ⟨e, hmissing⟩ := r.choices.accept_none (hwf f (by rw [waiting, hsome]))
      rw [hmissing] at haccept
      cases haccept
    | some value =>
      refine ⟨by rw [waiting, hsome], ?_, rfl, nofun⟩
      rw [putOff, hsome, List.append_nil, Choices.collect, haccept]
      rfl

theorem consumes_of_complete {value : Option String} (hwf : r.WF)
    (h : r.complete f value = .ok r') : Consumes r r' [⟨f, value⟩] none := by
  obtain ⟨r₁, hresolve, hrest⟩ := of_bind_eq_ok h
  obtain ⟨c, haccept, rfl⟩ := of_map_eq_ok hrest
  have hfirst := consumes_of_resolve hwf hresolve
  have hsecond : Consumes r₁ { choices := c } [⟨f, value⟩] none := by
    refine ⟨hfirst.waiting_eq, ?_, rfl, nofun⟩
    rw [hfirst.putOff_eq, List.nil_append, Choices.collect, haccept]
    rfl
  exact hfirst.trans hsecond

theorem consumes_of_await (hwf : r.WF) (htakes : f.takesValue = true)
    (h : r.await f = .ok r') : Consumes r r' [] (some f) := by
  obtain ⟨r₁, hresolve, rfl⟩ := of_map_eq_ok h
  have hfirst := consumes_of_resolve hwf hresolve
  refine ⟨hfirst.idle, hfirst.collected, rfl, ?_⟩
  rintro _ ⟨⟩
  exact htakes

theorem consumes_of_readLong {body : List Char} (hwf : r.WF) (h : r.readLong g body = .ok r') :
    ∃ mentions next, LongOption g body mentions next ∧ Consumes r r' mentions next := by
  unfold readLong at h
  dsimp only at h
  by_cases hequals : '=' ∈ body
  · obtain ⟨name, value, rfl, hname⟩ := List.eq_append_cons_of_mem hequals
    obtain ⟨htake, hdrop⟩ := span_name hname (.inr ⟨value, rfl⟩)
    rw [htake, hdrop] at h
    split at h
    · cases h
    · next f hflag =>
      cases htakes : f.takesValue with
      | true =>
        simp only [htakes] at h
        exact ⟨_, none, .equals hname hflag htakes, consumes_of_complete hwf h⟩
      | false =>
        simp only [htakes] at h
        cases h
  · -- There is no value in the argument: the name is all of it.
    obtain ⟨htake, hdrop⟩ := span_name hequals (.inl rfl)
    rw [List.append_nil] at htake hdrop
    rw [htake, hdrop] at h
    split at h
    · cases h
    · next f hflag =>
      cases htakes : f.takesValue with
      | true =>
        simp only [htakes] at h
        exact ⟨_, _, .waiting hequals hflag htakes, consumes_of_await hwf htakes h⟩
      | false =>
        simp only [htakes] at h
        exact ⟨_, _, .switch hequals hflag htakes, consumes_of_complete hwf h⟩

theorem Consumes.wf (h : Consumes r r' mentions next) : r'.WF := by
  intro f hf
  rw [h.waiting_eq] at hf
  exact h.takes f hf

theorem consumes_of_readShort {letters : List Char} (hwf : r.WF)
    (hstart : letters = [] → r.pending = none) (h : r.readShort g letters = .ok r') :
    ∃ mentions next, Cluster g letters mentions next ∧ Consumes r r' mentions next := by
  induction letters generalizing r with
  | nil =>
    cases h
    exact ⟨[], none, .done, .refl (hstart rfl)⟩
  | cons c letters ih =>
    unfold readShort at h
    split at h
    · cases h
    · next f hflag =>
      split at h
      · next htakes =>
        split at h
        · exact ⟨_, _, .waiting hflag htakes, consumes_of_await hwf htakes h⟩
        · next value => exact ⟨_, _, .equals hflag htakes, consumes_of_complete hwf h⟩
        · next hnil hequals =>
          cases letters with
          | nil => exact absurd rfl hnil
          | cons d value =>
            have hd : d ≠ '=' := fun heq => hequals value (by rw [heq])
            exact ⟨_, _, .joined hflag htakes hd, consumes_of_complete hwf h⟩
      · next htakes =>
        split at h
        · next r₁ hcomplete =>
          have hfirst := consumes_of_complete hwf hcomplete
          obtain ⟨mentions, next, hcluster, hrest⟩ := ih hfirst.wf (fun _ => hfirst.pending) h
          exact ⟨_, _, .switch hflag (by simpa using htakes) hcluster, hfirst.trans hrest⟩
        · cases h

/-- What is accepted spells options, and they are taken in the order in which they are mentioned. -/
theorem spells_of_readAll {arguments : List String} {c : Choices} (hwf : r.WF)
    (h : readAll g r arguments = .ok c) :
    ∃ mentions, Spells g r.waiting arguments mentions ∧
      r.choices.collect (r.putOff ++ mentions) = .ok c := by
  -- At the end of the arguments, only a value that was put off is left to look at.
  have hend {r : ArgumentReader} (hwf : r.WF) (h : r.resolve.map (·.choices) = .ok c) :
      r.waiting = none ∧ r.choices.collect (r.putOff ++ []) = .ok c := by
    obtain ⟨r₁, hresolve, rfl⟩ := of_map_eq_ok h
    have hconsumes := consumes_of_resolve hwf hresolve
    exact ⟨hconsumes.idle, hconsumes.collected⟩
  induction arguments generalizing r with
  | nil =>
    obtain ⟨hidle, hcollect⟩ := hend hwf h
    exact ⟨[], by rw [hidle]; exact .done, hcollect⟩
  | cons argument rest ih =>
    have hnext {r₁ : ArgumentReader} {first : List Mention} {next : Option Flag}
        (hconsumes : Consumes r r₁ first next) (h : readAll g r₁ rest = .ok c) :
        ∃ mentions, Spells g next rest mentions ∧
          r.choices.collect (r.putOff ++ (first ++ mentions)) = .ok c := by
      obtain ⟨mentions, hspells, hcollect⟩ := ih hconsumes.wf h
      rw [hconsumes.waiting_eq] at hspells
      rw [hconsumes.putOff_eq] at hcollect
      refine ⟨mentions, hspells, ?_⟩
      rw [← List.append_assoc, Choices.collect_append hconsumes.collected]
      exact hcollect
    unfold readAll at h
    split at h
    · next hargument =>
      obtain rfl : argument = "--" := String.toList_injective hargument
      split at h
      · obtain ⟨hidle, hcollect⟩ := hend hwf h
        exact ⟨[], by rw [hidle]; exact .stop, hcollect⟩
      · cases h
    · next body hstop hargument =>
      split at h
      · next r₁ hread =>
        obtain ⟨first, next, hlong, hconsumes⟩ := consumes_of_readLong hwf hread
        obtain ⟨mentions, hspells, hcollect⟩ := hnext hconsumes h
        refine ⟨first ++ mentions, ?_, hcollect⟩
        rw [hconsumes.idle]
        exact .long hargument hstop hlong hspells
      · cases h
    · next c letters _ hdashes hargument =>
      split at h
      · next r₁ hread =>
        obtain ⟨first, next, hcluster, hconsumes⟩ :=
          consumes_of_readShort hwf (absurd · (List.cons_ne_nil _ _)) hread
        obtain ⟨mentions, hspells, hcollect⟩ := hnext hconsumes h
        refine ⟨first ++ mentions, ?_, hcollect⟩
        rw [hconsumes.idle]
        exact .short hargument hdashes hcluster hspells
      · cases h
    · next hplain =>
      split at h
      · next hawaiting =>
        obtain ⟨f, hpending⟩ : ∃ f, r.pending = some (f, none) := by
          unfold isAwaiting at hawaiting
          split at hawaiting
          · exact ⟨_, ‹_›⟩
          · cases hawaiting
        have hfill : (r.fill argument).pending = some (f, some argument) := by
          rw [fill, hpending]
          rfl
        have hidle : (r.fill argument).waiting = none := by rw [waiting, hfill]
        obtain ⟨mentions, hspells, hcollect⟩ := ih (fun f hf => by rw [hidle] at hf; cases hf) h
        rw [hidle] at hspells
        refine ⟨⟨f, some argument⟩ :: mentions, ?_, ?_⟩
        · rw [waiting, hpending]
          exact .value hplain hspells
        · rw [putOff, hpending]
          rwa [putOff, hfill] at hcollect
      · cases h

end ArgumentReader

theorem spells_of_parse {arguments : List String} {c : Choices}
    (h : Choices.parse g arguments = .ok c) :
    ∃ mentions, Spells g none arguments mentions ∧ Choices.collect {} mentions = .ok c :=
  ArgumentReader.spells_of_readAll (r := {}) (fun _ hf => by cases hf) h

end TextRelay
