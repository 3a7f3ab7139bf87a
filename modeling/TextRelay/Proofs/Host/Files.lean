import TextRelay.Host.Files

/-!
# Files that differ in sockets only

Listeners make and remove sockets, and nothing else. Such changes are invisible to everybody who
follows a path: on the way there are only directories and links, so a path that leads somewhere
leads there still (`SameExceptSockets.locate`), and what stands there is the same unless it is a
socket (`SameExceptSockets.find`). A path under which something new was made leads to what was made
(`locate_of_vacant`).
-/

namespace TextRelay

def Entry.isSocket : Entry → Bool
  | socket _ => true
  | _ => false

namespace Files

variable {f g : Files} {place other : Path} {entry : Entry} {path : String}

/-! ## Putting and erasing -/

theorem lookup_filter_ne (entries : List (Path × Entry)) (place other : Path) :
    (entries.filter (·.1 ≠ place)).lookup other =
      if other = place then none else entries.lookup other := by
  induction entries with
  | nil => simp
  | cons first rest ih =>
    obtain ⟨here, entry⟩ := first
    by_cases hfirst : here = place
    · -- The first entry goes, and it was the answer only for `place`.
      subst hfirst
      rw [List.filter_cons_of_neg (by simp), ih]
      by_cases hother : other = here
      · simp [hother]
      · simp [hother, List.lookup_cons, beq_false_of_ne hother]
    · rw [List.filter_cons_of_pos (by simpa using hfirst), List.lookup_cons, List.lookup_cons, ih]
      by_cases hother : other = here
      · subst hother
        simp [hfirst]
      · simp [beq_false_of_ne hother]

theorem entryAt_of_ne (f : Files) (hplace : place ≠ []) :
    f.entryAt place = f.entries.lookup place := by
  cases place with
  | nil => exact absurd rfl hplace
  | cons _ _ => rfl

theorem entryAt_erase (f : Files) (hplace : place ≠ []) (other : Path) :
    (f.erase place).entryAt other = if other = place then none else f.entryAt other := by
  by_cases hroot : other = []
  · subst hroot
    rw [if_neg (Ne.symm hplace)]
    rfl
  · rw [entryAt_of_ne _ hroot, entryAt_of_ne _ hroot]
    exact lookup_filter_ne f.entries place other

theorem entryAt_put (f : Files) (hplace : place ≠ []) (entry : Entry) (other : Path) :
    (f.put place entry).entryAt other = if other = place then some entry else f.entryAt other := by
  by_cases hroot : other = []
  · subst hroot
    rw [if_neg (Ne.symm hplace)]
    rfl
  · rw [entryAt_of_ne _ hroot, entryAt_of_ne _ hroot]
    show List.lookup other ((place, entry) :: f.entries.filter (·.1 ≠ place)) = _
    rw [List.lookup_cons, lookup_filter_ne]
    by_cases hother : other = place
    · simp [hother]
    · simp [hother, beq_false_of_ne hother]

/-! ## Looking up -/

theorem find_eq_ok_iff {toEnd : Bool} : f.find toEnd path = .ok entry ↔
    hasNul path = false ∧
      ∃ place, f.locate toEnd path = .ok place ∧ f.entryAt place = some entry := by
  unfold find
  cases hnul : hasNul path with
  | true => simp
  | false =>
    simp only [Bool.false_eq_true, if_false, true_and]
    cases hlocate : f.locate toEnd path with
    | error n => simp
    | ok place =>
      cases hentry : f.entryAt place with
      | none => simp [hentry]
      | some found => simp [hentry]

/-- A path that leads to a place where nothing stands is not found. -/
theorem lookup_vacant (hnul : hasNul path = false) (hlocate : f.locate false path = .ok place)
    (hentry : f.entryAt place = none) : f.lookup path = .error (.ofErrno 2) := by
  simp only [lookup, find, hnul, hlocate, hentry, Bool.false_eq_true, if_false]

theorem lookup_empty (f : Files) : f.lookup "" = .error (.ofErrno 2) := rfl

theorem ne_root_of_entryAt (hentry : f.entryAt place = some entry) (hne : entry ≠ .directory) :
    place ≠ [] := by
  rintro rfl
  exact hne (Option.some.inj hentry).symm

theorem remove_of_lookup (hlookup : f.lookup path = .ok entry) (hne : entry ≠ .directory) :
    ∃ place, f.locate false path = .ok place ∧ f.entryAt place = some entry ∧ place ≠ [] ∧
      f.remove path = .ok (f.erase place) := by
  obtain ⟨-, place, hlocate, hentry⟩ := find_eq_ok_iff.1 hlookup
  refine ⟨place, hlocate, hentry, ne_root_of_entryAt hentry hne, ?_⟩
  unfold remove
  rw [hlookup, hlocate]
  split <;> simp_all

/-- What cannot be looked up cannot be removed, and no more can a directory. -/
theorem remove_fails (h : ∀ entry, f.lookup path = .ok entry → entry = .directory) :
    ∃ fault, f.remove path = .error fault := by
  unfold remove
  split
  · exact ⟨_, rfl⟩
  · next entry place hne hlookup _ => exact absurd (h _ hlookup) hne
  · exact ⟨_, rfl⟩
  · exact ⟨_, rfl⟩

/-! ## One step of a path -/

/-- The place that a component leads to from a directory. -/
def descend (start : Path) (name : String) : Except Nat Path :=
  if name.isEmpty || name == "." then .ok start
  else if name == ".." then .ok start.dropLast
  else if maxName < name.utf8ByteSize then .error 36
  else .ok (start ++ [name])

/-- A path goes on from a directory, or where a link leads. -/
theorem walkBy_cons {F : Path → List String → Except Nat Path} {toEnd : Bool} {start : Path}
    {name : String} {rest : List String} : f.walkBy F toEnd start (name :: rest) = .ok place ↔
      (f.entryAt start = some .directory ∧ ∃ next, descend start name = .ok next ∧
        f.walkBy F toEnd next rest = .ok place) ∨
      ∃ target, f.entryAt start = some (.link target) ∧
        F (linkStart start target) (components target ++ name :: rest) = .ok place := by
  rw [walkBy]
  cases hentry : f.entryAt start with
  | none => simp
  | some entry =>
    cases entry with
    | link target => simp
    | node node =>
      cases node with
      | file text => simp
      | socket id => simp
      | directory =>
        simp only [descend, true_and]
        split
        · simp
        · split
          · simp
          · split <;> simp

/-! ## Files that are alike -/

/-- Two sets of files that differ in sockets only. -/
def SameExceptSockets (f g : Files) : Prop :=
  ∀ place entry, entry.isSocket = false →
    (f.entryAt place = some entry ↔ g.entryAt place = some entry)

namespace SameExceptSockets

theorem refl (f : Files) : f.SameExceptSockets f := fun _ _ _ => Iff.rfl

theorem trans {k : Files} (h₁ : f.SameExceptSockets g) (h₂ : g.SameExceptSockets k) :
    f.SameExceptSockets k :=
  fun place entry hentry => (h₁ place entry hentry).trans (h₂ place entry hentry)

theorem erase (hplace : place ≠ [])
    (h : ∀ entry, f.entryAt place = some entry → entry.isSocket = true) :
    f.SameExceptSockets (f.erase place) := by
  intro other entry hentry
  rw [entryAt_erase f hplace]
  split
  · next heq =>
    subst heq
    refine ⟨fun hsome => ?_, fun hnone => by cases hnone⟩
    rw [h entry hsome] at hentry
    cases hentry
  · exact Iff.rfl

theorem put (hplace : place ≠ [])
    (h : ∀ entry, f.entryAt place = some entry → entry.isSocket = true) (id : Nat) :
    f.SameExceptSockets (f.put place (.socket id)) := by
  intro other entry hentry
  rw [entryAt_put f hplace]
  split
  · next heq =>
    subst heq
    refine ⟨fun hsome => ?_, fun hsocket => ?_⟩
    · rw [h entry hsome] at hentry
      cases hentry
    · cases hsocket
      cases hentry
  · exact Iff.rfl

/-- On the way of a path there are only directories and links. -/
theorem walkBy (hunchanged : f.SameExceptSockets g) {F G : Path → List String → Except Nat Path}
    (hfollow : ∀ start names place, F start names = .ok place → G start names = .ok place)
    {toEnd : Bool} {start : Path} {names : List String}
    (h : f.walkBy F toEnd start names = .ok place) :
    g.walkBy G toEnd start names = .ok place := by
  induction names generalizing start with
  | nil =>
    unfold Files.walkBy at h ⊢
    split at h
    · next target hlink =>
      rw [(hunchanged _ (.link target) rfl).1 hlink]
      exact hfollow _ _ _ h
    · next hnot =>
      split
      · next target hlink =>
        exact absurd ((hunchanged _ (.link target) rfl).2 hlink) (hnot target rfl)
      · exact h
  | cons name rest ih =>
    obtain ⟨hdirectory, next, hdescend, hnext⟩ | ⟨target, hlink, hnext⟩ := walkBy_cons.1 h
    · exact walkBy_cons.2
        (.inl ⟨(hunchanged _ .directory rfl).1 hdirectory, next, hdescend, ih hnext⟩)
    · exact walkBy_cons.2 (.inr ⟨target, (hunchanged _ (.link target) rfl).1 hlink,
        hfollow _ _ _ hnext⟩)

theorem walk (hunchanged : f.SameExceptSockets g) {toEnd : Bool} {links : Nat} {start : Path}
    {names : List String} (h : f.walk toEnd links start names = .ok place) :
    g.walk toEnd links start names = .ok place := by
  induction links generalizing place start names with
  | zero => exact hunchanged.walkBy (fun _ _ _ hlink => hlink) h
  | succ links ih => exact hunchanged.walkBy (fun _ _ _ hlink => ih hlink) h

theorem locate (hunchanged : f.SameExceptSockets g) {toEnd : Bool}
    (h : f.locate toEnd path = .ok place) : g.locate toEnd path = .ok place := by
  unfold Files.locate at h ⊢
  cases hlength : checkLength path with
  | error n =>
    rw [hlength] at h
    cases h
  | ok _ =>
    rw [hlength] at h
    exact hunchanged.walk h

theorem find (hunchanged : f.SameExceptSockets g) {toEnd : Bool} (h : f.find toEnd path = .ok entry)
    (hentry : entry.isSocket = false) : g.find toEnd path = .ok entry := by
  obtain ⟨hnul, place, hlocate, hplace⟩ := find_eq_ok_iff.1 h
  exact find_eq_ok_iff.2 ⟨hnul, place, hunchanged.locate hlocate, (hunchanged _ _ hentry).1 hplace⟩

end SameExceptSockets

/-! ## New names -/

/-- A component that is a name of its own, and not too long for one. -/
def IsName (name : String) : Prop := ∀ start, descend start name = .ok (start ++ [name])

/-- A name is one more step from the directory that the components before it lead to. -/
theorem walkBy_concat {F G : Path → List String → Except Nat Path} {name : String}
    (hname : IsName name) {parent : Path} (hparent : f.entryAt parent = some .directory)
    (hfollow : ∀ start names, F start names = .ok parent →
      G start (names ++ [name]) = .ok (parent ++ [name]))
    {start : Path} {names : List String} (h : f.walkBy F true start names = .ok parent) :
    f.walkBy G false start (names ++ [name]) = .ok (parent ++ [name]) := by
  induction names generalizing start with
  | nil =>
    unfold walkBy at h
    split at h
    · next _ target _ hlink => exact walkBy_cons.2 (.inr ⟨target, hlink, hfollow _ _ h⟩)
    · cases h
      exact walkBy_cons.2 (.inl ⟨hparent, _, hname parent, rfl⟩)
  | cons first rest ih =>
    obtain ⟨hdirectory, next, hdescend, hnext⟩ | ⟨target, hlink, hnext⟩ := walkBy_cons.1 h
    · exact walkBy_cons.2 (.inl ⟨hdirectory, next, hdescend, ih hnext⟩)
    · have hlast := hfollow _ _ hnext
      rw [List.append_assoc] at hlast
      exact walkBy_cons.2 (.inr ⟨target, hlink, hlast⟩)

theorem walk_concat {name : String} (hname : IsName name) {parent : Path}
    (hparent : f.entryAt parent = some .directory) {links : Nat} {start : Path}
    {names : List String} (h : f.walk true links start names = .ok parent) :
    f.walk false links start (names ++ [name]) = .ok (parent ++ [name]) := by
  induction links generalizing start names with
  | zero => exact walkBy_concat hname hparent (fun _ _ hlink => by cases hlink) h
  | succ links ih => exact walkBy_concat hname hparent (fun _ _ hlink => ih hlink) h

theorem directoryAt_eq_ok {parent : Path} (h : f.directoryAt place = .ok parent) :
    parent = place ∧ f.entryAt place = some .directory := by
  unfold directoryAt at h
  split at h
  · next hdirectory =>
    cases h
    exact ⟨rfl, hdirectory⟩
  · cases h
  · cases h

/-- A spot under a name, with no slash after it, is the last component of its path. -/
theorem spot_eq_named {parent : Path} {name : String}
    (h : f.spot path = .ok (.named parent name false)) (hshort : ¬ maxName < name.utf8ByteSize) :
    checkLength path = .ok () ∧ IsName name ∧ f.entryAt parent = some .directory ∧
      ∃ before, components path = before ++ [name] ∧
        f.walk true maxLinks [] before = .ok parent := by
  unfold spot at h
  rcases hlength : checkLength path with e | ⟨⟨⟩⟩
  · rw [hlength] at h
    cases h
  rw [hlength] at h
  simp only [Except.bind] at h
  split at h
  · cases h
  · next last before hparts =>
    rcases hwalk : f.walk true maxLinks [] before.reverse with e | place
    · rw [hwalk] at h
      cases h
    rcases hdirectory : f.directoryAt place with e | parent'
    · rw [hwalk] at h
      simp only [hdirectory] at h
      cases h
    obtain ⟨rfl, hentry⟩ := directoryAt_eq_ok hdirectory
    rw [hwalk] at h
    simp only [hdirectory, Except.map, Except.ok.injEq] at h
    have hspot := h
    split at hspot
    · cases hspot
    · next hdots =>
      -- No component was dropped: the last one is empty only where a slash stands at the end.
      injection hspot with hparent hname hslash
      subst hparent hname
      rw [Bool.or_eq_true, not_or, Bool.not_eq_true, Bool.not_eq_true] at hdots
      rcases hreverse : (components path).reverse with _ | ⟨first, rest⟩
      · rw [hreverse] at hparts
        cases hparts
      · have hfirst : first.isEmpty = false := by
          rw [hreverse] at hslash
          simpa [String.isEmpty_iff] using hslash
        rw [hreverse, List.dropWhile_cons_of_neg (by simp [hfirst])] at hparts
        cases hparts
        have hname : IsName last := fun start => by
          simp [descend, hfirst, hdots.1, hdots.2, hshort]
        refine ⟨rfl, hname, hentry, before.reverse, ?_, hwalk⟩
        rw [← List.reverse_cons, ← hreverse, List.reverse_reverse]

/-- Where a path makes something new, it leads afterwards. -/
theorem locate_of_vacant {taken : Nat} (h : f.vacant path taken false = .ok place) :
    f.locate false path = .ok place ∧ f.entryAt place = none ∧ place ≠ [] := by
  unfold vacant at h
  split at h
  · cases h
  · cases h
  · next parent name hasSlash hspot =>
    dsimp only at h
    split at h
    · cases h
    · next hshort =>
      split at h
      · cases h
      · next hnone =>
        split at h
        · cases h
        · next hslash =>
          cases h
          obtain rfl : hasSlash = false := by simpa using hslash
          obtain ⟨hlength, hname, hparent, before, hcomponents, hwalk⟩ :=
            spot_eq_named hspot hshort
          refine ⟨?_, by simpa using hnone, by simp⟩
          unfold locate
          rw [hlength, hcomponents]
          exact walk_concat hname hparent hwalk

end Files

end TextRelay
