import TextRelay.Proofs.Host.SharedHost

/-!
# Who owns the name of a local socket

A local listener takes the file type of what it finds at its path for a sign that it was left
behind, and the socket that it holds for a sign that what is at its path is its own. Neither is
always so. Binding is safe exactly if nobody listens at the path, and closing exactly if what is
at the path is the listener's own socket, or cannot be removed (`safe_iff`). Where no holder
binds over a listener and nobody else touches the names of bound ones, every close is safe.
-/

namespace TextRelay

namespace Files

variable {f : Files} {place : Path} {path : String} {entry : Entry} {id : Nat}

theorem lookup_erase_other (hlookup : f.lookup path = .ok entry) (hplace : place ≠ [])
    (hsocket : f.entryAt place = some (.socket id)) (hne : entry ≠ .socket id) :
    (f.erase place).lookup path = .ok entry := by
  obtain ⟨hnul, here, hlocate, hentry⟩ := find_eq_ok_iff.1 hlookup
  have hunchanged : f.SameExceptSockets (f.erase place) :=
    .erase hplace fun other hother => by rw [hsocket] at hother; cases hother; rfl
  refine find_eq_ok_iff.2 ⟨hnul, here, hunchanged.locate hlocate, ?_⟩
  rw [entryAt_erase f hplace, if_neg]
  · exact hentry
  · rintro rfl
    rw [hsocket] at hentry
    exact hne (Option.some.inj hentry).symm

theorem lookup_put_other (hlookup : f.lookup path = .ok entry) (hplace : place ≠ [])
    (hvacant : f.entryAt place = none) (id : Nat) :
    (f.put place (.socket id)).lookup path = .ok entry := by
  obtain ⟨hnul, here, hlocate, hentry⟩ := find_eq_ok_iff.1 hlookup
  have hunchanged : f.SameExceptSockets (f.put place (.socket id)) :=
    .put hplace (fun other hother => by rw [hvacant] at hother; cases hother) id
  refine find_eq_ok_iff.2 ⟨hnul, here, hunchanged.locate hlocate, ?_⟩
  rw [entryAt_put f hplace, if_neg]
  · exact hentry
  · rintro rfl
    rw [hvacant] at hentry
    cases hentry

/-- What stood at a place and stands there no more. -/
def Removed (f g : Files) (place : Path) (entry : Entry) : Prop :=
  f.entryAt place = some entry ∧ g.entryAt place ≠ some entry

theorem not_removed (f : Files) (place : Path) (entry : Entry) : ¬ f.Removed f place entry :=
  fun h => h.2 h.1

theorem Removed.of_put {g : Files} {other : Path} (hplace : place ≠ [])
    (hvacant : g.entryAt place = none) (h : f.Removed (g.put place (.socket id)) other entry) :
    f.Removed g other entry := by
  refine ⟨h.1, fun hentry => h.2 ?_⟩
  rw [entryAt_put g hplace, if_neg]
  · exact hentry
  · rintro rfl
    rw [hvacant] at hentry
    cases hentry

theorem Removed.of_erase {other : Path} (hplace : place ≠ [])
    (h : f.Removed (f.erase place) other entry) : other = place := by
  apply Decidable.byContradiction
  intro hne
  apply h.2
  rw [entryAt_erase f hplace, if_neg hne]
  exact h.1

/-- What a path stands for is removed from there, unless it is a directory, and nothing else is. -/
theorem removed_without_iff : f.Removed (f.without path) place entry ↔
    f.locate false path = .ok place ∧ f.lookup path = .ok entry ∧ entry ≠ .directory := by
  constructor
  · intro hremoved
    by_cases hself : ∀ entry, f.lookup path = .ok entry → entry = .directory
    · rw [without_eq_self hself] at hremoved
      exact absurd hremoved (f.not_removed place entry)
    · obtain ⟨found, hlookup, hfound⟩ :
          ∃ found, f.lookup path = .ok found ∧ found ≠ .directory := by simpa using hself
      obtain ⟨here, hlocate, hentry, hplace, hwithout⟩ := without_eq_erase hlookup hfound
      rw [hwithout] at hremoved
      obtain rfl := hremoved.of_erase hplace
      obtain rfl : found = entry := Option.some.inj (hentry.symm.trans hremoved.1)
      exact ⟨hlocate, hlookup, hfound⟩
  · rintro ⟨hlocate, hlookup, hne⟩
    obtain ⟨here, hlocate', hentry, hplace, hwithout⟩ := without_eq_erase hlookup hne
    rw [hlocate] at hlocate'
    cases hlocate'
    rw [hwithout]
    refine ⟨hentry, ?_⟩
    rw [entryAt_erase f hplace, if_pos rfl]
    nofun

end Files

/-- Somebody listens at a path. -/
def Host.Live (w : Host) (path : String) : Prop :=
  ∃ id, w.files.lookup path = .ok (.socket id) ∧ w.isListening id = true

namespace LocalListener

variable {l l' other : LocalListener} {w w' : Host} {place : Path} {entry : Entry}

/-! ## When a call is safe -/

/-- A bind that removes nothing but a socket at its path that nobody listens on. Where somebody
listens it fails, and all stays as it was. -/
def SafeBind (l : LocalListener) (w : Host) : Prop :=
  (w.Live l.path → (∃ fault, (l.bind w).1 = .error fault) ∧ w.SameSockets (l.bind w).2.2) ∧
    ∀ place entry, w.files.Removed (l.bind w).2.2.files place entry →
      w.files.locate false l.path = .ok place ∧ ∃ id, entry = .socket id ∧ w.isListening id = false

/-- A close, from one state of the host to the next, that removes nothing but the socket that the
listener made, at its path. -/
def SafeClose (l : LocalListener) (w w' : Host) : Prop :=
  ∀ place entry, w.files.Removed w'.files place entry →
    w.files.locate false l.path = .ok place ∧ ∃ id, l.socket = some id ∧ entry = .socket id

theorem Clearing.of_removed {path : String} {w₁ : Host} (h : Clearing path w (.ok w₁))
    (hremoved : w.files.Removed w₁.files place entry) :
    w.files.locate false path = .ok place ∧
      ∃ id, entry = .socket id ∧ w.files.lookup path = .ok (.socket id) := by
  cases h with
  | vacant => exact absurd hremoved (w.files.not_removed place entry)
  | @removed id here hlookup hlocate hentry hplace =>
    obtain rfl := Files.Removed.of_erase hplace hremoved
    have hsocket : entry = .socket id := Option.some.inj (hremoved.1.symm.trans hentry)
    exact ⟨hlocate, id, hsocket, hlookup⟩

/-- What a bind removes is the socket at its path. -/
theorem Binding.of_removed {result : Except Fault Unit} (h : Binding l w result l' w')
    (hremoved : w.files.Removed w'.files place entry) :
    w.files.locate false l.path = .ok place ∧
      ∃ id, entry = .socket id ∧ w.files.lookup l.path = .ok (.socket id) := by
  cases h with
  | refused => exact absurd hremoved (w.files.not_removed place entry)
  | failed hclear hsameSockets =>
    rw [hsameSockets.files] at hremoved
    exact hclear.of_removed hremoved
  | unnamed _ hfiles =>
    rw [hfiles] at hremoved
    exact absurd hremoved (w.files.not_removed place entry)
  | named hclear _ _ hentry hplace hfiles =>
    rw [hfiles] at hremoved
    exact hclear.of_removed (hremoved.of_put hplace hentry)

/-- Where a socket stands, a bind that fails removed it. -/
theorem Binding.files_ne {fault : Fault} {id : Nat} (h : Binding l w (.error fault) l' w')
    (hlookup : w.files.lookup l.path = .ok (.socket id)) : w'.files ≠ w.files := by
  cases h with
  | refused hclear =>
    cases hclear with
    | occupied hother hentry =>
      rw [hlookup] at hother
      cases hother
      cases hentry
    | unreachable hother =>
      rw [hlookup] at hother
      cases hother
  | failed hclear hsameSockets =>
    cases hclear with
    | vacant hother =>
      rw [hlookup] at hother
      cases hother
    | @removed _ place _ _ hentry hplace =>
      intro hfiles
      have herased : w'.files = w.files.erase place := hsameSockets.files
      have hgone := Files.entryAt_erase w.files hplace place
      rw [← herased, hfiles, hentry, if_pos rfl] at hgone
      cases hgone

theorem safeBind_iff : l.SafeBind w ↔ ¬ w.Live l.path := by
  rcases hbind : l.bind w with ⟨result, l', w'⟩
  have hbinding := of_bind hbind
  unfold SafeBind
  rw [hbind]
  constructor
  · rintro ⟨hkept, -⟩ hlive
    obtain ⟨⟨fault, hfault⟩, hsameSockets⟩ := hkept hlive
    obtain ⟨id, hlookup, -⟩ := hlive
    change result = .error fault at hfault
    subst hfault
    exact hbinding.files_ne hlookup hsameSockets.files
  · intro hdead
    refine ⟨fun hlive => absurd hlive hdead, fun place entry hremoved => ?_⟩
    obtain ⟨hlocate, id, rfl, hlookup⟩ := hbinding.of_removed hremoved
    refine ⟨hlocate, id, rfl, ?_⟩
    cases hlistening : w.isListening id with
    | false => rfl
    | true => exact absurd ⟨id, hlookup, hlistening⟩ hdead

/-- What is at the path of a bound listener is its own socket, or a directory, which stays. -/
def MayRemove (l : LocalListener) (w : Host) : Prop :=
  ∀ entry, w.files.lookup l.path = .ok entry →
    entry = .directory ∨ ∃ id, l.socket = some id ∧ entry = .socket id

theorem Closing.safe_iff (h : Closing l w l' w') :
    l.SafeClose w w' ↔ l.socket = none ∨ l.MayRemove w := by
  cases h with
  | unbound hsocket =>
    refine iff_of_true (fun place entry hremoved => ?_) (.inl hsocket)
    exact absurd hremoved (w.files.not_removed place entry)
  | released hsocket hfiles =>
    unfold SafeClose
    rw [hfiles]
    constructor
    · refine fun h => .inr fun entry hlookup => ?_
      by_cases hentry : entry = .directory
      · exact .inl hentry
      · obtain ⟨-, place, hlocate, -⟩ := Files.find_eq_ok_iff.1 hlookup
        exact .inr (h place entry (Files.removed_without_iff.2 ⟨hlocate, hlookup, hentry⟩)).2
    · rintro (hnone | h) place entry hremoved
      · rw [hsocket] at hnone
        cases hnone
      · obtain ⟨hlocate, hlookup, hentry⟩ := Files.removed_without_iff.1 hremoved
        exact ⟨hlocate, (h entry hlookup).resolve_left hentry⟩

/-! ## Owning a name -/

/-- A listener that listens on the socket it holds, at its path. The empty path has no name to own.
-/
def Owns (l : LocalListener) (w : Host) : Prop :=
  ∀ id, l.socket = some id → w.isListening id = true ∧
    (l.path.isEmpty = true ∨ w.files.lookup l.path = .ok (.socket id))

/-- Two listeners hold no socket in common. -/
def Disjoint (l other : LocalListener) : Prop :=
  ∀ id, l.socket = some id → other.socket ≠ some id

theorem Owns.unbound (hsocket : l.socket = none) (w : Host) : l.Owns w := by
  intro id hid
  rw [hsocket] at hid
  cases hid

theorem Owns.mayRemove (h : l.Owns w) : l.socket = none ∨ l.MayRemove w := by
  cases hsocket : l.socket with
  | none => exact .inl rfl
  | some id =>
    refine .inr fun entry hlookup => ?_
    obtain hempty | hown := (h id hsocket).2
    · rw [String.isEmpty_iff.1 hempty, Files.lookup_empty] at hlookup
      cases hlookup
    · rw [hlookup] at hown
      cases hown
      exact .inr ⟨id, hsocket, rfl⟩

theorem Owns.same (h : l.Owns w) (hsameSockets : w.SameSockets w') : l.Owns w' := by
  intro id hid
  rw [hsameSockets.files, hsameSockets.listening]
  exact h id hid

/-- A listener that owns its name keeps it when somebody clears a path at which nobody listens. -/
theorem Owns.clear {path : String} {w₁ : Host} (h : l.Owns w) (hdead : ¬ w.Live path)
    (hclear : Clearing path w (.ok w₁)) : l.Owns w₁ := by
  cases hclear with
  | vacant => exact h
  | removed hlookup _ hentry hplace =>
    intro id hid
    obtain ⟨hlistening, hname⟩ := h id hid
    refine ⟨hlistening, hname.imp_right fun hown => ?_⟩
    refine Files.lookup_erase_other hown hplace hentry ?_
    intro heq
    cases heq
    exact hdead ⟨_, hlookup, hlistening⟩

/-- A new socket listens, and so do those of all others; nobody held it before. -/
theorem Owns.replaced (hown : l.Owns w) (hlistening : ∀ id, w'.isListening id =
      ((w.isListening id || decide (id = w.sockets.length)) && decide (l.socket ≠ some id))) :
    w'.isListening w.sockets.length = true ∧ ∀ other : LocalListener, other.Owns w →
      l.Disjoint other → (∀ id, other.socket = some id → w'.isListening id = true) ∧
        Disjoint { l with socket := some w.sockets.length } other := by
  have hnew {l : LocalListener} (hown : l.Owns w) : l.socket ≠ some w.sockets.length := by
    intro hid
    exact Nat.lt_irrefl _ (Host.lt_of_isListening (hown _ hid).1)
  refine ⟨?_, fun other hother hdisjoint => ⟨fun id hid => ?_, fun id hid => ?_⟩⟩
  · rw [hlistening]
    simpa using hnew hown
  · rw [hlistening, (hother id hid).1]
    have hne : l.socket ≠ some id := fun hsome => hdisjoint id hsome hid
    simpa using hne
  · cases hid
    exact hnew hother

/-- When a listener binds at a path at which nobody listens, all keep their names and it gets its
own. -/
theorem Binding.owns {result : Except Fault Unit} (h : Binding l w result l' w')
    (hdead : ¬ w.Live l.path) (hown : l.Owns w) :
    l'.Owns w' ∧ ∀ other : LocalListener, other.Owns w → l.Disjoint other →
      other.Owns w' ∧ l'.Disjoint other := by
  cases h with
  | refused => exact ⟨hown, fun other hother hdisjoint => ⟨hother, hdisjoint⟩⟩
  | failed hclear hsameSockets =>
    refine ⟨(hown.clear hdead hclear).same hsameSockets, fun other hother hdisjoint =>
      ⟨?_, hdisjoint⟩⟩
    exact (hother.clear hdead hclear).same hsameSockets
  | unnamed hpath hfiles hlistening =>
    obtain ⟨hnew, hothers⟩ := hown.replaced hlistening
    refine ⟨fun id hid => ?_, fun other hother hdisjoint => ⟨fun id hid => ?_, ?_⟩⟩
    · cases hid
      exact ⟨hnew, .inl hpath⟩
    · rw [hfiles]
      exact ⟨(hothers other hother hdisjoint).1 id hid, (hother id hid).2⟩
    · exact (hothers other hother hdisjoint).2
  | @named place w₁ _ hclear hnul hlocate hentry hplace hfiles hlistening =>
    obtain ⟨hnew, hothers⟩ := hown.replaced hlistening
    refine ⟨fun id hid => ?_, fun other hother hdisjoint => ⟨fun id hid => ?_, ?_⟩⟩
    · cases hid
      have hunchanged :
          w₁.files.SameExceptSockets (w₁.files.put place (.socket w.sockets.length)) :=
        .put hplace (fun entry hsome => by rw [hentry] at hsome; cases hsome) _
      refine ⟨hnew, .inr (Files.find_eq_ok_iff.2 ⟨hnul, place, ?_, ?_⟩)⟩
      · rw [hfiles]
        exact hunchanged.locate hlocate
      · rw [hfiles, Files.entryAt_put _ hplace, if_pos rfl]
    · refine ⟨(hothers other hother hdisjoint).1 id hid, ?_⟩
      rw [hfiles]
      refine ((hother.clear hdead hclear) id hid).2.imp_right fun hname => ?_
      exact Files.lookup_put_other hname hplace hentry _
    · exact (hothers other hother hdisjoint).2

/-- A listener that is closed takes no name but its own. -/
theorem Closing.owns (h : Closing l w l' w') (hown : l.Owns w) (hother : other.Owns w)
    (hdisjoint : l.Disjoint other) : other.Owns w' := by
  cases h with
  | unbound => exact hother
  | @released held _ hsocket hfiles hlistening =>
    intro id hid
    obtain ⟨hopen, hname⟩ := hother id hid
    have hne : id ≠ held := by
      rintro rfl
      exact hdisjoint id hsocket hid
    refine ⟨by rw [hlistening, hopen]; simpa using hne, hname.imp_right fun hlookup => ?_⟩
    rw [hfiles]
    obtain hempty | hheld := (hown held hsocket).2
    · rw [Files.without_eq_self fun entry hentry => by
        rw [String.isEmpty_iff.1 hempty, Files.lookup_empty] at hentry
        cases hentry]
      exact hlookup
    · obtain ⟨place, -, hentry, hplace, hwithout⟩ := Files.without_eq_erase hheld (by simp)
      rw [hwithout]
      exact Files.lookup_erase_other hlookup hplace hentry (by simpa using hne)

theorem Acts.owns (h : Acts (fun l w => ¬ w.Live l.path) l w l' w') (hown : l.Owns w) :
    l'.Owns w' ∧ ∀ other : LocalListener, other.Owns w → l.Disjoint other →
      other.Owns w' ∧ l'.Disjoint other := by
  induction h with
  | done => exact ⟨hown, fun other hother hdisjoint => ⟨hother, hdisjoint⟩⟩
  | same hsameSockets _ ih =>
    obtain ⟨hlast, hothers⟩ := ih (hown.same hsameSockets)
    exact ⟨hlast, fun other hother hdisjoint => hothers other (hother.same hsameSockets) hdisjoint⟩
  | bind hdead hbind _ ih =>
    obtain ⟨hnext, hkept⟩ := hbind.owns hdead hown
    obtain ⟨hlast, hothers⟩ := ih hnext
    refine ⟨hlast, fun other hother hdisjoint => ?_⟩
    exact hothers other (hkept other hother hdisjoint).1 (hkept other hother hdisjoint).2
  | close hclose _ ih =>
    obtain ⟨hlast, hothers⟩ := ih (.unbound hclose.socket_eq _)
    refine ⟨hlast, fun other hother hdisjoint =>
      hothers other (hclose.owns hown hother hdisjoint) ?_⟩
    intro id hid
    rw [hclose.socket_eq] at hid
    cases hid

end LocalListener

namespace SharedHost

/-- Every holder owns its name, and no two hold the same socket. -/
structure Owned (t : SharedHost) : Prop where
  owns : ∀ i holder, t.holder? i = some holder → holder.listener.Owns t.host
  disjoint : ∀ i j holder other, i ≠ j → t.holder? i = some holder → t.holder? j = some other →
    holder.listener.Disjoint other.listener

/-- An event that respects what the holders own: none of them binds where somebody listens, and all
others leave the names and sockets of bound listeners alone. -/
def RespectsOwners (t : SharedHost) : Event → Prop
  | .call i .bind => ∀ holder, t.holder? i = some holder → ¬ t.host.Live holder.listener.path
  | .call _ _ => True
  | .elsewhere change => ∀ i holder, t.holder? i = some holder →
      holder.listener.Owns t.host → holder.listener.Owns (change t.host)

def RespectsOwnersRun : SharedHost → List Event → Prop
  | _, [] => True
  | t, event :: rest => t.RespectsOwners event ∧ RespectsOwnersRun (t.step event) rest

variable {t : SharedHost}

theorem Owned.perform (h : t.Owned) (i : Nat) (call : ListenerHolder.Call)
    (hbind : call = .bind → ∀ holder, t.holder? i = some holder →
      ¬ t.host.Live holder.listener.path) : (t.perform i call).Owned := by
  obtain hsame | ⟨holder, l', hholder, hacts, hlisteners, hothers⟩ :=
    of_perform (fun l w => ¬ w.Live l.path) call hbind
  · rw [hsame]
    exact h
  · obtain ⟨hown, hkept⟩ := hacts.owns (h.owns i holder hholder)
    have hother (j : Nat) (other : ListenerHolder) (hj : j ≠ i)
        (hholds : (t.perform i call).holder? j = some other) :
        other.listener.Owns (t.perform i call).host ∧ l'.Disjoint other.listener := by
      rw [hothers j hj] at hholds
      exact hkept _ (h.owns j other hholds) (h.disjoint i j holder other hj.symm hholder hholds)
    refine ⟨fun j other hholds => ?_, fun j k first second hne hfirst hsecond => ?_⟩
    · by_cases hj : j = i
      · subst hj
        rw [hlisteners other hholds]
        exact hown
      · exact (hother j other hj hholds).1
    · -- Only the pairs with the holder that was called are new.
      by_cases hj : j = i
      · subst hj
        rw [hlisteners first hfirst]
        exact (hother k second hne.symm hsecond).2
      · by_cases hk : k = i
        · subst hk
          rw [hlisteners second hsecond]
          intro id hid hheld
          exact (hother j first hj hfirst).2 id hheld hid
        · rw [hothers j hj] at hfirst
          rw [hothers k hk] at hsecond
          exact h.disjoint j k first second hne hfirst hsecond

theorem Owned.step (h : t.Owned) {event : Event} (hevent : t.RespectsOwners event) :
    (t.step event).Owned := by
  cases event with
  | call i call =>
    refine h.perform i call ?_
    rintro rfl
    exact hevent
  | elsewhere change =>
    exact ⟨fun i holder hholder => hevent i holder hholder (h.owns i holder hholder), h.disjoint⟩

theorem Owned.run (h : t.Owned) {events : List Event} (hevents : t.RespectsOwnersRun events) :
    (t.run events).Owned := by
  induction events generalizing t with
  | nil => exact h
  | cons event rest ih => exact ih (h.step hevents.1) hevents.2

theorem Owned.init {w : Host} {holders : List ListenerHolder}
    (hfresh : ∀ holder ∈ holders, holder.isBound = false) : (init w holders).Owned := by
  have hunbound (i : Nat) (holder : ListenerHolder)
      (h : (SharedHost.init w holders).holder? i = some holder) :
      holder.listener.socket = none := by
    simpa [ListenerHolder.isBound] using hfresh holder (holder?_init h)
  refine ⟨fun i holder h => .unbound (hunbound i holder h) w, ?_⟩
  intro i j holder other _ hi _ id hid
  rw [hunbound i holder hi] at hid
  cases hid

/-- Listeners with any calls on them, while others do with the files what they like. -/
theorem safe_iff_of_run {w : Host} {holders : List ListenerHolder}
    (hfresh : ∀ holder ∈ holders, holder.isBound = false) {events : List Event} {i : Nat}
    {holder : ListenerHolder} (hholder : ((init w holders).run events).holder? i = some holder) :
    let host := ((init w holders).run events).host
    -- A bind removes only what was left behind, exactly if nobody listens at the path.
    (holder.listener.SafeBind host ↔ ¬ host.Live holder.listener.path) ∧
    ∀ call, call.isLast = true → ∃ next w', holder.perform host call = some (next, w') ∧
      -- Closing and dropping remove only the listener's own socket, exactly if that is what is at
      -- its path, or nothing that could be removed,
      (holder.listener.SafeClose host w' ↔
        holder.listener.socket = none ∨ holder.listener.MayRemove host) ∧
      -- and so they do wherever all respect each other's names.
      ((init w holders).RespectsOwnersRun events → holder.listener.SafeClose host w') := by
  refine ⟨LocalListener.safeBind_iff, fun call hlast => ?_⟩
  obtain ⟨next, l', w', hperform, hclosing, -⟩ :=
    holder.perform_last ((init w holders).run events).host hlast
  refine ⟨next, w', hperform, hclosing.safe_iff, fun hrespects => ?_⟩
  have howned := (Owned.init hfresh).run hrespects
  exact hclosing.safe_iff.2 (howned.owns i holder hholder).mayRemove

/-- A host with a socket that was left behind. -/
def staleSocket : Host :=
  { files := ⟨[(["r"], .socket 0)]⟩, sockets := [{ isOpen := false }] }

def pair (first second : String) : List ListenerHolder :=
  [.alone { path := first }, .alone { path := second }]

theorem safe_iff_of_run_leftover :
    let t := (init staleSocket (pair "/r" "/s")).run [.call 0 .bind, .call 1 .bind]
    ∃ holder next w', t.holder? 0 = some holder ∧ holder.listener.socket = some 1 ∧
      holder.perform t.host .close = some (next, w') ∧
      holder.listener.SafeClose t.host w' := by
  have hrespects : (init staleSocket (pair "/r" "/s")).RespectsOwnersRun
      [.call 0 .bind, .call 1 .bind] := by
    refine ⟨?_, ?_, trivial⟩
    · rintro _ ⟨⟩ ⟨id, hlookup, hlistening⟩
      change Except.ok (Entry.socket 0) = .ok (.socket id) at hlookup
      cases hlookup
      cases hlistening
    · rintro _ ⟨⟩ ⟨id, hlookup, -⟩
      change Except.error (Fault.ofErrno 2) = .ok (Entry.socket id) at hlookup
      cases hlookup
  have hfresh : ∀ holder ∈ pair "/r" "/s", holder.isBound = false := by decide
  have hholder :
      ((init staleSocket (pair "/r" "/s")).run [.call 0 .bind, .call 1 .bind]).holder? 0 =
      some (.alone ⟨"/r", some 1⟩) := rfl
  obtain ⟨-, hlast⟩ := safe_iff_of_run hfresh hholder
  obtain ⟨next, w', hperform, -, hsafe⟩ := hlast .close rfl
  exact ⟨_, next, w', hholder, rfl, hperform, hsafe hrespects⟩

/-- A listener binds at the path of another one that listens. When it is closed the other is still
bound, but nobody can reach it; and were the other closed first, it would take a name that is not
its own. -/
theorem shared_path_taken_over :
    let before := (init {} (pair "/r" "/r")).run [.call 0 .bind]
    let both := before.run [.call 1 .bind]
    let after := both.run [.call 1 .close]
    before.host.Live "/r" ∧
      (∃ second, before.holder? 1 = some second ∧ (second.listener.bind before.host).1 = .ok () ∧
        ¬ second.listener.SafeBind before.host) ∧
      (∃ first next w', both.holder? 0 = some first ∧
        first.perform both.host .close = some (next, w') ∧
        ¬ first.listener.SafeClose both.host w') ∧
      (∃ first, after.holder? 0 = some first ∧ first.listener.socket = some 0 ∧
        after.host.isListening 0 = true) ∧
      after.host.files.lookup "/r" = .error (.ofErrno 2) := by
  refine ⟨⟨0, rfl, rfl⟩, ⟨_, rfl, rfl, ?_⟩, ⟨_, _, _, rfl, rfl, ?_⟩, ⟨_, rfl, rfl, rfl⟩, rfl⟩
  · exact fun h => LocalListener.safeBind_iff.1 h ⟨0, rfl, rfl⟩
  · intro h
    obtain hnone | hmayRemove := (LocalListener.of_close rfl).safe_iff.1 h
    · cases hnone
    · obtain hdirectory | ⟨id, hheld, hown⟩ := hmayRemove (.socket 1) rfl
      · cases hdirectory
      · cases hheld
        cases hown

end SharedHost

end TextRelay
