import TextRelay.Proofs.Host.Files
import TextRelay.Proofs.Host.Sockets

/-!
# The names of local listeners

What binding and closing a local listener do to the files and sockets of its host, branch by branch.
Binding removes a socket at the path and makes a new one there; closing removes what is at the path,
if that can be removed at all. All else stays.
-/

namespace TextRelay

/-- The files without what a path stands for, if that can be removed. -/
def Files.without (f : Files) (path : String) : Files :=
  match f.remove path with
  | .ok g => g
  | .error _ => f

theorem Files.without_eq_self {f : Files} {path : String}
    (h : ∀ entry, f.lookup path = .ok entry → entry = .directory) : f.without path = f := by
  obtain ⟨fault, hremove⟩ := remove_fails h
  rw [without, hremove]

theorem Files.without_eq_erase {f : Files} {path : String} {entry : Entry}
    (hlookup : f.lookup path = .ok entry) (hne : entry ≠ .directory) :
    ∃ place, f.locate false path = .ok place ∧ f.entryAt place = some entry ∧ place ≠ [] ∧
      f.without path = f.erase place := by
  obtain ⟨place, hlocate, hentry, hplace, hremove⟩ := remove_of_lookup hlookup hne
  refine ⟨place, hlocate, hentry, hplace, ?_⟩
  rw [without, hremove]

namespace LocalListener

variable {l l' : LocalListener} {w w' : Host} {path : String}

/-- The fault of a path at which something other than a socket stands. -/
def occupied (path : String) : Fault := ⟨.alreadyExists, s!"{path} exists and is not a socket"⟩

/-! ## Clearing a path -/

/-- What clearing a path comes to. -/
inductive Clearing (path : String) (w : Host) : Except Fault Host → Prop where
  | vacant {fault : Fault} (hlookup : w.files.lookup path = .error fault)
    (hkind : fault.kind = .notFound) : Clearing path w (.ok w)
  | removed {id : Nat} {place : Path} (hlookup : w.files.lookup path = .ok (.socket id))
    (hlocate : w.files.locate false path = .ok place)
    (hentry : w.files.entryAt place = some (.socket id)) (hplace : place ≠ []) :
    Clearing path w (.ok { w with files := w.files.erase place })
  | occupied {entry : Entry} (hlookup : w.files.lookup path = .ok entry)
    (hentry : entry.isSocket = false) : Clearing path w (.error (occupied path))
  | unreachable {fault : Fault} (hlookup : w.files.lookup path = .error fault)
    (hkind : fault.kind ≠ .notFound) : Clearing path w (.error fault)

theorem of_clear (path : String) (w : Host) : Clearing path w (clear path w) := by
  unfold clear
  split
  · next id hlookup =>
    obtain ⟨place, hlocate, hentry, hplace, hremove⟩ :=
      Files.remove_of_lookup hlookup (by simp)
    rw [hremove]
    exact .removed hlookup hlocate hentry hplace
  · next entry hne hlookup =>
    refine .occupied hlookup ?_
    unfold Entry.isSocket
    split
    · next id => exact absurd rfl (hne id)
    · rfl
  · next fault hlookup =>
    split
    · next hkind => exact .vacant hlookup hkind
    · next hkind => exact .unreachable hlookup hkind

theorem Clearing.unchanged {w₁ : Host} (h : Clearing path w (.ok w₁)) :
    w.files.SameExceptSockets w₁.files := by
  cases h with
  | vacant => exact .refl _
  | removed _ _ hentry hplace =>
    refine .erase hplace fun entry hsome => ?_
    rw [hentry] at hsome
    cases hsome
    rfl

theorem Clearing.sockets_eq {w₁ : Host} (h : Clearing path w (.ok w₁)) :
    w₁.sockets = w.sockets := by
  cases h <;> rfl

/-- At the empty path there is nothing to clear. -/
theorem Clearing.eq_of_isEmpty {w₁ : Host} (h : Clearing path w (.ok w₁))
    (hpath : path.isEmpty = true) : w₁ = w := by
  cases h with
  | vacant => rfl
  | removed hlookup =>
    rw [String.isEmpty_iff.1 hpath, Files.lookup_empty] at hlookup
    cases hlookup

/-! ## Binding -/

/-- What binding a listener comes to. -/
inductive Binding (l : LocalListener) (w : Host) :
    Except Fault Unit → LocalListener → Host → Prop where
  | refused {fault : Fault} (hclear : Clearing l.path w (.error fault)) :
    Binding l w (.error fault) l w
  | failed {fault : Fault} {w₁ w' : Host} (hclear : Clearing l.path w (.ok w₁))
    (hsameSockets : w₁.SameSockets w') : Binding l w (.error fault) l w'
  | unnamed {w' : Host} (hpath : l.path.isEmpty = true) (hfiles : w'.files = w.files)
    (hlistening : ∀ id, w'.isListening id =
      ((w.isListening id || decide (id = w.sockets.length)) && decide (l.socket ≠ some id))) :
    Binding l w (.ok ()) { l with socket := some w.sockets.length } w'
  | named {place : Path} {w₁ w' : Host} (hclear : Clearing l.path w (.ok w₁))
    (hnul : Files.hasNul l.path = false) (hlocate : w₁.files.locate false l.path = .ok place)
    (hentry : w₁.files.entryAt place = none) (hplace : place ≠ [])
    (hfiles : w'.files = w₁.files.put place (.socket w.sockets.length))
    (hlistening : ∀ id, w'.isListening id =
      ((w.isListening id || decide (id = w.sockets.length)) && decide (l.socket ≠ some id))) :
    Binding l w (.ok ()) { l with socket := some w.sockets.length } w'

/-- What opening a local socket comes to. -/
theorem of_openLocal {result : Except Fault Nat} (h : w.openLocal path = (result, w')) :
    (∃ fault, result = .error fault ∧ w.SameSockets w') ∨
      result = .ok w.sockets.length ∧ Files.hasNul path = false ∧
        w'.sockets = w.sockets ++ [{ address := none }] ∧
        (path.isEmpty = true ∧ w'.files = w.files ∨
          ∃ place, w.files.locate false path = .ok place ∧ w.files.entryAt place = none ∧
            place ≠ [] ∧ w'.files = w.files.put place (.socket w.sockets.length)) := by
  unfold Host.openLocal at h
  split at h
  · cases h
    exact .inl ⟨_, rfl, .refl _⟩
  · next hcheck =>
    have hnul : Files.hasNul path = false := by
      unfold Host.checkSocketPath at hcheck
      split at hcheck
      · cases hcheck
      · next hnul => simpa using hnul
    split at h
    · next hrefusal =>
      cases h
      exact .inl ⟨_, rfl, Host.same_refusal hrefusal⟩
    · dsimp only [Host.openSocket] at h
      split at h
      · next hempty =>
        cases h
        exact .inr ⟨rfl, hnul, rfl, .inl ⟨hempty, rfl⟩⟩
      · split at h
        · cases h
          exact .inl ⟨_, rfl, .refl _⟩
        · next place hvacant =>
          cases h
          exact .inr ⟨rfl, hnul, rfl, .inr ⟨place, (Files.locate_of_vacant hvacant).1,
            (Files.locate_of_vacant hvacant).2.1, (Files.locate_of_vacant hvacant).2.2, rfl⟩⟩

/-- The sockets that listen once a new one was opened and the old one, if any, was closed. -/
theorem isListening_replaced {w₁ w₂ : Host} (hbefore : w₁.sockets = w.sockets)
    (hopened : w₂.sockets = w₁.sockets ++ [{ address := none }]) (old : Option Nat) (id : Nat) :
    (match old with
      | some old => w₂.closeSocket old
      | none => w₂).isListening id =
      ((w.isListening id || decide (id = w.sockets.length)) && decide (old ≠ some id)) := by
  have hopen : w₂.isListening id = (w.isListening id || decide (id = w.sockets.length)) := by
    rw [← Host.isListening_openSocket w none id]
    unfold Host.isListening
    rw [hopened, hbefore]
    rfl
  cases old with
  | none => simp [hopen]
  | some old =>
    rw [Host.isListening_closeSocket, hopen]
    simp [eq_comm]

theorem of_bind {result : Except Fault Unit} (h : l.bind w = (result, l', w')) :
    Binding l w result l' w' := by
  unfold bind at h
  have hclear := of_clear l.path w
  split at h
  · next fault heq =>
    cases h
    rw [heq] at hclear
    exact .refused hclear
  · next w₁ heq =>
    rw [heq] at hclear
    split at h
    · next fault w₂ hopen =>
      cases h
      obtain ⟨_, -, hsameSockets⟩ | ⟨hok, -⟩ := of_openLocal hopen
      · exact .failed hclear hsameSockets
      · cases hok
    · next id w₂ hopen =>
      obtain ⟨_, herror, -⟩ | ⟨hid, hnul, hsockets, hfiles⟩ := of_openLocal hopen
      · cases herror
      · rw [hclear.sockets_eq] at hid
        cases hid
        cases h
        have hlistening := isListening_replaced hclear.sockets_eq hsockets l.socket
        have hsame : (match l.socket with
            | some old => w₂.closeSocket old
            | none => w₂).files = w₂.files := by
          split
          · exact Host.closeSocket_files _ _
          · rfl
        obtain ⟨hempty, hfiles⟩ | ⟨place, hlocate, hentry, hplace, hfiles⟩ := hfiles
        · refine .unnamed hempty (hsame.trans (hfiles.trans ?_)) hlistening
          rw [hclear.eq_of_isEmpty hempty]
        · rw [hclear.sockets_eq] at hfiles
          exact .named hclear hnul hlocate hentry hplace (hsame.trans hfiles) hlistening

/-- Binding changes sockets only. -/
theorem Binding.unchanged {result : Except Fault Unit} (h : Binding l w result l' w') :
    w.files.SameExceptSockets w'.files := by
  cases h with
  | refused => exact .refl _
  | failed hclear hsameSockets =>
    rw [hsameSockets.files]
    exact hclear.unchanged
  | unnamed _ hfiles =>
    rw [hfiles]
    exact .refl _
  | named hclear _ _ hentry hplace hfiles =>
    rw [hfiles]
    refine hclear.unchanged.trans (.put hplace (fun entry hsome => ?_) _)
    rw [hentry] at hsome
    cases hsome

/-! ## Accepting and closing -/

theorem of_accept {result : Except Fault Nat} (h : l.accept w = some (result, l', w')) :
    l' = l ∧ w.SameSockets w' := by
  unfold accept at h
  split at h
  · cases h
    exact ⟨rfl, .refl _⟩
  · obtain ⟨⟨result', w₁⟩, haccept, heq⟩ := Option.map_eq_some_iff.1 h
    cases heq
    exact ⟨rfl, Host.same_acceptFrom haccept⟩

/-- What closing a listener comes to. -/
inductive Closing (l : LocalListener) (w : Host) : LocalListener → Host → Prop where
  | unbound (hsocket : l.socket = none) : Closing l w l w
  | released {id : Nat} {w' : Host} (hsocket : l.socket = some id)
    (hfiles : w'.files = w.files.without l.path)
    (hlistening : ∀ other, w'.isListening other = (w.isListening other && decide (other ≠ id))) :
    Closing l w { l with socket := none } w'

theorem of_close (h : l.close w = (l', w')) : Closing l w l' w' := by
  unfold close at h
  split at h
  · next hnone =>
    cases h
    exact .unbound hnone
  · next id hsome =>
    cases h
    refine .released hsome ?_ fun other => ?_
    · unfold Files.without
      rw [Host.closeSocket_files]
      cases w.files.remove l.path with
      | ok files => rfl
      | error fault => exact Host.closeSocket_files w id
    · rw [← Host.isListening_closeSocket]
      split <;> rfl

theorem Closing.socket_eq (h : Closing l w l' w') : l'.socket = none := by
  cases h with
  | unbound hsocket => exact hsocket
  | released => rfl

end LocalListener

end TextRelay
