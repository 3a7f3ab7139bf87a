import TextRelay.Proofs.Host.SharedHost

/-!
# Listeners keep other people's files

A listener removes files in three places: before it is bound, when it is closed and when it is given
up. Two things guard them, the type of the file before a bind and the socket that a bound listener
holds. They fit together because the path of a bound listener leads to a place at which only a
socket stands (`IsSocketPath`), and that is kept by all who change sockets only. So no file of
anybody else is ever touched (`other_files_kept`).
-/

namespace TextRelay

/-- A path that leads to a place at which nothing stands but a socket; the empty path leads nowhere.
-/
structure IsSocketPath (path : String) (f : Files) : Prop where
  isText : Files.hasNul path = false
  placed : path.isEmpty = true ∨ ∃ place, f.locate false path = .ok place ∧
    ∀ entry, f.entryAt place = some entry → entry.isSocket = true

namespace IsSocketPath

variable {path : String} {f g : Files}

theorem empty (hpath : path.isEmpty = true) (f : Files) : IsSocketPath path f := by
  refine ⟨?_, .inl hpath⟩
  rw [String.isEmpty_iff.1 hpath]
  rfl

theorem unchanged (h : IsSocketPath path f) (hunchanged : f.SameExceptSockets g) :
    IsSocketPath path g := by
  refine ⟨h.isText, h.placed.imp_right ?_⟩
  rintro ⟨place, hlocate, hsocket⟩
  refine ⟨place, hunchanged.locate hlocate, fun entry hentry => ?_⟩
  -- Anything else at the place would have been there before.
  cases hkind : entry.isSocket with
  | true => rfl
  | false =>
    rw [← hkind]
    exact hsocket entry ((hunchanged place entry hkind).2 hentry)

theorem lookup_ne (h : IsSocketPath path f) {entry : Entry} (hentry : entry.isSocket = false) :
    f.lookup path ≠ .ok entry := by
  intro hlookup
  obtain ⟨-, place, hlocate, hsome⟩ := Files.find_eq_ok_iff.1 hlookup
  obtain hempty | ⟨place', hlocate', hsocket⟩ := h.placed
  · rw [String.isEmpty_iff.1 hempty, Files.lookup_empty] at hlookup
    cases hlookup
  · rw [hlocate] at hlocate'
    cases hlocate'
    rw [hsocket entry hsome] at hentry
    cases hentry

/-- Without its socket, the path leads to nothing, and all else is as it was. -/
theorem without (h : IsSocketPath path f) :
    (f.without path).lookup path = .error (.ofErrno 2) ∧ f.SameExceptSockets (f.without path) := by
  have hkept (hlookup : f.lookup path = .error (.ofErrno 2)) : f.without path = f :=
    Files.without_eq_self fun entry hentry => by rw [hlookup] at hentry; cases hentry
  obtain hempty | ⟨place, hlocate, hsocket⟩ := h.placed
  · rw [String.isEmpty_iff.1 hempty] at hkept ⊢
    rw [hkept f.lookup_empty]
    exact ⟨f.lookup_empty, .refl f⟩
  · cases hentry : f.entryAt place with
    | none =>
      have hlookup := Files.lookup_vacant h.isText hlocate hentry
      rw [hkept hlookup]
      exact ⟨hlookup, .refl f⟩
    | some entry =>
      have hlookup : f.lookup path = .ok entry :=
        Files.find_eq_ok_iff.2 ⟨h.isText, place, hlocate, hentry⟩
      have hne : entry ≠ .directory := by
        rintro rfl
        cases hsocket _ hentry
      obtain ⟨place', hlocate', -, hroot, hwithout⟩ := Files.without_eq_erase hlookup hne
      rw [hlocate] at hlocate'
      cases hlocate'
      have hunchanged : f.SameExceptSockets (f.erase place) := .erase hroot hsocket
      rw [hwithout]
      refine ⟨Files.lookup_vacant h.isText (hunchanged.locate hlocate) ?_, hunchanged⟩
      rw [Files.entryAt_erase f hroot, if_pos rfl]

end IsSocketPath

namespace LocalListener

variable {l l' : LocalListener} {w w' : Host}

theorem Binding.socketPath (h : Binding l w (.ok ()) l' w') : IsSocketPath l'.path w'.files := by
  cases h with
  | unnamed hpath => exact .empty hpath _
  | @named place w₁ _ hclear hnul hlocate hentry hplace hfiles =>
    have hput : w₁.files.SameExceptSockets (w₁.files.put place (.socket w.sockets.length)) :=
      .put hplace (fun entry hsome => by rw [hentry] at hsome; cases hsome) _
    rw [hfiles]
    refine ⟨hnul, .inr ⟨place, hput.locate hlocate, fun entry hsome => ?_⟩⟩
    rw [Files.entryAt_put _ hplace, if_pos rfl] at hsome
    cases hsome
    rfl

/-- Whatever a listener does, it changes sockets only, and its path is settled while it is bound. -/
theorem Acts.socketPath {P : LocalListener → Host → Prop} (h : Acts P l w l' w')
    (hbound : l.socket.isSome = true → IsSocketPath l.path w.files) :
    w.files.SameExceptSockets w'.files ∧
      (l'.socket.isSome = true → IsSocketPath l'.path w'.files) := by
  induction h with
  | done => exact ⟨.refl _, hbound⟩
  | same hsameSockets _ ih =>
    rw [hsameSockets.files] at ih
    exact ih hbound
  | @bind l l₁ l' w w₁ w' result _ hbind _ ih =>
    have hstep : l₁.socket.isSome = true → IsSocketPath l₁.path w₁.files := by
      cases result with
      | ok _ => exact fun _ => hbind.socketPath
      | error fault =>
        -- A bind that failed leaves the listener as it was.
        obtain rfl : l₁ = l := by cases hbind <;> rfl
        exact fun hsome => (hbound hsome).unchanged hbind.unchanged
    exact ⟨hbind.unchanged.trans (ih hstep).1, (ih hstep).2⟩
  | close hclose _ ih =>
    have hstep := ih fun hsome => by rw [hclose.socket_eq] at hsome; cases hsome
    refine ⟨.trans ?_ hstep.1, hstep.2⟩
    cases hclose with
    | unbound => exact .refl _
    | released hsocket hfiles =>
      rw [hfiles]
      exact (hbound (by rw [hsocket]; rfl)).without.2

/-- What stands at a path and is not a socket stops a bind before it did anything. -/
theorem bind_occupied {entry : Entry} (hlookup : w.files.lookup l.path = .ok entry)
    (hentry : entry.isSocket = false) : l.bind w = (.error (occupied l.path), l, w) := by
  have hclear : clear l.path w = .error (occupied l.path) := by
    have hclearing := of_clear l.path w
    revert hclearing
    cases clear l.path w with
    | ok w₁ =>
      rintro (⟨hnone, -⟩ | ⟨hsocket, -⟩)
      · rw [hlookup] at hnone
        cases hnone
      · rw [hlookup] at hsocket
        cases hsocket
        cases hentry
    | error fault =>
      rintro (_ | _ | _ | ⟨hnone, -⟩)
      · rfl
      · rw [hlookup] at hnone
        cases hnone
  rw [bind, hclear]

end LocalListener

namespace ListenerHolder

variable {holder : ListenerHolder} {w : Host}

/-- Whether a bind gets through to the listener: a server binds once. -/
def isReady : ListenerHolder → Bool
  | alone _ => true
  | served s => s.stage = .idle

/-- What the listener answers to a bind that gets through to it. -/
def bindResult (w : Host) : ListenerHolder → Option (Except Fault Unit)
  | alone l => some (l.bind w).1
  | served s => match (s.bind w).1 with
    | .ok () => some (.ok ())
    | .error (.bind _ fault) => some (.error fault)
    | .error _ => none

/-- A bind at a path that is occupied fails, and changes no listener and no host. -/
theorem bind_occupied {entry : Entry} (hlookup : w.files.lookup holder.listener.path = .ok entry)
    (hentry : entry.isSocket = false) (hunbound : holder.listener.socket = none) :
    holder.bindResult w = (if holder.isReady then
      some (.error (LocalListener.occupied holder.listener.path)) else none) ∧
    ∃ holder', holder.perform w .bind = some (some holder', w) ∧
      holder'.listener = holder.listener := by
  have hbind := LocalListener.bind_occupied hlookup hentry
  cases holder with
  | alone l =>
    change l.bind w = _ at hbind
    simp only [bindResult, perform, hbind]
    exact ⟨rfl, alone l, rfl, rfl⟩
  | served s =>
    change Listener.bind s.listener w = _ at hbind
    change s.listener.socket = none at hunbound
    rcases hresult : s.bind w with ⟨result, s', w'⟩
    have hout := Server.of_bind hresult
    simp only [bindResult, perform, hresult]
    cases result with
    | ok _ =>
      cases hout with
      | bound _ hbound =>
        rw [hbind] at hbound
        cases hbound
    | error e =>
      cases hout with
      | bindRefused hstage =>
        refine ⟨?_, served s, rfl, rfl⟩
        rw [if_neg (by simpa [isReady] using hstage)]
      | bindFailed hstage hfailed hclose =>
        rw [hbind] at hfailed
        cases hfailed
        -- The release that follows finds the listener unbound.
        have hkept : LocalListener.close s.listener w = (s.listener, w) := by
          rw [LocalListener.close, hunbound]
        cases hkept.symm.trans hclose
        refine ⟨?_, served _, rfl, rfl⟩
        rw [if_pos (by simpa [isReady] using hstage)]

theorem bound_of_bind (h : holder.bindResult w = some (.ok ())) :
    ∃ holder' w', holder.perform w .bind = some (some holder', w') ∧ holder'.isBound = true ∧
      holder'.listener.path = holder.listener.path := by
  have hlistener {l l' : LocalListener} {w w' : Host} (h : l.bind w = (.ok (), l', w')) :
      l'.socket.isSome = true ∧ l'.path = l.path := by
    cases LocalListener.of_bind h <;> exact ⟨rfl, rfl⟩
  cases holder with
  | alone l =>
    rcases hresult : l.bind w with ⟨result, l', w'⟩
    rw [bindResult, hresult] at h
    cases h
    rw [perform, hresult]
    exact ⟨alone l', w', rfl, hlistener hresult⟩
  | served s =>
    rcases hresult : s.bind w with ⟨result, s', w'⟩
    rw [bindResult, hresult] at h
    have hout := Server.of_bind hresult
    cases result with
    | ok _ =>
      rw [perform, hresult]
      cases hout with
      | bound _ hbound => exact ⟨served _, w', rfl, hlistener hbound⟩
    | error e => cases e <;> cases h

end ListenerHolder

namespace SharedHost

/-- Nothing but sockets was changed, and the path of every bound listener is that of a socket. -/
structure OnlySocketsChanged (f : Files) (t : SharedHost) : Prop where
  unchanged : f.SameExceptSockets t.host.files
  socketPath : ∀ i holder, t.holder? i = some holder → holder.isBound = true →
    IsSocketPath holder.listener.path t.host.files

variable {f : Files} {t : SharedHost}

theorem OnlySocketsChanged.perform (h : OnlySocketsChanged f t) (i : Nat)
    (call : ListenerHolder.Call) : OnlySocketsChanged f (t.perform i call) := by
  obtain hsame | ⟨holder, l', hholder, hacts, hlisteners, hothers⟩ :=
    of_perform (fun _ _ => True) (t := t) (i := i) call fun _ _ _ => trivial
  · rw [hsame]
    exact h
  · obtain ⟨hunchanged, hsocketPath⟩ := hacts.socketPath (h.socketPath i holder hholder)
    refine ⟨h.unchanged.trans hunchanged, fun j other hother hbound => ?_⟩
    by_cases heq : j = i
    · subst heq
      have hlistener := hlisteners other hother
      rw [ListenerHolder.isBound, hlistener] at hbound
      rw [hlistener]
      exact hsocketPath hbound
    · rw [hothers j heq] at hother
      exact (h.socketPath j other hother hbound).unchanged hunchanged

theorem OnlySocketsChanged.elsewhere (h : OnlySocketsChanged f t) (change : Host → Host)
    (hfiles : (change t.host).files = t.host.files) :
    OnlySocketsChanged f { t with host := change t.host } := by
  refine ⟨?_, fun i holder hholder hbound => ?_⟩
  · rw [hfiles]
    exact h.unchanged
  · rw [hfiles]
    exact h.socketPath i holder hholder hbound

theorem OnlySocketsChanged.of_run {w : Host} {holders : List ListenerHolder}
    (hfresh : ∀ holder ∈ holders, holder.isBound = false) {events : List Event}
    (hothers : ∀ change, .elsewhere change ∈ events → ∀ w, (change w).files = w.files) :
    OnlySocketsChanged w.files ((init w holders).run events) := by
  refine run_keeps ⟨.refl _, fun i holder hholder hbound => ?_⟩ ?_
  · rw [hfresh holder (holder?_init hholder)] at hbound
    cases hbound
  · intro before event after heq hbefore
    cases event with
    | call i call => exact hbefore.perform i call
    | elsewhere change => exact hbefore.elsewhere change (hothers change (by simp [heq]) _)

/-- Listeners on their own or in servers, with any calls on them, on a host whose files nobody else
changes. -/
theorem other_files_kept (w : Host) {holders : List ListenerHolder}
    (hfresh : ∀ holder ∈ holders, holder.isBound = false) {events : List Event}
    (hothers : ∀ change, .elsewhere change ∈ events → ∀ w, (change w).files = w.files) :
    -- What is not a socket stays, for all who find it, whether they follow a last link or not.
    (∀ toEnd path entry, w.files.find toEnd path = .ok entry → entry.isSocket = false →
      ((init w holders).run events).host.files.find toEnd path = .ok entry) ∧
    ∀ i holder, ((init w holders).run events).holder? i = some holder →
      let host := ((init w holders).run events).host
      -- At such a path no listener is ever bound, and all it does comes to nothing.
      (∀ entry, w.files.lookup holder.listener.path = .ok entry → entry.isSocket = false →
        holder.isBound = false ∧
        holder.bindResult host = (if holder.isReady then
          some (.error (LocalListener.occupied holder.listener.path)) else none) ∧
        (∃ holder', holder.perform host .bind = some (some holder', host) ∧
          holder'.isBound = false) ∧
        ∀ call, call.isLast = true → ∃ next, holder.perform host call = some (next, host)) ∧
      -- A bind that succeeds leaves the listener bound,
      (holder.bindResult host = some (.ok ()) → ∃ holder' w',
        holder.perform host .bind = some (some holder', w') ∧ holder'.isBound = true ∧
          holder'.listener.path = holder.listener.path) ∧
      -- and once a bound listener is closed or dropped, there is nothing at its path.
      (holder.isBound = true → ∀ call, call.isLast = true → ∃ next w',
        holder.perform host call = some (next, w') ∧
          w'.files.lookup holder.listener.path = .error (.ofErrno 2)) := by
  have honly := OnlySocketsChanged.of_run (w := w) hfresh hothers
  generalize (init w holders).run events = t at honly
  refine ⟨fun toEnd path entry hfind hentry => honly.unchanged.find hfind hentry, ?_⟩
  intro i holder hholder
  refine ⟨fun entry hlookup hentry => ?_, ListenerHolder.bound_of_bind, fun hbound call hlast => ?_⟩
  · have hnow : t.host.files.lookup holder.listener.path = .ok entry :=
      honly.unchanged.find hlookup hentry
    have hunbound : holder.isBound = false := by
      cases hbound : holder.isBound with
      | false => rfl
      | true => exact absurd hnow ((honly.socketPath i holder hholder hbound).lookup_ne hentry)
    have hnone : holder.listener.socket = none := by simpa [ListenerHolder.isBound] using hunbound
    obtain ⟨hresult, holder', hperform, hlistener⟩ := ListenerHolder.bind_occupied hnow hentry hnone
    refine ⟨hunbound, hresult, ⟨holder', hperform, ?_⟩, fun call hlast => ?_⟩
    · rw [ListenerHolder.isBound, hlistener]
      exact hunbound
    · obtain ⟨next, l', w', hlastly, hclosing, -⟩ := holder.perform_last t.host hlast
      cases hclosing with
      | unbound => exact ⟨next, hlastly⟩
      | released hsocket =>
        rw [hnone] at hsocket
        cases hsocket
  · obtain ⟨next, l', w', hlastly, hclosing, -⟩ := holder.perform_last t.host hlast
    refine ⟨next, w', hlastly, ?_⟩
    cases hclosing with
    | unbound hsocket =>
      rw [ListenerHolder.isBound, hsocket] at hbound
      cases hbound
    | released _ hfiles =>
      rw [hfiles]
      exact (honly.socketPath i holder hholder hbound).without.1

/-- Three listeners: one at the path of a file, and two, one of them a server, at one other path. -/
def threeListeners : List ListenerHolder :=
  [.alone { path := "/notes" }, .alone { path := "/r" },
    .served { listener := { path := "/r" }, settings := {} }]

/-- A host with one file. -/
def oneFile : Host := { files := ⟨[(["notes"], .file "to do")]⟩ }

/-- Each listener is bound, the first in vain; it is closed and bound once more. -/
def threeBinds : List Event :=
  [.call 0 .bind, .call 1 .bind, .call 2 .bind, .elsewhere fun w => { w with isOnline := true },
    .call 0 .close, .call 0 .bind]

theorem other_files_kept_by_three :
    ∃ t, t = (init oneFile threeListeners).run threeBinds ∧
      t.host.files.find true "/notes" = .ok (.file "to do") ∧
      (∃ holder, t.holder? 0 = some holder ∧ holder.isBound = false ∧
        holder.bindResult t.host = some (.error (LocalListener.occupied "/notes"))) ∧
      ∃ holder next w', t.holder? 2 = some holder ∧ holder.isBound = true ∧
        holder.perform t.host .drop = some (next, w') ∧
        w'.files.lookup "/r" = .error (.ofErrno 2) := by
  have hfresh : ∀ holder ∈ threeListeners, holder.isBound = false := by decide
  have hothers : ∀ change, .elsewhere change ∈ threeBinds → ∀ w, (change w).files = w.files := by
    simp [threeBinds]
  obtain ⟨hfind, hholders⟩ := other_files_kept oneFile hfresh hothers
  have hfirst : (((init oneFile threeListeners).run threeBinds).holder? 0).map
      (fun holder => (holder.listener.path, holder.isReady)) = some ("/notes", true) := by
    decide +kernel
  have hthird : (((init oneFile threeListeners).run threeBinds).holder? 2).map
      (fun holder => (holder.listener.path, holder.isBound)) = some ("/r", true) := by
    decide +kernel
  obtain ⟨first, hholder₁, hfacts₁⟩ := Option.map_eq_some_iff.1 hfirst
  obtain ⟨third, hholder₃, hfacts₃⟩ := Option.map_eq_some_iff.1 hthird
  obtain ⟨hpath₁, hready⟩ := Prod.mk.inj hfacts₁
  obtain ⟨hpath₃, hbound⟩ := Prod.mk.inj hfacts₃
  obtain ⟨hunbound, hresult, -⟩ :=
    (hholders 0 first hholder₁).1 (.file "to do") (by rw [hpath₁]; rfl) rfl
  obtain ⟨next, w', hdrop, hgone⟩ := (hholders 2 third hholder₃).2.2 hbound .drop rfl
  rw [hready, hpath₁] at hresult
  rw [hpath₃] at hgone
  exact ⟨_, rfl, hfind true "/notes" _ rfl rfl, ⟨first, hholder₁, hunbound, hresult⟩,
    third, next, w', hholder₃, hbound, hdrop, hgone⟩

end SharedHost

end TextRelay
