import TextRelay.Proofs.Host.Naming
import TextRelay.Proofs.Server.Calls

/-!
# Many listeners on one host

Any number of local listeners share the files of a host, each on its own or in the hands of a
server, with equal paths or different ones. A call on one of them is a few acts of its listener
(`ListenerHolder.of_perform`), so what every act keeps is kept by every call, and by every run.
-/

namespace TextRelay

/-! ## Starting a session leaves files and sockets alone -/

theorem Session.same_start {settings : Settings} {source : Source} {sink : Sink} {stream : Nat}
    {w w' : Host} {result : Except RelayError Session}
    (h : Session.start settings source sink stream w = (result, w')) : w.SameSockets w' := by
  have hclone {w w' : Host} {result} (h : Medium.clone w stream = (result, w')) :
      w.SameSockets w' := by
    have hsameSockets := Host.same_clone w stream
    rwa [show Host.clone w stream = (result, w') from h] at hsameSockets
  have hdrop (w : Host) (h : Nat) : w.SameSockets (Medium.drop w h) := Host.same_drop w h
  unfold Session.start at h
  split at h
  · cases h
    exact hdrop w stream
  · split at h
    · next w₁ hfirst =>
      cases h
      exact (hclone hfirst).trans (hdrop w₁ stream)
    · next reader w₁ hfirst =>
      split at h
      · next w₂ hsecond =>
        cases h
        have hcloned := (hclone hfirst).trans (hclone hsecond)
        exact hcloned.trans ((hdrop w₂ reader).trans (hdrop _ stream))
      · next writer w₂ hsecond =>
        cases h
        exact (hclone hfirst).trans (hclone hsecond)

/-! ## Holders -/

/-- A local listener, on its own or in the hands of a server. -/
inductive ListenerHolder where
  | alone (l : LocalListener)
  | served (s : Server LocalListener)

namespace ListenerHolder

def listener : ListenerHolder → LocalListener
  | alone l => l
  | served s => s.listener

def isBound (holder : ListenerHolder) : Bool := holder.listener.socket.isSome

inductive Call where
  | bind
  | accept (source : Source) (sink : Sink)
  /-- Closes the listener; a server is finished. -/
  | close
  | drop

/-- Whether the call makes the holder let go of its listener. -/
def Call.isLast : Call → Bool
  | close | drop => true
  | _ => false

/-- Makes a call on a holder, which is gone after a drop. A call that blocks has no result. -/
def perform (w : Host) : ListenerHolder → Call → Option (Option ListenerHolder × Host)
  | alone l, .bind => let (_, l, w) := l.bind w; some (alone l, w)
  | alone l, .accept _ _ => (l.accept w).map fun (_, l, w) => (some (alone l), w)
  | alone l, .close => let (l, w) := l.close w; some (alone l, w)
  | alone l, .drop => let (_, w) := l.close w; some (none, w)
  | served s, .bind => let (_, s, w) := s.bind w; some (served s, w)
  | served s, .accept source sink =>
    (s.accept source sink w).map fun (_, s, w) => (some (served s), w)
  | served s, .close => let (s, w) := s.finish w; some (served s, w)
  | served s, .drop => let (_, w) := s.drop w; some (none, w)

end ListenerHolder

/-- What a listener does in one call: any acts, with every bind made under a condition. -/
inductive LocalListener.Acts (P : LocalListener → Host → Prop) :
    LocalListener → Host → LocalListener → Host → Prop where
  | done {l : LocalListener} {w : Host} : Acts P l w l w
  | same {l l' : LocalListener} {w w₁ w' : Host} (h : w.SameSockets w₁) (rest : Acts P l w₁ l' w') :
    Acts P l w l' w'
  | bind {l l₁ l' : LocalListener} {w w₁ w' : Host} {result : Except Fault Unit} (hp : P l w)
    (h : Binding l w result l₁ w₁) (rest : Acts P l₁ w₁ l' w') : Acts P l w l' w'
  | close {l l₁ l' : LocalListener} {w w₁ w' : Host} (h : Closing l w l₁ w₁)
    (rest : Acts P l₁ w₁ l' w') : Acts P l w l' w'

namespace ListenerHolder

open LocalListener (Acts)

variable {P : LocalListener → Host → Prop}

/-- A call on a server is made of acts of its listener. -/
theorem of_outcome {s s' : Server LocalListener} {w w' : Host} {call : Server.Call Host}
    {answer : Server.Answer} (hout : Server.Outcome s w call answer s' w')
    (hbind : call = .bind → P s.listener w)
    (hstarts : ∀ start, call = .accept start → ∀ {stream w w' result},
      start.run s.settings stream w = (result, w') → w.SameSockets w') :
    Acts P s.listener w s'.listener w' := by
  cases hout with
  | bindRefused => exact .done
  | acceptRefused => exact .done
  | bound _ h => exact .bind (hbind rfl) (LocalListener.of_bind h) .done
  | bindFailed _ h hclose =>
    exact .bind (hbind rfl) (LocalListener.of_bind h) (.close (LocalListener.of_close hclose) .done)
  | acceptFailed _ h hclose =>
    obtain ⟨rfl, hsameSockets⟩ := LocalListener.of_accept h
    exact .same hsameSockets (.close (LocalListener.of_close hclose) .done)
  | startFailed _ h hstart hclose =>
    obtain ⟨rfl, hsameSockets⟩ := LocalListener.of_accept h
    have hstarted := hsameSockets.trans (hstarts _ rfl hstart)
    exact .same hstarted (.close (LocalListener.of_close hclose) .done)
  | began _ h hstart =>
    obtain ⟨rfl, hsameSockets⟩ := LocalListener.of_accept h
    exact .same (hsameSockets.trans (hstarts _ rfl hstart)) .done
  | finished hclose => exact .close (LocalListener.of_close hclose) .done

/-- A holder that is closed or dropped closes its listener, and never blocks. -/
theorem perform_last (holder : ListenerHolder) (w : Host) {call : Call}
    (hlast : call.isLast = true) : ∃ next l' w', holder.perform w call = some (next, w') ∧
      LocalListener.Closing holder.listener w l' w' ∧ ∀ holder' ∈ next, holder'.listener = l' := by
  rcases hclose : Listener.close holder.listener w with ⟨l', w'⟩
  have hclosing := LocalListener.of_close hclose
  cases holder with
  | alone l =>
    replace hclose : l.close w = (l', w') := hclose
    cases call with
    | close =>
      exact ⟨some (alone l'), l', w', by rw [perform, hclose], hclosing, by rintro _ ⟨⟩; rfl⟩
    | drop => exact ⟨none, l', w', by rw [perform, hclose], hclosing, by rintro _ ⟨⟩⟩
    | _ => cases hlast
  | served s =>
    cases call with
    | close =>
      obtain ⟨log, hfinish⟩ := Server.finish_eq hclose
      exact ⟨some (served _), l', w', by rw [perform, hfinish], hclosing, by rintro _ ⟨⟩; rfl⟩
    | drop =>
      exact ⟨none, l', w', by rw [perform, Server.drop_eq hclose], hclosing, by rintro _ ⟨⟩⟩
    | _ => cases hlast

theorem of_perform {holder : ListenerHolder} {w w' : Host} {call : Call}
    {next : Option ListenerHolder}
    (h : holder.perform w call = some (next, w')) (hbind : call = .bind → P holder.listener w) :
    ∃ l', Acts P holder.listener w l' w' ∧ ∀ holder' ∈ next, holder'.listener = l' := by
  by_cases hlast : call.isLast = true
  · obtain ⟨next', l', w₁, hperform, hclosing, hnext⟩ := perform_last holder w hlast
    rw [hperform] at h
    cases h
    exact ⟨l', .close hclosing .done, hnext⟩
  · cases holder with
    | alone l =>
      cases call with
      | bind =>
        rcases hresult : l.bind w with ⟨result, l', w₁⟩
        simp only [perform, hresult] at h
        cases h
        exact ⟨l', .bind (hbind rfl) (LocalListener.of_bind hresult) .done, by rintro _ ⟨⟩; rfl⟩
      | accept source sink =>
        obtain ⟨⟨result, l', w₁⟩, haccept, heq⟩ := Option.map_eq_some_iff.1 h
        cases heq
        obtain ⟨rfl, hsameSockets⟩ := LocalListener.of_accept haccept
        exact ⟨l', .same hsameSockets .done, by rintro _ ⟨⟩; rfl⟩
      | _ => exact absurd rfl hlast
    | served s =>
      cases call with
      | bind =>
        rcases hresult : s.bind w with ⟨result, s', w₁⟩
        simp only [perform, hresult] at h
        cases h
        refine ⟨s'.listener, of_outcome (Server.of_bind hresult) (fun _ => hbind rfl) ?_, ?_⟩
        · rintro _ ⟨⟩
        · rintro _ ⟨⟩
          rfl
      | accept source sink =>
        obtain ⟨⟨result, s', w₁⟩, haccept, heq⟩ := Option.map_eq_some_iff.1 h
        cases heq
        have hout : Server.Outcome s w (.accept (.ofSession source sink)) (.ofAccept result) s'
            w' := Server.of_acceptBy haccept
        refine ⟨s'.listener, of_outcome hout (fun heq => by cases heq) ?_, ?_⟩
        · rintro _ ⟨⟩ stream w₂ w₃ result hstart
          exact Session.same_start hstart
        · rintro _ ⟨⟩
          rfl
      | _ => exact absurd rfl hlast

end ListenerHolder

/-! ## Shared hosts -/

/-- A host with the holders of its listeners. Those that were dropped leave an empty place. -/
structure SharedHost where
  host : Host
  holders : List (Option ListenerHolder)

namespace SharedHost

/-- What can happen next: a call on a holder, or a change of the host by somebody else. -/
inductive Event where
  | call (i : Nat) (call : ListenerHolder.Call)
  | elsewhere (change : Host → Host)

def init (w : Host) (holders : List ListenerHolder) : SharedHost := ⟨w, holders.map some⟩

/-- Makes a call on the holder in a place. A call on nobody, or one that blocks, does nothing. -/
def perform (t : SharedHost) (i : Nat) (call : ListenerHolder.Call) : SharedHost :=
  match t.holders[i]? with
  | some (some holder) => match holder.perform t.host call with
    | some (next, w) => ⟨w, t.holders.set i next⟩
    | none => t
  | _ => t

def step (t : SharedHost) : Event → SharedHost
  | .call i call => t.perform i call
  | .elsewhere change => { t with host := change t.host }

def run (t : SharedHost) (events : List Event) : SharedHost := events.foldl step t

def holder? (t : SharedHost) (i : Nat) : Option ListenerHolder := (t.holders[i]?).join

variable {t : SharedHost} {i j : Nat}

/-- A call changes one place, by acts of the listener in it. -/
theorem of_perform (P : LocalListener → Host → Prop) (call : ListenerHolder.Call)
    (hbind : call = .bind → ∀ holder, t.holder? i = some holder → P holder.listener t.host) :
    t.perform i call = t ∨ ∃ holder l', t.holder? i = some holder ∧
      LocalListener.Acts P holder.listener t.host l' (t.perform i call).host ∧
      (∀ holder', (t.perform i call).holder? i = some holder' → holder'.listener = l') ∧
      ∀ j, j ≠ i → (t.perform i call).holder? j = t.holder? j := by
  unfold perform
  split
  · next holder hget =>
    have hholder : t.holder? i = some holder := by rw [holder?, hget]; rfl
    split
    · next next w hperform =>
      obtain ⟨l', hacts, hnext⟩ := ListenerHolder.of_perform hperform
        fun heq => hbind heq holder hholder
      refine .inr ⟨holder, l', hholder, hacts, ?_, ?_⟩
      · intro holder' hholder'
        have hlt : i < t.holders.length := (List.getElem?_eq_some_iff.1 hget).1
        refine hnext holder' ?_
        simpa [holder?, hlt] using hholder'
      · intro j hj
        simp only [holder?, List.getElem?_set_ne (Ne.symm hj)]
    · exact .inl rfl
  · exact .inl rfl

theorem holder?_init {w : Host} {holders : List ListenerHolder} {holder : ListenerHolder}
    (h : (init w holders).holder? i = some holder) : holder ∈ holders := by
  rw [holder?, init, List.getElem?_map] at h
  cases hget : holders[i]? with
  | none =>
    rw [hget] at h
    cases h
  | some first =>
    rw [hget] at h
    cases h
    exact List.mem_of_getElem? hget

/-- What every event of a run keeps is kept by the run. -/
theorem run_keeps {Inv : SharedHost → Prop} {events : List Event} (h : Inv t)
    (hstep : ∀ before event after, events = before ++ event :: after →
      Inv (t.run before) → Inv ((t.run before).step event)) : Inv (t.run events) := by
  induction events generalizing t with
  | nil => exact h
  | cons event rest ih =>
    refine ih (t := t.step event) (hstep [] event rest rfl h) ?_
    intro before next after heq hbefore
    exact hstep (event :: before) next after (by rw [heq]; rfl) hbefore

end SharedHost

end TextRelay
