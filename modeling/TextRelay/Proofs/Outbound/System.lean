import TextRelay.Proofs.Outbound.Account
import TextRelay.Proofs.Session.Moves

/-!
# The outbound relay among its surroundings

The system is an outbound relay with its input, its stream and the signal, and with no fixed order
of what happens next: the signal may be tripped at any moment, and a relay that waits may take input
as well as the cancellation when both are there. `Step` says once what a move can do, and
`run_keeps` carries what every move keeps along a run.

`Outbound.run`, the relay's own loop over a script, is one run of the system among many
(`OutboundSystem.reaches_run`).
-/

namespace TextRelay

/-- An outbound relay with what surrounds it. The signal is the one that the stream can trip. -/
structure OutboundSystem where
  relay : Outbound
  stream : SendScript
  /-- The input events that the relay has not taken. -/
  input : List InputEvent
  /-- Whether the input stays silent after them, instead of ending. -/
  isOpen : Bool
  /-- How many events the relay has taken, the end of the input among them. -/
  taken : Nat := 0
  deriving DecidableEq, Repr

namespace OutboundSystem

/-- What can happen next. -/
inductive Move where
  | trip
  | take
  | cancel
  | check
  | send
  | judge
  deriving DecidableEq, Repr

/-- The signal is tripped, from elsewhere. -/
def tripSignal (d : OutboundSystem) : OutboundSystem :=
  { d with stream := { d.stream with tripped := true } }

/-- One move, unless the relay is not at the point for it. -/
def step (d : OutboundSystem) : Move → Option OutboundSystem
  | .trip => some d.tripSignal
  | .take =>
    match d.relay.phase, d.input with
    | .waiting, event :: rest =>
      some { d with relay := (d.relay.take event).1, input := rest, taken := d.taken + 1 }
    | .waiting, [] =>
      if d.isOpen then none
      else some { d with relay := (d.relay.take .ended).1, taken := d.taken + 1 }
    | _, _ => none
  | .cancel =>
    match d.relay.phase with
    | .waiting => if d.stream.tripped then some { d with relay := d.relay.cancel.1 } else none
    | _ => none
  | .check =>
    match d.relay.phase with
    | .holding _ => some { d with relay := (d.relay.check d.stream.tripped).1 }
    | _ => none
  | .send =>
    match d.relay.offer? with
    | some data =>
      some { d with
        relay := (d.relay.answer (d.stream.send data).1).1
        stream := (d.stream.send data).2 }
    | none => none
  | .judge =>
    match d.relay.phase with
    | .failing _ => some { d with relay := (d.relay.judge d.stream.tripped).1 }
    | _ => none

def run : OutboundSystem → List Move → Option OutboundSystem
  | d, [] => some d
  | d, move :: rest => (d.step move).bind (run · rest)

/-- A relay that is about to start, with all of its input ahead. -/
def start (sentinel : String) (isOpen : Bool) (events : List InputEvent) (s : SendScript) :
    OutboundSystem where
  relay := { sentinel }
  stream := s
  input := events
  isOpen := isOpen

/-- The moves, each with the point at which it is made. -/
inductive Step (d : OutboundSystem) : Move → OutboundSystem → Prop where
  | trips : Step d .trip d.tripSignal
  | takes (event : InputEvent) (rest : List InputEvent) (hphase : d.relay.phase = .waiting) :
    Step d .take { d with
      relay := (d.relay.take event).1, input := rest, taken := d.taken + 1 }
  | cancels (hphase : d.relay.phase = .waiting) :
    Step d .cancel { d with relay := d.relay.cancel.1 }
  | checks (line : String) (hphase : d.relay.phase = .holding line) :
    Step d .check { d with relay := (d.relay.check d.stream.tripped).1 }
  | sends (line : String) (delivery : Delivery) (hphase : d.relay.phase = .sending line delivery) :
    Step d .send { d with
      relay := (d.relay.answer (d.stream.send delivery.remaining).1).1
      stream := (d.stream.send delivery.remaining).2 }
  | judges (fault : Fault) (hphase : d.relay.phase = .failing fault) :
    Step d .judge { d with relay := (d.relay.judge d.stream.tripped).1 }

variable {d d' d₁ : OutboundSystem} {move : Move} {moves : List Move}

theorem of_step (h : d.step move = some d') : Step d move d' := by
  cases move with
  | trip =>
    cases h
    exact .trips
  | take =>
    simp only [step] at h
    split at h
    · next event rest hphase hinput =>
      cases h
      exact .takes event rest hphase
    · next hphase hinput =>
      split at h
      · cases h
      · cases h
        exact .takes .ended d.input hphase
    · cases h
  | cancel =>
    simp only [step] at h
    split at h
    · next hphase =>
      split at h
      · cases h
        exact .cancels hphase
      · cases h
    · cases h
  | check =>
    simp only [step] at h
    split at h
    · next line hphase =>
      cases h
      exact .checks line hphase
    · cases h
  | send =>
    simp only [step] at h
    split at h
    · next data hoffer =>
      obtain ⟨line, delivery, hphase, rfl⟩ := Outbound.phase_of_offer? hoffer
      cases h
      exact .sends line delivery hphase
    · cases h
  | judge =>
    simp only [step] at h
    split at h
    · next fault hphase =>
      cases h
      exact .judges fault hphase
    · cases h

theorem run_append (d : OutboundSystem) (first second : List Move) :
    d.run (first ++ second) = (d.run first).bind (run · second) := by
  induction first generalizing d with
  | nil => rfl
  | cons move rest ih =>
    rw [List.cons_append, run, run, Option.bind_assoc]
    cases d.step move with
    | none => rfl
    | some next => exact ih next

/-- What every move keeps, a run keeps. -/
theorem run_keeps {P : OutboundSystem → Prop}
    (hkeeps : ∀ {d d' : OutboundSystem} {move : Move}, Step d move d' → P d → P d')
    (h : d.run moves = some d') (hd : P d) : P d' := by
  induction moves generalizing d with
  | nil =>
    cases h
    exact hd
  | cons move rest ih =>
    obtain ⟨next, hstep, hrest⟩ := Option.bind_eq_some_iff.1 h
    exact ih hrest (hkeeps (of_step hstep) hd)

end OutboundSystem

/-! ## One call -/

namespace SendScript

variable {s : SendScript} {data : Bytes}

theorem wire_send_ok {n : Nat} (hresult : (s.send data).1 = .ok n) :
    (s.send data).2.wire = s.wire ++ data.take n := by
  unfold send at hresult ⊢
  dsimp only at hresult ⊢
  rw [hresult]

theorem wire_send_error {fault : Fault} (hresult : (s.send data).1 = .error fault) :
    (s.send data).2.wire = s.wire := by
  unfold send at hresult ⊢
  dsimp only at hresult ⊢
  rw [hresult]
  exact List.append_nil s.wire

end SendScript

namespace Outbound

variable {s : SendScript} {r : Outbound} {line : String} {delivery : Delivery}

/-- What a call can make of the line being sent. -/
inductive Outcome (s : SendScript) (r : Outbound) (line : String) (delivery : Delivery)
    (s' : SendScript) (r' : Outbound) : Prop where
  | advances (k : Nat) (hleft : delivery.written + k < delivery.data.length)
    (hwire : s'.wire = s.wire ++ delivery.remaining.take k)
    (hrelay : r' =
      { r with phase := .sending line { delivery with written := delivery.written + k } })
  | completes (hwire : s'.wire = s.wire ++ delivery.remaining) (hrelay : r' = (r.complete line).1)
  | fails (fault : Fault) (hwire : s'.wire = s.wire)
    (hrelay : r' = { r with phase := .failing fault })

theorem outcome (hphase : r.phase = .sending line delivery)
    (hleft : delivery.written < delivery.data.length) :
    Outcome s r line delivery (s.send delivery.remaining).2
      (r.answer (s.send delivery.remaining).1).1 := by
  cases hresult : (s.send delivery.remaining).1 with
  | error fault =>
    have hwire := SendScript.wire_send_error hresult
    by_cases hkind : fault.kind = .interrupted
    · rw [answer_interrupted hphase hleft hkind]
      apply Outcome.advances 0 hleft
      · rw [hwire, List.take_zero, List.append_nil]
      · rw [Nat.add_zero, ← hphase]
    · rw [answer_failed hphase hkind]
      exact .fails fault hwire rfl
  | ok n =>
    have hwire := SendScript.wire_send_ok hresult
    by_cases hn : n = 0
    · subst hn
      rw [answer_nothing hphase]
      exact .fails Delivery.stuck (by rw [hwire, List.take_zero, List.append_nil]) rfl
    · rw [answer_taken hphase (Nat.pos_of_ne_zero hn)]
      by_cases hdone : delivery.data.length ≤ delivery.written + n
      · rw [deliver_done hdone]
        apply Outcome.completes
        · rw [hwire, List.take_of_length_le]
          rw [Delivery.remaining, List.length_drop]
          omega
        · rfl
      · rw [deliver_left (Nat.lt_of_not_le hdone)]
        exact .advances n (Nat.lt_of_not_le hdone) hwire rfl

/-- A line is being sent only while some of it is left, and an exit counts what the relay did. -/
structure Sound (r : Outbound) : Prop where
  sending : ∀ {line : String} {delivery : Delivery}, r.phase = .sending line delivery →
    delivery.data = Line.encode line ∧ delivery.written < delivery.data.length
  counted : ∀ {exit : Exit}, r.exit? = some exit → exit.bytes = r.bytes

namespace Sound

theorem of_idle (hoffer : r.offer? = none) (hexit : r.exit? = none) : r.Sound := by
  constructor
  · intro line delivery hphase
    rw [offer?_of_sending hphase] at hoffer
    cases hoffer
  · intro exit hexit'
    rw [hexit] at hexit'
    cases hexit'

theorem of_sending (hphase : r.phase = .sending line delivery)
    (hdelivery : delivery.data = Line.encode line ∧ delivery.written < delivery.data.length) :
    r.Sound := by
  constructor
  · intro line' delivery' hphase'
    cases hphase.symm.trans hphase'
    exact hdelivery
  · intro exit hexit
    simp [exit?, hphase] at hexit

theorem of_leaving {exit : Exit} (hphase : r.phase = .leaving exit)
    (hbytes : exit.bytes = r.bytes) : r.Sound := by
  constructor
  · intro line delivery hphase'
    cases hphase.symm.trans hphase'
  · intro exit' hexit
    cases (exit?_of_leaving hphase).symm.trans hexit
    exact hbytes

theorem start (sentinel : String) : Sound { sentinel } := .of_idle rfl rfl

theorem leave (r : Outbound) (cause : Cause) : Sound (r.leave cause).1 := .of_leaving rfl rfl

theorem take (r : Outbound) (event : InputEvent) : Sound (r.take event).1 := by
  cases event with
  | line text => exact .of_idle rfl rfl
  | ended => exact .leave r .inputClosed
  | failed fault => exact .leave r (.inputFailed fault.text)

theorem complete (r : Outbound) (line : String) : Sound (r.complete line).1 := by
  by_cases hline : line = r.sentinel
  · rw [complete_sentinel hline]
    exact .of_leaving rfl rfl
  · rw [complete_line hline]
    exact .of_idle rfl rfl

theorem check (hphase : r.phase = .holding line) (shuttingDown : Bool) :
    Sound (r.check shuttingDown).1 := by
  cases shuttingDown with
  | true =>
    simp only [Outbound.check, hphase, if_true]
    exact .leave r .cancelled
  | false =>
    by_cases hempty : Line.encode line = []
    · rw [check_empty hphase hempty]
      exact .complete r line
    · rw [check_line hphase hempty]
      exact .of_sending rfl ⟨rfl, List.length_pos_iff.2 hempty⟩

theorem answer (hr : r.Sound) (hphase : r.phase = .sending line delivery) (s : SendScript) :
    Sound (r.answer (s.send delivery.remaining).1).1 := by
  obtain ⟨hdata, hleft⟩ := hr.sending hphase
  cases outcome (s := s) hphase hleft with
  | advances k hless _ hrelay =>
    rw [hrelay]
    exact .of_sending rfl ⟨hdata, hless⟩
  | completes _ hrelay =>
    rw [hrelay]
    exact .complete r line
  | fails fault _ hrelay =>
    rw [hrelay]
    exact .of_idle rfl rfl

theorem judge {fault : Fault} (hphase : r.phase = .failing fault) (shuttingDown : Bool) :
    Sound (r.judge shuttingDown).1 := by
  simp only [Outbound.judge, hphase]
  exact .leave r _

end Sound

end Outbound

namespace OutboundSystem

variable {d d' d₁ : OutboundSystem} {move : Move} {moves : List Move}

theorem sound_step (h : Step d move d') (hd : d.relay.Sound) : d'.relay.Sound := by
  cases h with
  | trips => exact hd
  | takes event rest hphase => exact .take d.relay event
  | cancels hphase => exact .leave d.relay .cancelled
  | checks line hphase => exact .check hphase d.stream.tripped
  | sends line delivery hphase => exact hd.answer hphase d.stream
  | judges fault hphase => exact .judge hphase d.stream.tripped

/-! ## The relay's own loop -/

/-- Some run leads from one state to another. -/
def Reaches (d d' : OutboundSystem) : Prop := ∃ moves, d.run moves = some d'

theorem Reaches.refl (d : OutboundSystem) : d.Reaches d := ⟨[], rfl⟩

theorem Reaches.single (h : d.step move = some d') : d.Reaches d' :=
  ⟨[move], by simp [run, h]⟩

theorem Reaches.trans (h₁ : d.Reaches d₁) (h₂ : d₁.Reaches d') : d.Reaches d' := by
  obtain ⟨first, hfirst⟩ := h₁
  obtain ⟨second, hsecond⟩ := h₂
  refine ⟨first ++ second, ?_⟩
  rw [run_append, hfirst]
  exact hsecond

/-- The system with another relay and stream. -/
def withRelay (d : OutboundSystem) (r : Outbound) (s : SendScript) : OutboundSystem :=
  { d with relay := r, stream := s }

theorem reaches_check (d : OutboundSystem) :
    d.Reaches (d.withRelay (d.relay.check d.stream.tripped).1 d.stream) := by
  cases hphase : d.relay.phase with
  | holding line =>
    have hstep :
        d.step .check = some (d.withRelay (d.relay.check d.stream.tripped).1 d.stream) := by
      simp only [step, hphase]
      rfl
    exact .single hstep
  | waiting | sending line delivery | failing fault | leaving exit | gone exit =>
    simp only [Outbound.check, hphase]
    exact .refl d

theorem reaches_judge (d : OutboundSystem) :
    d.Reaches (d.withRelay (d.relay.judge d.stream.tripped).1 d.stream) := by
  cases hphase : d.relay.phase with
  | failing fault =>
    have hstep :
        d.step .judge = some (d.withRelay (d.relay.judge d.stream.tripped).1 d.stream) := by
      simp only [step, hphase]
      rfl
    exact .single hstep
  | waiting | holding line | sending line delivery | leaving exit | gone exit =>
    simp only [Outbound.judge, hphase]
    exact .refl d

theorem reaches_push (d : OutboundSystem) :
    d.Reaches (d.withRelay (d.relay.push d.stream).2.1 (d.relay.push d.stream).1) := by
  generalize hcount : d.stream.steps.length = count
  induction count using Nat.strongRecOn generalizing d with
  | ind count ih =>
    subst hcount
    cases hoffer : d.relay.offer? with
    | none =>
      rw [Outbound.push_of_idle hoffer]
      exact .refl d
    | some data =>
      obtain ⟨line, delivery, hphase, rfl⟩ := Outbound.phase_of_offer? hoffer
      have hstep : d.step .send =
          some (d.withRelay (d.relay.answer (d.stream.send delivery.remaining).1).1
            (d.stream.send delivery.remaining).2) := by
        simp only [step, hoffer]
        rfl
      by_cases hsteps : d.stream.steps = []
      · obtain ⟨hstream, hrelay⟩ := Outbound.push_last hphase hsteps
        rw [hstream, hrelay]
        exact .single hstep
      · obtain ⟨hstream, hrelay⟩ := Outbound.push_more hphase hsteps
        rw [hstream, hrelay]
        exact (Reaches.single hstep).trans
          (ih _ (d.stream.send_steps_lt delivery.remaining hsteps) _ rfl)

/-- One event, from the point where it was taken. -/
theorem reaches_event (d : OutboundSystem) (event : InputEvent) :
    (d.withRelay (d.relay.take event).1 d.stream).Reaches
      (d.withRelay (d.relay.runEvent d.stream event).2.1 (d.relay.runEvent d.stream event).1) :=
  ((reaches_check _).trans (reaches_push _)).trans (reaches_judge _)

/-- A relay that is not waiting does not go on, and one that waits on a tripped signal stops. -/
theorem reaches_halt (hhalts : ¬ (d.relay.phase = .waiting ∧ d.stream.tripped = false))
    (events : List InputEvent) :
    ∃ d', d.Reaches d' ∧ d'.relay = (d.relay.run d.stream d.isOpen events).2.1 ∧
      d'.stream = (d.relay.run d.stream d.isOpen events).1 := by
  by_cases hphase : d.relay.phase = .waiting
  · have htripped : d.stream.tripped = true := by simpa [hphase] using hhalts
    have hstep : d.step .cancel = some (d.withRelay d.relay.cancel.1 d.stream) := by
      simp only [step, hphase, htripped, if_true]
      rfl
    refine ⟨d.withRelay d.relay.cancel.1 d.stream, .single hstep, ?_, ?_⟩
    · cases events <;> simp [Outbound.run, hphase, htripped, withRelay]
    · cases events <;> simp [Outbound.run, hphase, htripped, withRelay]
  · rw [Outbound.run_stopped hphase]
    exact ⟨d, .refl d, rfl, rfl⟩

/-- The relay's own loop is one run of the system. -/
theorem reaches_run (d : OutboundSystem) :
    ∃ d', d.Reaches d' ∧ d'.relay = (d.relay.run d.stream d.isOpen d.input).2.1 ∧
      d'.stream = (d.relay.run d.stream d.isOpen d.input).1 := by
  generalize hinput : d.input = events
  induction events generalizing d with
  | nil =>
    by_cases hgoes : d.relay.phase = .waiting ∧ d.stream.tripped = false
    · obtain ⟨hphase, htripped⟩ := hgoes
      cases hopen : d.isOpen with
      | true =>
        refine ⟨d, .refl d, ?_, ?_⟩
        · simp [Outbound.run, hphase, htripped]
        · simp [Outbound.run, hphase, htripped]
      | false =>
        have hrun : d.relay.run d.stream false [] = d.relay.runEvent d.stream .ended := by
          simp [Outbound.run, hphase, htripped]
        have hstep : d.step .take =
            some ({ d with taken := d.taken + 1 }.withRelay (d.relay.take .ended).1 d.stream) := by
          simp [step, hphase, hinput, hopen, withRelay]
        rw [hrun]
        exact ⟨_,
          (Reaches.single hstep).trans (reaches_event { d with taken := d.taken + 1 } .ended),
          rfl, rfl⟩
    · exact reaches_halt hgoes []
  | cons event rest ih =>
    by_cases hgoes : d.relay.phase = .waiting ∧ d.stream.tripped = false
    · obtain ⟨hphase, htripped⟩ := hgoes
      obtain ⟨hstream, hrelay⟩ := Outbound.run_cons hphase htripped d.isOpen event rest
      have hstep : d.step .take = some ({ d with input := rest, taken := d.taken + 1 }.withRelay
          (d.relay.take event).1 d.stream) := by
        simp only [step, hphase, hinput]
        rfl
      obtain ⟨d', hreaches, hd'⟩ := ih ({ d with input := rest, taken := d.taken + 1 }.withRelay
        (d.relay.runEvent d.stream event).2.1 (d.relay.runEvent d.stream event).1) rfl
      rw [hstream, hrelay]
      have hevent := reaches_event { d with input := rest, taken := d.taken + 1 } event
      exact ⟨d', ((Reaches.single hstep).trans hevent).trans hreaches, hd'⟩
    · exact reaches_halt hgoes (event :: rest)

end OutboundSystem

end TextRelay
