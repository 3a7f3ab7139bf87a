import TextRelay.Proofs.Session.Sending

/-!
# What the outbound relay does with a scripted stream

A script alone decides how far some bytes get over a stream: `SendScript.sendResult` reads that off
the script, without a relay, and `SendScript.sendLines?` reads off what is left of the script once
some lines have gone out in full. `Outbound.push_sendResult` is the loop over the calls of one line,
and `Outbound.run_account` the loop over the lines: while nothing trips the signal, the lines that
are out in full, a strict prefix of one more, the count and the cause are what the events and the
script say.
-/

namespace TextRelay

namespace SendScript

/-! ## Scripts without a relay -/

/-- How far some bytes get over a stream: how many are taken, the fault that stops them, if one
does, and what is left of the script. -/
structure SendResult where
  taken : Nat
  fault? : Option Fault
  rest : List SendStep
  deriving DecidableEq, Repr

/-- The result where so many bytes were taken before. -/
def SendResult.after (p : SendResult) (n : Nat) : SendResult := { p with taken := n + p.taken }

/-- What comes of sending so many bytes. No bytes need no call, a call that takes nothing is a
fault, and an interrupted call is made again. -/
def sendResult : List SendStep → Nat → SendResult
  | steps, 0 => ⟨0, none, steps⟩
  | [], size + 1 => ⟨size + 1, none, []⟩
  | .accept 0 :: rest, _ + 1 => ⟨0, some Delivery.stuck, rest⟩
  | .accept (n + 1) :: rest, size + 1 =>
    (sendResult rest (size - n)).after (min (n + 1) (size + 1))
  | .fail fault :: rest, size + 1 =>
    if fault.kind = .interrupted then sendResult rest (size + 1) else ⟨0, some fault, rest⟩
  | .trip :: rest, size + 1 => sendResult rest (size + 1)

/-- What is left of a script once some lines have gone out in full, if they all do. -/
def sendLines? : List SendStep → List String → Option (List SendStep)
  | steps, [] => some steps
  | steps, line :: later =>
    let p := sendResult steps (Line.encode line).length
    if p.fault?.isSome then none else sendLines? p.rest later

@[simp] theorem sendResult_zero (steps : List SendStep) :
    sendResult steps 0 = ⟨0, none, steps⟩ := by
  cases steps with
  | nil => rfl
  | cons step rest => cases step <;> rfl

/-- All bytes are taken, unless a fault stops them short. -/
theorem taken_sendResult (steps : List SendStep) (size : Nat) :
    ((sendResult steps size).fault? = none → (sendResult steps size).taken = size) ∧
      ((sendResult steps size).fault?.isSome → (sendResult steps size).taken < size) := by
  fun_induction sendResult steps size with
  | case1 steps => simp
  | case2 size => simp
  | case3 rest size => simp
  | case4 n rest size ih =>
    obtain ⟨hall, hless⟩ := ih
    constructor
    · intro hnone
      have htaken := hall hnone
      simp only [SendResult.after]
      omega
    · intro hsome
      have htaken := hless hsome
      simp only [SendResult.after]
      omega
  | case5 fault rest size hinterrupted ih => exact ih
  | case6 fault rest size hinterrupted => simp
  | case7 rest size ih => exact ih

/-- Nothing has tripped the signal, and nothing in the script will. -/
structure NeverTrips (s : SendScript) : Prop where
  tripped : s.tripped = false
  steps : .trip ∉ s.steps

variable {s : SendScript}

theorem NeverTrips.tail {step : SendStep} {rest : List SendStep} (hs : s.NeverTrips)
    (hsteps : s.steps = step :: rest) : .trip ∉ rest := by
  intro htrip
  apply hs.steps
  rw [hsteps]
  exact List.mem_cons_of_mem step htrip

theorem send_nil (hsteps : s.steps = []) (data : Bytes) :
    s.send data = (.ok data.length,
      { s with wire := s.wire ++ data, offered := s.offered ++ [data.length] }) := by
  simp [send, answer, hsteps]

theorem send_accept {n : Nat} {rest : List SendStep} (hsteps : s.steps = .accept n :: rest)
    (data : Bytes) :
    s.send data = (.ok (min n data.length),
      { s with
        steps := rest
        wire := s.wire ++ data.take n
        offered := s.offered ++ [data.length] }) := by
  simp [send, answer, hsteps, List.take_eq_take_min]

theorem send_fail {fault : Fault} {rest : List SendStep} (hsteps : s.steps = .fail fault :: rest)
    (data : Bytes) :
    s.send data = (.error fault,
      { s with steps := rest, offered := s.offered ++ [data.length] }) := by
  simp [send, answer, hsteps]

end SendScript

namespace Outbound

variable {s : SendScript} {r : Outbound} {line : String} {d : Delivery}

/-! ## The calls of one line -/

/-- The calls of a line are over: it is out, or a fault has stopped it. -/
def finishLine (r : Outbound) (line : String) : Option Fault → Outbound
  | none => (r.complete line).1
  | some fault => { r with phase := .failing fault }

theorem offer?_of_sending (hphase : r.phase = .sending line d) : r.offer? = some d.remaining := by
  simp [offer?, hphase]

theorem push_of_idle (hidle : r.offer? = none) (s : SendScript) : r.push s = (s, r, []) := by
  rw [push, hidle]

theorem push_last (hphase : r.phase = .sending line d) (hsteps : s.steps = []) :
    (r.push s).1 = (s.send d.remaining).2 ∧
      (r.push s).2.1 = (r.answer (s.send d.remaining).1).1 := by
  rw [push, offer?_of_sending hphase]
  simp only [dif_pos hsteps, and_self]

theorem push_more (hphase : r.phase = .sending line d) (hsteps : s.steps ≠ []) :
    (r.push s).1 = ((r.answer (s.send d.remaining).1).1.push (s.send d.remaining).2).1 ∧
      (r.push s).2.1 =
        ((r.answer (s.send d.remaining).1).1.push (s.send d.remaining).2).2.1 := by
  rw [push, offer?_of_sending hphase]
  simp only [dif_neg hsteps, and_self]

theorem deliver_done (hdone : d.data.length ≤ d.written) :
    (r.deliver line d).1 = r.finishLine line none := by
  simp [deliver, Delivery.isDone, hdone, finishLine]

theorem deliver_left (hleft : d.written < d.data.length) :
    (r.deliver line d).1 = { r with phase := .sending line d } := by
  simp [deliver, Delivery.isDone, Nat.not_le.2 hleft]

theorem answer_taken (hphase : r.phase = .sending line d) {n : Nat} (hn : 0 < n) :
    (r.answer (.ok n)).1 = (r.deliver line { d with written := d.written + n }).1 := by
  obtain ⟨m, rfl⟩ := Nat.exists_eq_succ_of_ne_zero (Nat.pos_iff_ne_zero.1 hn)
  simp [answer, hphase, Delivery.feed]

theorem answer_nothing (hphase : r.phase = .sending line d) :
    (r.answer (.ok 0)).1 = r.finishLine line (some Delivery.stuck) := by
  simp [answer, hphase, Delivery.feed, finishLine]

theorem answer_interrupted (hphase : r.phase = .sending line d)
    (hleft : d.written < d.data.length) {fault : Fault} (hkind : fault.kind = .interrupted) :
    (r.answer (.error fault)).1 = r := by
  have hfeed : d.feed (.error fault) = .ok d := if_pos hkind
  have hagain : (r.answer (.error fault)).1 = (r.deliver line d).1 := by
    simp [answer, hphase, hfeed]
  rw [hagain, deliver_left hleft, ← hphase]

theorem answer_failed (hphase : r.phase = .sending line d) {fault : Fault}
    (hkind : fault.kind ≠ .interrupted) :
    (r.answer (.error fault)).1 = r.finishLine line (some fault) := by
  simp [answer, hphase, Delivery.feed, hkind, finishLine]

theorem offer?_finishLine (r : Outbound) (line : String) (fault? : Option Fault) :
    (r.finishLine line fault?).offer? = none := by
  cases fault? with
  | none =>
    by_cases hline : line = r.sentinel
    · simp [finishLine, complete_sentinel hline, offer?]
    · simp [finishLine, complete_line hline, offer?]
  | some fault => rfl

@[simp] theorem finishLine_phase (r : Outbound) (phase : Phase) (line : String)
    (fault? : Option Fault) :
    { r with phase := phase }.finishLine line fault? = r.finishLine line fault? := by
  cases fault? <;> rfl

/-- One call of a line, where all of them come to `p`: the line is finished, or the call takes `k`
bytes of it and the rest goes on after these. -/
inductive Call (s : SendScript) (r : Outbound) (line : String) (d : Delivery)
    (p : SendScript.SendResult) (s' : SendScript) (r' : Outbound) : Prop where
  | finishes (hrest : s'.steps = p.rest) (hwire : s'.wire = s.wire ++ d.remaining.take p.taken)
    (hrelay : r' = r.finishLine line p.fault?)
  | advances (k : Nat) (hsteps : s.steps ≠ []) (hleft : d.written + k < d.data.length)
    (hwire : s'.wire = s.wire ++ d.remaining.take k)
    (hrelay : r' = { r with phase := .sending line { d with written := d.written + k } })
    (hresult : p = (SendScript.sendResult s'.steps (d.remaining.drop k).length).after k)

theorem call (hs : s.NeverTrips) (hphase : r.phase = .sending line d)
    (hleft : d.written < d.data.length) :
    (s.send d.remaining).2.NeverTrips ∧
      Call s r line d (SendScript.sendResult s.steps d.remaining.length) (s.send d.remaining).2
        (r.answer (s.send d.remaining).1).1 := by
  have hlength : d.remaining.length = d.data.length - d.written := List.length_drop
  obtain ⟨size, hsize⟩ : ∃ size, d.remaining.length = size + 1 :=
    ⟨d.remaining.length - 1, by omega⟩
  match hsteps : s.steps with
  | [] =>
    rw [SendScript.send_nil hsteps, hsize, answer_taken hphase (by omega),
      deliver_done (by simp only; omega)]
    refine ⟨⟨hs.tripped, hs.steps⟩, .finishes hsteps ?_ rfl⟩
    simp only [SendScript.sendResult, ← hsize, List.take_length]
  | .accept 0 :: rest =>
    rw [SendScript.send_accept hsteps, Nat.zero_min, answer_nothing hphase, hsize]
    exact ⟨⟨hs.tripped, hs.tail hsteps⟩, .finishes rfl rfl rfl⟩
  | .accept (n + 1) :: rest =>
    rw [SendScript.send_accept hsteps, answer_taken hphase (by omega)]
    refine ⟨⟨hs.tripped, hs.tail hsteps⟩, ?_⟩
    by_cases hall : size ≤ n
    · rw [deliver_done (by simp only; omega), hsize, SendScript.sendResult,
        Nat.sub_eq_zero_of_le hall, SendScript.sendResult_zero]
      refine .finishes rfl ?_ rfl
      simp only [SendScript.SendResult.after, Nat.add_zero, ← hsize, ← List.take_eq_take_min]
    · have hmin : min (n + 1) (size + 1) = n + 1 := by omega
      rw [deliver_left (by simp only; omega), hsize, hmin]
      refine .advances (n + 1) (by simp [hsteps]) (by omega) rfl rfl ?_
      rw [List.length_drop, hsize, SendScript.sendResult, hmin, Nat.add_sub_add_right]
  | .fail fault :: rest =>
    rw [SendScript.send_fail hsteps]
    refine ⟨⟨hs.tripped, hs.tail hsteps⟩, ?_⟩
    by_cases hkind : fault.kind = .interrupted
    · rw [answer_interrupted hphase hleft hkind]
      refine .advances 0 (by simp [hsteps]) hleft (List.append_nil _).symm ?_ ?_
      · rw [Nat.add_zero, ← hphase]
      · rw [List.drop_zero, hsize, SendScript.sendResult, if_pos hkind]
        simp [SendScript.SendResult.after]
    · rw [answer_failed hphase hkind, hsize, SendScript.sendResult, if_neg hkind]
      exact .finishes rfl (List.append_nil _).symm rfl
  | .trip :: rest => exact absurd (hsteps ▸ List.mem_cons_self) hs.steps

/-- The calls of a line follow the script: they take what `sendResult` says, and the line is out, or
stopped by the fault that it names. -/
theorem push_sendResult (hs : s.NeverTrips) (hphase : r.phase = .sending line d)
    (hleft : d.written < d.data.length) :
    (r.push s).1.NeverTrips ∧
      (r.push s).1.steps = (SendScript.sendResult s.steps d.remaining.length).rest ∧
      (r.push s).1.wire =
        s.wire ++ d.remaining.take (SendScript.sendResult s.steps d.remaining.length).taken ∧
      (r.push s).2.1 =
        r.finishLine line (SendScript.sendResult s.steps d.remaining.length).fault? := by
  generalize hcount : s.steps.length = count
  induction count using Nat.strongRecOn generalizing s r d with
  | ind count ih =>
    subst hcount
    obtain ⟨hneverTrips, hcall⟩ := call hs hphase hleft
    by_cases hsteps : s.steps = []
    · obtain ⟨hstream, hrelay⟩ := push_last hphase hsteps
      rw [hstream, hrelay]
      cases hcall with
      | finishes hrest hwire hfinish => exact ⟨hneverTrips, hrest, hwire, hfinish⟩
      | advances k hmore => exact absurd hsteps hmore
    · obtain ⟨hstream, hrelay⟩ := push_more hphase hsteps
      rw [hstream, hrelay]
      cases hcall with
      | finishes hrest hwire hfinish =>
        rw [hfinish, push_of_idle (offer?_finishLine r line _)]
        exact ⟨hneverTrips, hrest, hwire, rfl⟩
      | advances k _ hless hwire hnext hresult =>
        have hdrop : Delivery.remaining { d with written := d.written + k } =
            d.remaining.drop k := by
          simp only [Delivery.remaining, List.drop_drop]
        obtain ⟨hnever', hrest, hwire', hfinish⟩ := ih _ (s.send_steps_lt d.remaining hsteps)
          hneverTrips (congrArg Outbound.phase hnext) hless rfl
        rw [hdrop] at hrest hwire' hfinish
        rw [hresult]
        refine ⟨hnever', hrest, ?_, ?_⟩
        · rw [hwire', hwire, List.append_assoc, ← List.take_add]
          rfl
        · rw [hfinish, hnext, finishLine_phase]
          rfl

/-! ## One event -/

theorem judge_finishLine (r : Outbound) (line : String) :
    ((r.finishLine line none).judge false).1 = (r.complete line).1 := by
  by_cases hline : line = r.sentinel
  · simp [finishLine, complete_sentinel hline, judge]
  · simp [finishLine, complete_line hline, judge]

theorem judge_stopped (r : Outbound) (line : String) (fault : Fault) :
    ((r.finishLine line (some fault)).judge false).1 = { r with
      phase := .leaving
        ⟨.outbound, .transport fault.kind (.classify fault.kind false), r.bytes⟩ } := rfl

/-- An event that ends the input touches the stream not at all. -/
theorem runEvent_of_leaving (event : InputEvent) {exit : Exit}
    (hphase : (r.take event).1.phase = .leaving exit) (s : SendScript) :
    (r.runEvent s event).1 = s ∧ (r.runEvent s event).2.1 = (r.take event).1 := by
  have hcheck : (r.take event).1.check s.tripped = ((r.take event).1, []) := by
    simp [check, hphase]
  have hoffer : (r.take event).1.offer? = none := by simp [offer?, hphase]
  have hjudge : (r.take event).1.judge s.tripped = ((r.take event).1, []) := by
    simp [judge, hphase]
  simp only [runEvent, hcheck, push_of_idle hoffer, hjudge, and_self]

/-- A line follows the script, whether it needs calls or not. -/
theorem runEvent_line (hs : s.NeverTrips) (r : Outbound) (line : String) :
    (r.runEvent s (.line line)).1.NeverTrips ∧
      (r.runEvent s (.line line)).1.steps =
        (SendScript.sendResult s.steps (Line.encode line).length).rest ∧
      (r.runEvent s (.line line)).1.wire = s.wire ++
        (Line.encode line).take (SendScript.sendResult s.steps (Line.encode line).length).taken ∧
      (r.runEvent s (.line line)).2.1 =
        ((r.finishLine line
          (SendScript.sendResult s.steps (Line.encode line).length).fault?).judge false).1 := by
  have htake : (r.take (.line line)).1 = { r with phase := .holding line } := rfl
  by_cases hempty : Line.encode line = []
  · have hcheck : ({ r with phase := .holding line }.check false).1 = r.finishLine line none :=
      check_empty rfl hempty
    simp only [runEvent, htake, hs.tripped, hcheck, push_of_idle (offer?_finishLine r line none),
      hempty, List.length_nil, SendScript.sendResult_zero, List.take_nil, List.append_nil, and_self,
      and_true]
    exact hs
  · have hcheck : ({ r with phase := .holding line }.check false).1 =
        { r with phase := .sending line { data := Line.encode line } } :=
      check_line rfl hempty
    obtain ⟨hneverTrips, hrest, hwire, hrelay⟩ :=
      push_sendResult (d := { data := Line.encode line })
      (r := { r with phase := .sending line { data := Line.encode line } }) hs rfl
      (List.length_pos_iff.2 hempty)
    rw [finishLine_phase] at hrelay
    simp only [runEvent, htake, hs.tripped, hcheck, hneverTrips.tripped, hrelay]
    exact ⟨hneverTrips, hrest, hwire, rfl⟩

/-! ## All events -/

/-- How a relay ends once the lines `sent` are out in full, when the script has come to `steps` and
the events `rest` are left: with which bytes of a further line, and why. -/
inductive Ending (sentinel : String) (isOpen : Bool) (steps : List SendStep) :
    List String → List InputEvent → Bytes → Option Cause → Prop where
  /-- The sentinel is out, and nothing follows it. -/
  | sentinelSent {before : List String} {rest : List InputEvent} (hbefore : sentinel ∉ before) :
    Ending sentinel isOpen steps (before ++ [sentinel]) rest [] (some .localSentinel)
  | ended {sent : List String} {later : List InputEvent} (hsent : sentinel ∉ sent) :
    Ending sentinel isOpen steps sent (.ended :: later) [] (some .inputClosed)
  | disconnected {sent : List String} (hsent : sentinel ∉ sent) (hclosed : isOpen = false) :
    Ending sentinel isOpen steps sent [] [] (some .inputClosed)
  | unreadable {sent : List String} {later : List InputEvent} {fault : Fault}
    (hsent : sentinel ∉ sent) :
    Ending sentinel isOpen steps sent (.failed fault :: later) [] (some (.inputFailed fault.text))
  /-- A send call for the next line fails. -/
  | broken {sent : List String} {line : String} {later : List InputEvent} {fault : Fault}
    (hsent : sentinel ∉ sent)
    (hfault : (SendScript.sendResult steps (Line.encode line).length).fault? = some fault) :
    Ending sentinel isOpen steps sent (.line line :: later)
      ((Line.encode line).take (SendScript.sendResult steps (Line.encode line).length).taken)
      (some (.transport fault.kind (.classify fault.kind false)))
  /-- The input is silent, and the relay waits. -/
  | silent {sent : List String} (hsent : sentinel ∉ sent) (hopen : isOpen = true) :
    Ending sentinel isOpen steps sent [] [] none

namespace Ending

variable {sentinel : String} {isOpen : Bool} {steps : List SendStep} {sent : List String}
  {rest : List InputEvent} {part : Bytes} {cause? : Option Cause}

theorem cons (h : Ending sentinel isOpen steps sent rest part cause?) (hline : line ≠ sentinel) :
    Ending sentinel isOpen steps (line :: sent) rest part cause? := by
  have hcons : ∀ {lines : List String}, sentinel ∉ lines → sentinel ∉ line :: lines := by
    intro lines hlines hmem
    rcases List.mem_cons.1 hmem with heq | hmem
    · exact hline heq.symm
    · exact hlines hmem
  cases h with
  | sentinelSent hbefore =>
    rw [← List.cons_append]
    exact .sentinelSent (hcons hbefore)
  | ended hsent => exact .ended (hcons hsent)
  | disconnected hsent hclosed => exact .disconnected (hcons hsent) hclosed
  | unreadable hsent => exact .unreadable (hcons hsent)
  | broken hsent hfault => exact .broken (hcons hsent) hfault
  | silent hsent hopen => exact .silent (hcons hsent) hopen

theorem localSentinel_iff (h : Ending sentinel isOpen steps sent rest part cause?) :
    cause? = some .localSentinel ↔ sent.getLast? = some sentinel := by
  have hlast : sentinel ∉ sent → sent.getLast? ≠ some sentinel := by
    intro hsent heq
    exact hsent (List.mem_of_getLast? heq)
  cases h with
  | sentinelSent => simp
  | ended hsent | disconnected hsent | unreadable hsent | broken hsent | silent hsent =>
    simpa using hlast hsent

/-- A line that a fault stops is out in part at most. -/
theorem part_of_transport (h : Ending sentinel isOpen steps sent rest part cause?)
    {kind : FaultKind} {closure : Closure} (hcause : cause? = some (.transport kind closure)) :
    ∃ line later, rest = .line line :: later ∧ part <+: Line.encode line ∧
      part ≠ Line.encode line := by
  cases h with
  | broken hsent hfault =>
    refine ⟨_, _, rfl, List.take_prefix _ _, ?_⟩
    intro hwhole
    have hless := (SendScript.taken_sendResult _ _).2 (by rw [hfault]; rfl)
    have hlength := congrArg List.length hwhole
    rw [List.length_take] at hlength
    omega
  | sentinelSent | ended | disconnected | unreadable | silent => cases hcause

theorem part_eq_nil (h : Ending sentinel isOpen steps sent rest part cause?)
    (hcause : ∀ kind closure, cause? ≠ some (.transport kind closure)) : part = [] := by
  cases h with
  | broken => exact absurd rfl (hcause _ _)
  | sentinelSent | ended | disconnected | unreadable | silent => rfl

theorem eq_nil_of_none (h : Ending sentinel isOpen steps sent rest part cause?)
    (hcause : cause? = none) : isOpen = true ∧ rest = [] := by
  cases h with
  | silent hsent hopen => exact ⟨hopen, rfl⟩
  | sentinelSent | ended | disconnected | unreadable | broken => cases hcause

end Ending

theorem run_stopped (hphase : r.phase ≠ .waiting) (s : SendScript) (isOpen : Bool)
    (events : List InputEvent) : r.run s isOpen events = (s, r, []) := by
  cases events with
  | nil =>
    unfold run
    split
    · contradiction
    · rfl
  | cons event rest =>
    unfold run
    split
    · contradiction
    · rfl

theorem run_cons (hphase : r.phase = .waiting) (htripped : s.tripped = false) (isOpen : Bool)
    (event : InputEvent) (rest : List InputEvent) :
    (r.run s isOpen (event :: rest)).1 =
        ((r.runEvent s event).2.1.run (r.runEvent s event).1 isOpen rest).1 ∧
      (r.run s isOpen (event :: rest)).2.1 =
        ((r.runEvent s event).2.1.run (r.runEvent s event).1 isOpen rest).2.1 := by
  simp [run, hphase, htripped]

/-- What became of a relay that waited, with some events at hand and a script: the lines that are
out in full are how far the script carries them, and the ending, the wire and the count agree. -/
def Accounts (s : SendScript) (r : Outbound) (isOpen : Bool) (events : List InputEvent)
    (s' : SendScript) (r' : Outbound) : Prop :=
  ∃ sent rest part cause? steps, events = sent.map .line ++ rest ∧
    SendScript.sendLines? s.steps sent = some steps ∧
    Ending r.sentinel isOpen steps sent rest part cause? ∧
    s'.wire = s.wire ++ encodeAll sent ++ part ∧
    r'.exit? = cause?.map (⟨.outbound, ·, r.bytes + (encodeAll sent).length⟩)

namespace Accounts

variable {s₁ s' : SendScript} {r' : Outbound} {isOpen : Bool} {events later : List InputEvent}

/-- The relay ends without another line. -/
theorem of_ending {part : Bytes} {cause? : Option Cause}
    (hending : Ending r.sentinel isOpen s.steps [] events part cause?)
    (hwire : s'.wire = s.wire ++ part)
    (hexit : r'.exit? = cause?.map (⟨.outbound, ·, r.bytes⟩)) :
    Accounts s r isOpen events s' r' := by
  refine ⟨[], events, part, cause?, s.steps, rfl, rfl, hending, ?_, hexit⟩
  rw [hwire, encodeAll_nil, List.append_nil]

/-- The relay sends the sentinel. -/
theorem of_sentinel (hline : line = r.sentinel)
    (hfault : (SendScript.sendResult s.steps (Line.encode line).length).fault? = none)
    (hwire : s'.wire = s.wire ++ Line.encode line)
    (hexit : r'.exit? =
      some ⟨.outbound, .localSentinel, r.bytes + (Line.encode line).length⟩) :
    Accounts s r isOpen (.line line :: later) s' r' := by
  refine ⟨[line], later, [], some .localSentinel,
    (SendScript.sendResult s.steps (Line.encode line).length).rest, rfl, ?_, ?_, ?_, ?_⟩
  · simp [SendScript.sendLines?, hfault]
  · rw [hline, ← List.nil_append [r.sentinel]]
    exact .sentinelSent List.not_mem_nil
  · rw [hwire, encodeAll_singleton, List.append_nil]
  · rw [hexit, encodeAll_singleton]
    rfl

/-- The relay sends a line and goes on from there. -/
theorem cons (hline : line ≠ r.sentinel)
    (hfault : (SendScript.sendResult s.steps (Line.encode line).length).fault? = none)
    (hsteps : s₁.steps = (SendScript.sendResult s.steps (Line.encode line).length).rest)
    (hwire : s₁.wire = s.wire ++ Line.encode line)
    (h : Accounts s₁ (r.complete line).1 isOpen later s' r') :
    Accounts s r isOpen (.line line :: later) s' r' := by
  rw [complete_line hline] at h
  obtain ⟨sent, rest, part, cause?, steps, hevents, hsendLines, hending, hwire', hexit⟩ := h
  refine ⟨line :: sent, rest, part, cause?, steps, ?_, ?_, hending.cons hline, ?_, ?_⟩
  · rw [hevents, List.map_cons, List.cons_append]
  · rw [SendScript.sendLines?, hfault, ← hsteps]
    exact hsendLines
  · rw [hwire', hwire]
    simp [encodeAll]
  · rw [hexit]
    simp [encodeAll, Nat.add_assoc]

end Accounts

/-- The loop over the events. -/
theorem accounts_run (hs : s.NeverTrips) (hphase : r.phase = .waiting) (isOpen : Bool)
    (events : List InputEvent) :
    Accounts s r isOpen events (r.run s isOpen events).1 (r.run s isOpen events).2.1 := by
  induction events generalizing s r with
  | nil =>
    cases isOpen with
    | true =>
      have hrun : r.run s true [] = (s, r, []) := by simp [run, hphase, hs.tripped]
      rw [hrun]
      refine .of_ending (.silent List.not_mem_nil rfl) (List.append_nil _).symm ?_
      simp [exit?, hphase]
    | false =>
      obtain ⟨hstream, hrelay⟩ := runEvent_of_leaving (r := r) .ended rfl s
      have hrun : r.run s false [] = r.runEvent s .ended := by simp [run, hphase, hs.tripped]
      rw [hrun, hstream, hrelay]
      exact .of_ending (.disconnected List.not_mem_nil rfl) (List.append_nil _).symm rfl
  | cons event later ih =>
    obtain ⟨hstream, hrelay⟩ := run_cons hphase hs.tripped isOpen event later
    rw [hstream, hrelay]
    cases event with
    | ended =>
      obtain ⟨hquiet, hleft⟩ := runEvent_of_leaving (r := r) .ended rfl s
      rw [hquiet, hleft, run_stopped (by simp [take, leave])]
      exact .of_ending (.ended List.not_mem_nil) (List.append_nil _).symm rfl
    | failed fault =>
      obtain ⟨hquiet, hleft⟩ := runEvent_of_leaving (r := r) (.failed fault) rfl s
      rw [hquiet, hleft, run_stopped (by simp [take, leave])]
      exact .of_ending (.unreadable List.not_mem_nil) (List.append_nil _).symm rfl
    | line line =>
      obtain ⟨hneverTrips, hsteps, hwire, hnext⟩ := runEvent_line hs r line
      have hall := (SendScript.taken_sendResult s.steps (Line.encode line).length).1
      cases hfault : (SendScript.sendResult s.steps (Line.encode line).length).fault? with
      | some fault =>
        rw [hfault, judge_stopped] at hnext
        rw [hnext, run_stopped (by simp)]
        exact .of_ending (.broken List.not_mem_nil hfault) hwire rfl
      | none =>
        rw [hfault, judge_finishLine] at hnext
        rw [hall hfault, List.take_length] at hwire
        rw [hnext]
        by_cases hline : line = r.sentinel
        · rw [complete_sentinel hline, run_stopped (by simp)]
          exact .of_sentinel hline hfault hwire rfl
        · apply Accounts.cons hline hfault hsteps hwire
          apply ih hneverTrips
          rw [complete_line hline]

/-- While nothing trips the signal, the events and the script of the stream say all about a relay:
`sent` are the lines that are out in full, which is how far the script carries them; after them the
wire holds a strict prefix of the next line if a send failed, and nothing otherwise; the exit counts
`sent` alone. The relay ends, unless its input falls silent. -/
theorem run_account (sentinel : String) (isOpen : Bool) (events : List InputEvent)
    (s : SendScript) (htripped : s.tripped = false) (hsteps : .trip ∉ s.steps) :
    ∃ sent rest part cause? steps, events = sent.map .line ++ rest ∧
      SendScript.sendLines? s.steps sent = some steps ∧
      Ending sentinel isOpen steps sent rest part cause? ∧
      (run s { sentinel } isOpen events).1.wire = s.wire ++ encodeAll sent ++ part ∧
      (run s { sentinel } isOpen events).2.1.exit? =
        cause?.map (⟨.outbound, ·, (encodeAll sent).length⟩) ∧
      (cause? = some .localSentinel ↔ sent.getLast? = some sentinel) ∧
      (∀ kind closure, cause? = some (.transport kind closure) → ∃ line later,
        rest = .line line :: later ∧ part <+: Line.encode line ∧ part ≠ Line.encode line) ∧
      ((∀ kind closure, cause? ≠ some (.transport kind closure)) → part = []) ∧
      (cause? = none → isOpen = true ∧ rest = []) := by
  obtain ⟨sent, rest, part, cause?, steps, hevents, hsendLines, hending, hwire, hexit⟩ :=
    accounts_run (r := { sentinel }) ⟨htripped, hsteps⟩ rfl isOpen events
  rw [Nat.zero_add] at hexit
  exact ⟨sent, rest, part, cause?, steps, hevents, hsendLines, hending, hwire, hexit,
    hending.localSentinel_iff, fun _ _ => hending.part_of_transport, hending.part_eq_nil,
    hending.eq_nil_of_none⟩

/-- The second line is empty, the third is the sentinel, and the stream breaks two bytes into it. -/
def brokenSentinel : SendScript where
  steps :=
    [.accept 1, .fail (.ofKind .interrupted), .accept 5, .accept 2, .fail (.ofKind .timedOut)]

theorem run_account_broken_sentinel :
    let events : List InputEvent := [.line "hé", .line "", .line "bye", .line "more"]
    (brokenSentinel.tripped = false ∧ .trip ∉ brokenSentinel.steps) ∧
      (run brokenSentinel { sentinel := "bye" } false events).1.wire =
        encodeAll ["hé", ""] ++ [98, 121] ∧
      (run brokenSentinel { sentinel := "bye" } false events).2.1.exit? =
        some ⟨.outbound, .transport .timedOut .unexpected, 3⟩ ∧
      ∃ sent rest part cause? steps, events = sent.map .line ++ rest ∧
        SendScript.sendLines? brokenSentinel.steps sent = some steps ∧
        Ending "bye" false steps sent rest part cause? ∧
        (run brokenSentinel { sentinel := "bye" } false events).1.wire =
          encodeAll sent ++ part ∧
        (run brokenSentinel { sentinel := "bye" } false events).2.1.exit? =
          cause?.map (⟨.outbound, ·, (encodeAll sent).length⟩) := by
  refine ⟨⟨rfl, by decide⟩, by decide +kernel, by decide +kernel, ?_⟩
  obtain ⟨sent, rest, part, cause?, steps, hevents, hsendLines, hending, hwire, hexit, -⟩ :=
    run_account "bye" false [.line "hé", .line "", .line "bye", .line "more"] brokenSentinel rfl
      (by decide)
  exact ⟨sent, rest, part, cause?, steps, hevents, hsendLines, hending, hwire, hexit⟩

end Outbound

end TextRelay
