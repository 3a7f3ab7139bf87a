import TextRelay.Proofs.Session.Coordination

/-!
# What the sending half of a session does

The pump and the outbound relay of a session, while nothing cancels them. `Source.Yields` describes
an input: some lines in their order, and then its end, unless the sentinel was among them; what
comes after the sentinel does not matter, because nobody takes it.

`Session.SenderInv` says how far the lines have come. The pump is one answer ahead at most, so the
lines are those out in full, the one that the relay has in hand, and the rest.
`Session.SendsNothing` is the other extreme: an input that stays silent, so that the relay waits
until it is cancelled.
-/

namespace TextRelay

/-! ## Lines -/

/-- The lines that are sent of some lines: those up to the first sentinel, which is sent too. -/
def linesToSend (sentinel : String) : List String → List String
  | [] => []
  | line :: rest => if line = sentinel then [line] else line :: linesToSend sentinel rest

theorem linesToSend_append {sentinel : String} {sent : List String} (hsent : sentinel ∉ sent)
    (rest : List String) :
    linesToSend sentinel (sent ++ rest) = sent ++ linesToSend sentinel rest := by
  induction sent with
  | nil => rfl
  | cons line later ih =>
    rw [List.mem_cons, not_or] at hsent
    rw [List.cons_append, linesToSend, if_neg fun heq => hsent.1 heq.symm, ih hsent.2,
      List.cons_append]

theorem linesToSend_of_notMem {sentinel : String} {lines : List String}
    (hlines : sentinel ∉ lines) : linesToSend sentinel lines = lines := by
  have hdue := linesToSend_append hlines []
  rwa [List.append_nil, linesToSend, List.append_nil] at hdue

/-- The bytes of some lines. -/
def encodeAll (lines : List String) : Bytes := lines.flatMap Line.encode

@[simp] theorem encodeAll_nil : encodeAll [] = [] := rfl

@[simp] theorem encodeAll_append (first second : List String) :
    encodeAll (first ++ second) = encodeAll first ++ encodeAll second :=
  List.flatMap_append

@[simp] theorem encodeAll_singleton (line : String) : encodeAll [line] = Line.encode line :=
  List.flatMap_singleton _ _

/-- The source answers some lines in their order and then the end of the input. If the sentinel is
among the lines, anything may come after it. -/
def Source.Yields (sentinel : String) : List String → Source → Prop
  | [], source => ∃ next, source.read = some (.event .ended, next)
  | line :: rest, source => ∃ next, source.read = some (.event (.line line), next) ∧
      (line = sentinel ∨ Yields sentinel rest next)

/-! ## The pump -/

namespace Pump

/-- What the pump is going to hand over are these lines, and then the end of the input. -/
def Upcoming (p : Pump) (sentinel : String) (rest : List String) : Prop :=
  match p.phase with
  | .reading => p.source.Yields sentinel rest
  | .offering (.line line) => ∃ later, rest = line :: later ∧
      (line = sentinel ∨ p.source.Yields sentinel later)
  | .offering .ended => rest = []
  | .offering (.failed _) | .finished => False

/-- How many steps are left to the pump until the next answer is taken from it. -/
def rank (p : Pump) : Nat :=
  match p.phase with
  | .reading => 2
  | .offering _ => 1
  | .finished => 0

variable {p p' : Pump} {sentinel : String} {rest : List String}

theorem Upcoming.read (hp : p.Upcoming sentinel rest) (h : p.read = some p') :
    p'.Upcoming sentinel rest := by
  unfold Pump.read at h
  split at h
  · next hphase =>
    simp only [Upcoming, hphase] at hp
    cases rest with
    | nil =>
      obtain ⟨next, hread⟩ := hp
      rw [hread] at h
      cases h
      rfl
    | cons line later =>
      obtain ⟨next, hread, hlater⟩ := hp
      rw [hread] at h
      cases h
      exact ⟨later, rfl, hlater⟩
  · cases h

/-- A pump hands over the next line, and is then ahead by the lines after it, or the end. -/
theorem Upcoming.take (hp : p.Upcoming sentinel rest) {event : Option InputEvent}
    (h : p.take = some (event, p')) :
    (∃ line later, rest = line :: later ∧ event = some (.line line) ∧ p.rank = 1 ∧ p'.rank = 2 ∧
      (line = sentinel ∨ p'.Upcoming sentinel later)) ∨
    (rest = [] ∧ event = some .ended ∧ p.rank = 1 ∧ p'.rank = 0) := by
  unfold Pump.take at h
  unfold Upcoming at hp
  split at h
  · cases h
  · next line hphase =>
    cases h
    rw [hphase] at hp
    obtain ⟨later, hrest, hlater⟩ := hp
    exact .inl ⟨line, later, hrest, rfl, by simp [rank, hphase], rfl, hlater⟩
  · next event' hline hphase =>
    cases h
    rw [hphase] at hp
    cases event' with
    | line text => exact absurd rfl (hline text)
    | ended => exact .inr ⟨hp, rfl, by simp [rank, hphase], rfl⟩
    | failed fault => exact hp.elim
  · next hphase =>
    rw [hphase] at hp
    exact hp.elim

theorem rank_read (h : p.read = some p') : p'.rank < p.rank := by
  unfold Pump.read at h
  split at h
  · next hphase =>
    obtain ⟨⟨reading, source⟩, -, rfl⟩ := Option.map_eq_some_iff.1 h
    cases reading <;> simp [rank, hphase]
  · cases h

theorem rank_giveUp (h : p.giveUp = some p') : p'.rank < p.rank := by
  unfold Pump.giveUp at h
  split at h
  · next hphase =>
    cases h
    simp [rank, hphase]
  · cases h

end Pump

/-! ## The outbound relay -/

/-- How many steps are left to an outbound relay, at most, if it takes no more lines. A byte that it
sends counts twice, because it has to be received as well. -/
def Outbound.rank (r : Outbound) : Nat :=
  match r.phase with
  | .waiting => 3
  | .holding line => 2 * (Line.encode line).length + 5
  | .sending line _ => 2 * (Line.encode line).length + 4
  | .failing _ => 2
  | .leaving _ => 1
  | .gone _ => 0

/-- How many steps some lines will take. -/
def cost (lines : List String) : Nat := 2 * (encodeAll lines).length + 4 * lines.length

/-- The exit of a relay that was given some lines: it found the sentinel, or the end of the input.
-/
def finalExit (sentinel : String) (lines : List String) : Exit :=
  ⟨.outbound, if sentinel ∈ lines then .localSentinel else .inputClosed,
    (encodeAll (linesToSend sentinel lines)).length⟩

namespace Session

/-- How many steps are left to the pump and the outbound relay, if no more lines are taken. -/
def sendRank (s : Session) : Nat := s.pump.rank + s.outbound.rank

/-- A line is in hand, with some out before it and some to come after it. -/
structure LineInHand (sentinel : String) (lines sent : List String) (line : String)
    (rest : List String) (pump : Pump) : Prop where
  split : lines = sent ++ line :: rest
  before : sentinel ∉ sent
  ahead : line = sentinel ∨ pump.Upcoming sentinel rest

/-- Where a relay stands that was given some lines. -/
def SendPhase (sentinel : String) (lines sent rest : List String) (pump : Pump) :
    Outbound.Phase → Prop
  | .waiting => lines = sent ++ rest ∧ sentinel ∉ sent ∧ pump.Upcoming sentinel rest
  | .holding line => LineInHand sentinel lines sent line rest pump
  | .sending line d => LineInHand sentinel lines sent line rest pump ∧
      d = { data := Line.encode line } ∧ Line.encode line ≠ []
  | .failing _ => False
  | .leaving exit | .gone exit => sent = linesToSend sentinel lines ∧
    exit = finalExit sentinel lines

/-- A session that was given some lines, of which some are out in full and some not yet taken. -/
structure SenderInv (sentinel : String) (lines sent rest : List String) (s : Session) : Prop where
  named : s.outbound.sentinel = sentinel
  bytes : s.outbound.bytes = (encodeAll sent).length
  phaseInv : SendPhase sentinel lines sent rest s.pump s.outbound.phase

namespace SenderInv

variable {κ : Type} [Medium κ] {s s' : Session} {w w' : κ} {sentinel : String}
  {lines sent rest : List String}

theorem congr (hs : s.SenderInv sentinel lines sent rest) (hpump : s'.pump = s.pump)
    (houtbound : s'.outbound = s.outbound) : s'.SenderInv sentinel lines sent rest where
  named := by rw [houtbound]; exact hs.named
  bytes := by rw [houtbound]; exact hs.bytes
  phaseInv := by rw [hpump, houtbound]; exact hs.phaseInv

/-- A line is out in full. -/
theorem complete (hs : s.SenderInv sentinel lines sent rest) {line : String}
    (hline : LineInHand sentinel lines sent line rest s.pump) {log : List Log.Event} :
    SenderInv sentinel lines (sent ++ [line]) rest
        { s with outbound := (s.outbound.complete line).1, log } ∧
      (s.outbound.complete line).1.rank ≤ 3 := by
  have hbytes : s.outbound.bytes + (Line.encode line).length
      = (encodeAll (sent ++ [line])).length := by
    rw [hs.bytes, encodeAll_append, encodeAll_singleton, List.length_append]
  by_cases heq : line = sentinel
  · have hdue : sent ++ [line] = linesToSend sentinel lines := by
      rw [hline.split, linesToSend_append hline.before, linesToSend, if_pos heq]
    have hmem : sentinel ∈ lines := by
      rw [hline.split, heq]
      simp
    rw [Outbound.complete_sentinel (heq.trans hs.named.symm)]
    refine ⟨⟨hs.named, hbytes, hdue, ?_⟩, by simp [Outbound.rank]⟩
    rw [finalExit, if_pos hmem, ← hdue, hbytes]
  · have hsent : sentinel ∉ sent ++ [line] := by
      rw [List.mem_append, List.mem_singleton, not_or]
      exact ⟨hline.before, fun h => heq h.symm⟩
    have hne : line ≠ s.outbound.sentinel := fun h => heq (h.trans hs.named)
    rw [Outbound.complete_line hne]
    refine ⟨⟨hs.named, hbytes, ?_, hsent, hline.ahead.resolve_left heq⟩, by simp [Outbound.rank]⟩
    rw [hline.split, List.append_assoc, List.singleton_append]

/-- The pump goes on without a line being taken from it. -/
theorem pumped (hs : s.SenderInv sentinel lines sent rest) {pump : Pump}
    (hahead : s.outbound.exit? = none → s.pump.Upcoming sentinel rest →
      pump.Upcoming sentinel rest) :
    SenderInv sentinel lines sent rest { s with pump } := by
  refine ⟨hs.named, hs.bytes, ?_⟩
  have hphases := hs.phaseInv
  unfold Outbound.exit? at hahead
  dsimp only
  cases hphase : s.outbound.phase with
  | waiting =>
    rw [hphase] at hahead hphases
    exact ⟨hphases.1, hphases.2.1, hahead rfl hphases.2.2⟩
  | holding line =>
    rw [hphase] at hahead hphases
    exact ⟨hphases.split, hphases.before, hphases.ahead.imp_right (hahead rfl)⟩
  | sending line d =>
    rw [hphase] at hahead hphases
    obtain ⟨hline, hd⟩ := hphases
    exact ⟨⟨hline.split, hline.before, hline.ahead.imp_right (hahead rfl)⟩, hd⟩
  | failing fault =>
    rw [hphase] at hphases
    exact hphases.elim
  | leaving exit =>
    rw [hphase] at hphases
    exact hphases
  | gone exit =>
    rw [hphase] at hphases
    exact hphases

theorem takeInput (hs : s.SenderInv sentinel lines sent rest) (h : s.takeInput = some s') :
    ∃ rest', s'.SenderInv sentinel lines sent rest' ∧
      cost rest' + s'.sendRank < cost rest + s.sendRank := by
  obtain ⟨event, pump, log, hphase, htake, rfl⟩ := of_takeInput h
  have hphases := hs.phaseInv
  rw [hphase] at hphases
  obtain ⟨hlines, hsent, hahead⟩ := hphases
  have hrank : s.outbound.rank = 3 := by rw [Outbound.rank, hphase]
  obtain ⟨line, later, rfl, rfl, hbefore, hafter, hlater⟩ | ⟨rfl, rfl, hbefore, hafter⟩ :=
    hahead.take htake
  · refine ⟨later, ⟨hs.named, hs.bytes, hlines, hsent, hlater⟩, ?_⟩
    have hcost : cost (line :: later) = cost later + 2 * (Line.encode line).length + 4 := by
      simp only [cost, encodeAll, List.flatMap_cons, List.length_append, List.length_cons]
      omega
    have hrank' : (s.outbound.take (.line line)).1.rank = 2 * (Line.encode line).length + 5 := rfl
    simp only [sendRank, Option.getD_some, hrank, hrank', hbefore, hafter, hcost]
    omega
  · rw [List.append_nil] at hlines
    subst hlines
    refine ⟨[], ⟨hs.named, hs.bytes, (linesToSend_of_notMem hsent).symm, ?_⟩, ?_⟩
    · rw [finalExit, if_neg hsent, linesToSend_of_notMem hsent, ← hs.bytes]
    · have hrank' : (s.outbound.take .ended).1.rank = 1 := rfl
      simp only [sendRank, Option.getD_some, hrank, hrank', hbefore, hafter]
      omega

theorem checkSignal (hs : s.SenderInv sentinel lines sent rest) (hled : s.LedBy .outbound)
    (h : s.checkSignal = some s') :
    ∃ more, s'.SenderInv sentinel lines (sent ++ more) rest ∧ encodeAll more = [] ∧
      s'.sendRank < s.sendRank := by
  obtain ⟨line, log, hphase, rfl⟩ := of_checkSignal h
  have hgone : s.gone? .outbound = none := by simp [gone?, Outbound.gone?, hphase]
  have hline := hs.phaseInv
  rw [hphase] at hline
  have hrank : s.outbound.rank = 2 * (Line.encode line).length + 5 := by rw [Outbound.rank, hphase]
  rw [(hled.not_cancelled hgone).1]
  by_cases hempty : Line.encode line = []
  · rw [Outbound.check_empty hphase hempty]
    obtain ⟨hsenderInv, hrank'⟩ := hs.complete hline
    refine ⟨[line], hsenderInv, by rw [encodeAll_singleton, hempty], ?_⟩
    simp only [sendRank, hrank]
    omega
  · rw [Outbound.check_line hphase hempty]
    refine ⟨[], ⟨hs.named, by simpa using hs.bytes, ?_⟩, rfl, ?_⟩
    · rw [List.append_nil]
      exact ⟨hline, rfl, hempty⟩
    · have hrank' : Outbound.rank { s.outbound with
          phase := .sending line { data := Line.encode line } }
          = 2 * (Line.encode line).length + 4 := rfl
      simp only [sendRank, hrank, hrank']
      omega

/-- The line in hand is sent by one call, if that takes all of it. -/
theorem send (hs : s.SenderInv sentinel lines sent rest)
    (haccept : ∀ data, s.outbound.offer? = some data → data ≠ [] →
      ∃ w₁, Medium.send w s.writer data = some (.ok data.length, w₁))
    (h : s.send w = some (s', w')) :
    ∃ line, s'.SenderInv sentinel lines (sent ++ [line]) rest ∧
      s.outbound.offer? = some (Line.encode line) ∧ Line.encode line ≠ [] ∧
      Medium.send w s.writer (Line.encode line) = some (.ok (Line.encode line).length, w') ∧
      s'.sendRank + 2 * (Line.encode line).length < s.sendRank := by
  obtain ⟨data, result, log, hoffer, hsend, rfl⟩ := of_send h
  have hphases := hs.phaseInv
  cases hphase : s.outbound.phase with
  | sending line d =>
    rw [hphase] at hphases
    obtain ⟨hline, rfl, hne⟩ := hphases
    obtain rfl : Line.encode line = data := by
      simpa [Outbound.offer?, hphase, Delivery.remaining] using hoffer
    obtain ⟨w₁, haccepted⟩ := haccept _ hoffer hne
    cases hsend.symm.trans haccepted
    rw [Outbound.answer_all hphase hne]
    obtain ⟨hsenderInv, hrank'⟩ := hs.complete hline
    refine ⟨line, hsenderInv, hoffer, hne, hsend, ?_⟩
    simp only [sendRank, Outbound.rank, hphase] at hrank' ⊢
    omega
  | waiting | holding | failing | leaving | gone => simp [Outbound.offer?, hphase] at hoffer

theorem reportOutbound (hs : s.SenderInv sentinel lines sent rest)
    (h : s.reportOutbound w = some (s', w')) :
    s'.SenderInv sentinel lines sent rest ∧ s'.sendRank < s.sendRank := by
  obtain ⟨exit, hphase, -, rfl⟩ := of_reportOutbound h
  have hphases := hs.phaseInv
  rw [hphase] at hphases
  refine ⟨⟨hs.named, hs.bytes, hphases⟩, ?_⟩
  simp only [sendRank, Outbound.rank, hphase]
  omega

/-- **Each step of the pump or the outbound relay, sends apart, brings the lines on their way:** an
empty line may be out in full by it, and what is left to do has become less. -/
theorem step (hs : s.SenderInv sentinel lines sent rest) (hled : s.LedBy .outbound)
    {action : Action} (hparty : action.party = .sender) (haction : action ≠ .send)
    (h : s.step w action = some (s', w')) :
    ∃ more rest', s'.SenderInv sentinel lines (sent ++ more) rest' ∧ encodeAll more = [] ∧
      cost rest' + s'.sendRank < cost rest + s.sendRank := by
  cases action with
  | readInput =>
    obtain ⟨pump, hread, rfl⟩ := of_readInput (of_map h).1
    refine ⟨[], rest, ?_, rfl, ?_⟩
    · rw [List.append_nil]
      exact hs.pumped fun _ hahead => hahead.read hread
    · have hrank := Pump.rank_read hread
      simp only [sendRank]
      omega
  | dropInput =>
    obtain ⟨exit, pump, hexit, hgive, rfl⟩ := of_dropInput (of_map h).1
    refine ⟨[], rest, ?_, rfl, ?_⟩
    · rw [List.append_nil]
      refine hs.pumped fun hnone _ => ?_
      rw [hnone] at hexit
      cases hexit
    · have hrank := Pump.rank_giveUp hgive
      simp only [sendRank]
      omega
  | takeInput =>
    obtain ⟨rest', hsenderInv, hrank⟩ := hs.takeInput (of_map h).1
    exact ⟨[], rest', by rwa [List.append_nil], rfl, hrank⟩
  | cancelInput =>
    obtain ⟨log, hphase, hcancelled, rfl⟩ := of_cancelInput (of_map h).1
    have hgone : s.gone? .outbound = none := by simp [gone?, Outbound.gone?, hphase]
    rw [(hled.not_cancelled hgone).2] at hcancelled
    cases hcancelled
  | checkSignal =>
    obtain ⟨more, hsenderInv, hempty, hrank⟩ := hs.checkSignal hled (of_map h).1
    exact ⟨more, rest, hsenderInv, hempty, Nat.add_lt_add_left hrank _⟩
  | send => exact absurd rfl haction
  | judgeFault =>
    obtain ⟨fault, log, hphase, rfl⟩ := of_judgeFault (of_map h).1
    have hphases := hs.phaseInv
    rw [hphase] at hphases
    exact hphases.elim
  | reportOutbound =>
    obtain ⟨hsenderInv, hrank⟩ := hs.reportOutbound h
    exact ⟨[], rest, by rwa [List.append_nil], rfl, Nat.add_lt_add_left hrank _⟩
  | receive | handle | reportInbound | takeFirst | trip | release | join => cases hparty

end SenderInv

/-! ## Silent inputs -/

/-- A session whose input stays silent: its outbound relay waits until it is cancelled. -/
structure SendsNothing (s : Session) : Prop where
  reading : s.pump.phase = .reading
  silent : s.pump.source.read = none
  bytes : s.outbound.bytes = 0
  phaseInv : s.outbound.phase = .waiting ∨
    s.signal.tripped = true ∧ (s.outbound.phase = .leaving ⟨.outbound, .cancelled, 0⟩ ∨
      s.outbound.phase = .gone ⟨.outbound, .cancelled, 0⟩)

namespace SendsNothing

variable {κ : Type} [Medium κ] {s s' : Session} {w w' : κ}

theorem exit (hs : s.SendsNothing) {exit : Exit} (hexit : s.exit? .outbound = some exit) :
    exit = ⟨.outbound, .cancelled, 0⟩ ∧ s.signal.tripped = true := by
  simp only [exit?, Outbound.exit?] at hexit
  obtain hphase | ⟨htripped, hphase | hphase⟩ := hs.phaseInv
  · simp [hphase] at hexit
  · simp only [hphase, Option.some.injEq] at hexit
    exact ⟨hexit.symm, htripped⟩
  · simp only [hphase, Option.some.injEq] at hexit
    exact ⟨hexit.symm, htripped⟩

/-- Nothing is ever offered to the stream. -/
theorem offer?_eq_none (hs : s.SendsNothing) : s.outbound.offer? = none := by
  obtain hphase | ⟨-, hphase | hphase⟩ := hs.phaseInv
  all_goals simp [Outbound.offer?, hphase]

theorem congr (hs : s.SendsNothing) (hpump : s'.pump = s.pump)
    (houtbound : s'.outbound = s.outbound)
    (htripped : s.signal.tripped = true → s'.signal.tripped = true) : s'.SendsNothing where
  reading := by rw [hpump]; exact hs.reading
  silent := by rw [hpump]; exact hs.silent
  bytes := by rw [houtbound]; exact hs.bytes
  phaseInv := by
    rw [houtbound]
    exact hs.phaseInv.imp_right fun ⟨ht, hphase⟩ => ⟨htripped ht, hphase⟩

theorem step (hs : s.SendsNothing) (hled : s.LedBy .inbound) {action : Action}
    (hparty : action.party = .sender) (h : s.step w action = some (s', w')) :
    s'.SendsNothing ∧ s'.sendRank < s.sendRank := by
  have hphases := hs.phaseInv
  cases action with
  | readInput =>
    obtain ⟨pump, hread, rfl⟩ := of_readInput (of_map h).1
    simp [Pump.read, hs.reading, hs.silent] at hread
  | dropInput =>
    obtain ⟨exit, pump, hexit, hgive, rfl⟩ := of_dropInput (of_map h).1
    simp [Pump.giveUp, hs.reading] at hgive
  | takeInput =>
    obtain ⟨event, pump, log, -, htake, rfl⟩ := of_takeInput (of_map h).1
    simp [Pump.take, hs.reading] at htake
  | cancelInput =>
    obtain ⟨log, hphase, hcancelled, rfl⟩ := of_cancelInput (of_map h).1
    have htripped : s.signal.tripped = true :=
      hled.tripped.trans (hled.cancelled.symm.trans hcancelled)
    have hleaving : s.outbound.cancel.1.phase = .leaving ⟨.outbound, .cancelled, 0⟩ := by
      simp [Outbound.cancel, Outbound.leave, hs.bytes]
    refine ⟨⟨hs.reading, hs.silent, hs.bytes, .inr ⟨htripped, .inl hleaving⟩⟩, ?_⟩
    simp only [sendRank, Outbound.rank, hphase, hleaving]
    omega
  | checkSignal =>
    obtain ⟨line, log, hphase, rfl⟩ := of_checkSignal (of_map h).1
    simp [hphase] at hphases
  | send =>
    obtain ⟨data, result, log, hoffer, -, rfl⟩ := of_send h
    rw [hs.offer?_eq_none] at hoffer
    cases hoffer
  | judgeFault =>
    obtain ⟨fault, log, hphase, rfl⟩ := of_judgeFault (of_map h).1
    simp [hphase] at hphases
  | reportOutbound =>
    obtain ⟨exit, hphase, -, rfl⟩ := of_reportOutbound h
    obtain ⟨rfl, htripped⟩ := hs.exit (Outbound.exit?_of_leaving hphase)
    refine ⟨⟨hs.reading, hs.silent, hs.bytes, .inr ⟨htripped, .inr rfl⟩⟩, ?_⟩
    simp only [sendRank, Outbound.rank, hphase]
    omega
  | receive | handle | reportInbound | takeFirst | trip | release | join => cases hparty

end SendsNothing

end Session

end TextRelay
