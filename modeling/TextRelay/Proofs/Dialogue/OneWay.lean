import TextRelay.Proofs.Dialogue.Conservation
import TextRelay.Proofs.Session.Receiving
import TextRelay.Proofs.Session.Sending
import TextRelay.Proofs.Settings

/-!
# Dialogues in which one end sends

One session is given some lines, which end in the sentinel or in the end of the input; the other
one has nothing to say. Both are waited for. In whatever order all of them go on, the outcome is
the same: the sender's lines come out at the receiver, cut into pieces where its buffer is too
small, and each session reports who ended it.

The order of the shutdown is what makes this so. The pipe is closed by the sender alone, and by
then its signal is tripped, so its inbound relay knows the end of the stream for a cancellation.
The receiver's signal is not tripped before its inbound relay is gone, so to that one the same end
of the stream is the peer's doing. All that was sent is read before.

`OneWay` is the invariant, with a record (`Progress`) of the lines and pieces that have come
through. Each move lowers `rank`, and only two reports end the dialogue.
-/

namespace TextRelay

open Pipe

namespace Dialogue

/-- The owners of the sessions wait for them, and call for nothing else. -/
def Move.onlyWaits : Move → Bool
  | close | drop => false
  | start | wait | act _ => true

/-- How far a dialogue has come. -/
structure Progress where
  /-- The lines that are out in full. -/
  sent : List String
  /-- The lines that the sender's outbound relay has not taken yet. -/
  rest : List String
  /-- The pieces that the receiver has shown. -/
  shown : List Bytes

/-- The session that sends. -/
structure SenderEnd (sentinel : String) (lines : List String) (t : Progress) (p : Pipe)
    (s : Session) : Prop where
  led : s.LedBy .outbound
  senderInv : s.SenderInv sentinel lines t.sent t.rest
  receivesNothing : s.ReceivesNothing
  free : ∃ handle, p.handles[s.writer]? = some handle ∧ handle.limit = none

/-- The session that receives. -/
structure ReceiverEnd (spec : EndSpec) (t : Progress) (s : Session) : Prop where
  led : s.LedBy .inbound
  sendsNothing : s.SendsNothing
  receiverInv : s.ReceiverInv spec.sink.offered t.shown
  size : s.inbound.bufferSize = spec.settings.chunkSize.toNat

/-- The chunk that an end's session has received and not yet shown. -/
def inHand (d : Dialogue) (side : Side) : List Bytes :=
  match d.session? side with
  | some s => s.inHand
  | none => []

/-- What the receiver is shown of some lines. -/
def pieces (size : Nat) (lines : List String) : List Bytes :=
  lines.flatMap fun line => cut size (Line.encode line)

/-- A dialogue in which one end sends. -/
structure OneWay (specs : Side → EndSpec) (me : Side) (lines : List String) (t : Progress)
    (d : Dialogue) : Prop where
  sound : d.Sound
  capacity : d.pipe.capacity = none
  senderEnd : ∀ s, d.session? me = some s →
    SenderEnd (specs me).settings.sentinel lines t d.pipe s
  senderUnstarted : d.session? me = none → t.sent = [] ∧ t.rest = lines ∧
    ∃ handle, d.pipe.handles[me.stream]? = some handle ∧ handle.limit = none
  receiverEnd : ∀ s, d.session? me.other = some s → ReceiverEnd (specs me.other) t s
  receiverUnstarted : d.session? me.other = none → t.shown = []
  stream : t.shown ++ d.inHand me.other ++
      d.pipe.backlog me.other (d.reader me.other) (specs me.other).settings.chunkSize.toNat
    = pieces (specs me.other).settings.chunkSize.toNat t.sent
  quiet : d.pipe.unread me (d.reader me) = []
  closed : d.pipe.isClosed = true → ∃ s, d.session? me = some s ∧ s.isReleased = true

/-- Empty lines are not shown. -/
theorem pieces_eq_nil {lines : List String} (hempty : encodeAll lines = []) (size : Nat) :
    pieces size lines = [] := by
  rw [encodeAll, List.flatMap_eq_nil_iff] at hempty
  rw [pieces, List.flatMap_eq_nil_iff]
  intro line hline
  rw [hempty line hline, cut_nil]

theorem flatten_pieces {size : Nat} (hsize : 0 < size) (lines : List String) :
    (pieces size lines).flatten = encodeAll lines := by
  induction lines with
  | nil => rfl
  | cons line rest ih =>
    rw [pieces, List.flatMap_cons, List.flatten_append, flatten_cut hsize, ← pieces, ih]
    rfl

/-- How many moves are left to an end, at most, if its session takes no more lines and chunks. -/
def endRank : Option Session → Nat
  | some s => s.sendRank + s.inbound.rank + s.coordinator.rank
  | none => 14

/-- How many moves are left to a dialogue in which one end sends, at most. -/
def rank (me : Side) (t : Progress) (d : Dialogue) : Nat :=
  cost t.rest + 2 * (d.pipe.unread me.other (d.reader me.other)).length +
    endRank (d.session? me) + endRank (d.session? me.other)

theorem inHand_eq {d : Dialogue} {side : Side} {s : Session} (hs : d.session? side = some s) :
    d.inHand side = s.inHand := by
  rw [inHand, hs]

theorem inHand_update_other (d : Dialogue) (side : Side) (s : Session) (p : Pipe)
    (sent got : Bytes) : (d.update side s p sent got).inHand side.other = d.inHand side.other := by
  rw [inHand, inHand, session?_update_other]

namespace OneWay

variable {specs : Side → EndSpec} {me : Side} {lines : List String} {t : Progress} {d d' : Dialogue}
  {s s' : Session} {p : Pipe}

/-! ## What happens at an end -/

/-- The dialogue goes on at the sender's end, and some lines, or none, are out in full by that. -/
theorem advance_senderEnd (hd : OneWay specs me lines t d) {sent got : Bytes}
    {more rest : List String}
    (hsound : (d.update me s' p sent got).Sound) (hcapacity : p.capacity = d.pipe.capacity)
    (hsenderEnd : SenderEnd (specs me).settings.sentinel lines
      { t with sent := t.sent ++ more, rest } p s')
    (hquiet : p.unread me s'.reader = [])
    (hunread : p.unread me.other (d.reader me.other)
      = d.pipe.unread me.other (d.reader me.other) ++ encodeAll more)
    (hbacklog : ∀ size, p.backlog me.other (d.reader me.other) size
      = d.pipe.backlog me.other (d.reader me.other) size ++ pieces size more)
    (hclosed : p.isClosed = true → s'.isReleased = true)
    (hrank : cost rest + endRank (some s') + 2 * (encodeAll more).length <
      cost t.rest + endRank (d.session? me)) :
    ∃ t', OneWay specs me lines t' (d.update me s' p sent got) ∧
      rank me t' (d.update me s' p sent got) < rank me t d := by
  refine ⟨{ t with sent := t.sent ++ more, rest }, ?_, ?_⟩
  · exact {
      sound := hsound
      capacity := hcapacity.trans hd.capacity
      senderEnd := fun s₁ hs₁ => by
        obtain rfl : s' = s₁ := by simpa using hs₁
        exact hsenderEnd
      senderUnstarted := fun hnone => by
        rw [session?_update] at hnone
        cases hnone
      receiverEnd := fun s₁ hs₁ => by
        rw [session?_update_other] at hs₁
        have hreceiverEnd := hd.receiverEnd s₁ hs₁
        exact ⟨hreceiverEnd.led, hreceiverEnd.sendsNothing, hreceiverEnd.receiverInv,
          hreceiverEnd.size⟩
      receiverUnstarted := fun hnone => by
        rw [session?_update_other] at hnone
        exact hd.receiverUnstarted hnone
      stream := by
        rw [inHand_update_other, reader_update_other]
        dsimp only [update]
        rw [hbacklog, ← List.append_assoc, hd.stream, pieces, pieces, pieces, List.flatMap_append]
      quiet := by
        rw [reader_eq (session?_update d me s' p sent got)]
        exact hquiet
      closed := fun hc => ⟨s', session?_update d me s' p sent got, hclosed hc⟩ }
  · simp only [rank, session?_update, session?_update_other, reader_update_other]
    dsimp only [update]
    rw [hunread, List.length_append]
    omega

/-- The dialogue goes on at the receiver's end. -/
theorem advance_receiverEnd (hd : OneWay specs me lines t d) {got : Bytes} {shown : List Bytes}
    (hsound : (d.update me.other s' p [] got).Sound) (hcapacity : p.capacity = d.pipe.capacity)
    (hsameHandles : SameHandles d.pipe p) (hframe : Untouched me d.pipe p)
    (hreceiverEnd : ReceiverEnd (specs me.other) { t with shown } s')
    (hstream : shown ++ s'.inHand ++
        p.backlog me.other s'.reader (specs me.other).settings.chunkSize.toNat
      = t.shown ++ d.inHand me.other ++
        d.pipe.backlog me.other (d.reader me.other) (specs me.other).settings.chunkSize.toNat)
    (hclosed : p.isClosed = true → d.pipe.isClosed = true)
    (hrank : endRank (some s') + 2 * (p.unread me.other s'.reader).length <
      endRank (d.session? me.other) +
        2 * (d.pipe.unread me.other (d.reader me.other)).length) :
    ∃ t', OneWay specs me lines t' (d.update me.other s' p [] got) ∧
      rank me t' (d.update me.other s' p [] got) < rank me t d := by
  have hsession : (d.update me.other s' p [] got).session? me = d.session? me :=
    session?_update_of_ne d (Side.ne_other me) s' p [] got
  have hreader : (d.update me.other s' p [] got).reader me = d.reader me := by
    rw [reader, reader, hsession]
  have hfree : ∀ {h : Nat}, (∃ handle, d.pipe.handles[h]? = some handle ∧ handle.limit = none) →
      ∃ handle, p.handles[h]? = some handle ∧ handle.limit = none := by
    rintro h ⟨handle, hget, hlimit⟩
    obtain ⟨handle', hget', -, hlimit'⟩ := hsameHandles _ _ hget
    exact ⟨handle', hget', hlimit'.trans hlimit⟩
  refine ⟨{ t with shown }, ?_, ?_⟩
  · exact {
      sound := hsound
      capacity := hcapacity.trans hd.capacity
      senderEnd := fun s₁ hs₁ => by
        rw [hsession] at hs₁
        have hsenderEnd := hd.senderEnd s₁ hs₁
        exact ⟨hsenderEnd.led, hsenderEnd.senderInv, hsenderEnd.receivesNothing,
          hfree hsenderEnd.free⟩
      senderUnstarted := fun hnone => by
        rw [hsession] at hnone
        obtain ⟨hsent, hrest, hstream⟩ := hd.senderUnstarted hnone
        exact ⟨hsent, hrest, hfree hstream⟩
      receiverEnd := fun s₁ hs₁ => by
        obtain rfl : s' = s₁ := by simpa using hs₁
        exact hreceiverEnd
      receiverUnstarted := fun hnone => by
        rw [session?_update] at hnone
        cases hnone
      stream := by
        rw [inHand_eq (session?_update d me.other s' p [] got),
          reader_eq (session?_update d me.other s' p [] got)]
        exact hstream.trans hd.stream
      quiet := by
        rw [hreader]
        exact (hframe.sameStream (hd.sound.reads me)).unread.trans hd.quiet
      closed := fun hc => by
        rw [hsession]
        exact hd.closed (hclosed hc) }
  · simp only [rank, session?_update, hsession,
      reader_eq (session?_update d me.other s' p [] got)]
    dsimp only [update]
    omega

/-! ## The sender's moves -/

/-- The sender makes a move by which some lines, or none, are out in full. -/
theorem sender_step (hd : OneWay specs me lines t d) (hs : d.session? me = some s)
    {sent got : Bytes} (heffect : Session.StepEffect me sent got d.pipe s p s')
    {more rest : List String}
    (hsenderEnd : SenderEnd (specs me).settings.sentinel lines
      { t with sent := t.sent ++ more, rest } p s')
    (hsent : sent = encodeAll more)
    (hbacklog : ∀ size, p.backlog me.other (d.reader me.other) size
      = d.pipe.backlog me.other (d.reader me.other) size ++ pieces size more)
    (hclosed : p.isClosed = true → s'.isReleased = true)
    (hrank : cost rest + endRank (some s') + 2 * (encodeAll more).length <
      cost t.rest + endRank (some s)) :
    ∃ t', OneWay specs me lines t' (d.update me s' p sent got) ∧
      rank me t' (d.update me s' p sent got) < rank me t d := by
  have hquiet : p.unread me s'.reader = [] := by
    have hflow := heffect.flow
    have hbefore := hd.quiet
    rw [reader_eq hs] at hbefore
    rw [hbefore, List.append_eq_nil_iff] at hflow
    rw [heffect.reader]
    exact hflow.2
  have hunread := heffect.far.unread (hd.sound.reads me.other)
  rw [hsent] at hunread
  refine hd.advance_senderEnd (hd.sound.move hs heffect) heffect.capacity hsenderEnd hquiet hunread
    hbacklog hclosed ?_
  rw [hs]
  exact hrank

/-- The sender's handle has no limit, and keeps none. -/
theorem free (hd : OneWay specs me lines t d) (hs : d.session? me = some s) {sent got : Bytes}
    (heffect : Session.StepEffect me sent got d.pipe s p s') :
    ∃ handle, p.handles[s'.writer]? = some handle ∧ handle.limit = none := by
  obtain ⟨handle, hget, hlimit⟩ := (hd.senderEnd s hs).free
  obtain ⟨handle', hget', -, hlimit'⟩ := heffect.sameHandles _ _ hget
  exact ⟨handle', by rw [heffect.writer, hget'], hlimit'.trans hlimit⟩

/-- The sender makes a move by which nothing is sent; empty lines may be out by it. -/
theorem sender_local (hd : OneWay specs me lines t d) (hs : d.session? me = some s) {got : Bytes}
    (heffect : Session.StepEffect me [] got d.pipe s p s') (hled : s'.LedBy .outbound)
    {more rest : List String}
    (hsenderInv : s'.SenderInv (specs me).settings.sentinel lines (t.sent ++ more) rest)
    (hempty : encodeAll more = []) (hreceivesNothing : s'.ReceivesNothing)
    (hclosed : p.isClosed = true → s'.isReleased = true)
    (hrank : cost rest + endRank (some s') < cost t.rest + endRank (some s)) :
    ∃ t', OneWay specs me lines t' (d.update me s' p [] got) ∧
      rank me t' (d.update me s' p [] got) < rank me t d := by
  refine hd.sender_step hs heffect ⟨hled, hsenderInv, hreceivesNothing, hd.free hs heffect⟩
    hempty.symm ?_ hclosed ?_
  · intro size
    have hsame := (heffect.frame rfl).sameStream (hd.sound.reads me.other)
    rw [hsame.backlog, pieces_eq_nil hempty, List.append_nil]
  · rw [hempty, List.length_nil]
    exact hrank

/-- The pipe is closed by the sender only. -/
theorem released (hd : OneWay specs me lines t d) (hs : d.session? me = some s)
    (hclosed : d.pipe.isClosed = true) : s.isReleased = true := by
  obtain ⟨s₁, hs₁, hreleased⟩ := hd.closed hclosed
  rw [hs] at hs₁
  cases hs₁
  exact hreleased

/-- A line that is sent is taken at once, and is the next chunk on its way to the receiver. -/
theorem send_eq (hd : OneWay specs me lines t d) (hs : d.session? me = some s) {data : Bytes}
    (hoffer : s.outbound.offer? = some data) (hdata : data ≠ []) :
    d.pipe.send s.writer data = some (.ok data.length,
      d.pipe.setLane (d.pipe.lane me.other ++ [data]) me.other) := by
  have hsenderEnd := hd.senderEnd s hs
  obtain ⟨handle, hget, hlimit⟩ := hsenderEnd.free
  obtain ⟨handle', hget', hside⟩ := (hd.sound.onEnd me s hs).writer
  cases hget.symm.trans hget'
  -- By the time the pipe is closed the outbound relay is gone, and offers nothing.
  have hopen : d.pipe.isClosed = false := by
    cases hclosed : d.pipe.isClosed with
    | false => rfl
    | true =>
      obtain ⟨exit, hgone⟩ := (hsenderEnd.led.of_released (hd.released hs hclosed)).2
      simp [Outbound.offer?, Outbound.gone?_eq_some_iff.1 hgone] at hoffer
  have hheld : d.pipe.isHeld me.other = true := by
    rcases hd.sound.present me.other with hclosed | hheld
    · rw [hopen] at hclosed
      cases hclosed
    · exact hheld
  have hsend := send_all hget hd.capacity hlimit hopen (hside ▸ hheld) hdata
  rw [hside] at hsend
  exact hsend

/-- The sender sends a line. -/
theorem sender_send (hd : OneWay specs me lines t d) (hs : d.session? me = some s)
    (h : s.send d.pipe = some (s', p))
    (heffect : Session.StepEffect me (s.sends d.pipe (.act .send)) [] d.pipe s p s')
    (hled : s'.LedBy .outbound) (hreceivesNothing : s'.ReceivesNothing)
    (hsame : s'.inbound = s.inbound ∧
      s'.coordinator = s.coordinator) (hclosed : p.isClosed = true → s'.isReleased = true) :
    ∃ t', OneWay specs me lines t' (d.update me s' p (s.sends d.pipe (.act .send)) []) ∧
      rank me t' (d.update me s' p (s.sends d.pipe (.act .send)) []) < rank me t d := by
  obtain ⟨line, hsenderInv, hoffer, hne, hcall, hrank⟩ := (hd.senderEnd s hs).senderInv.send
    (fun data hoffer hdata => ⟨_, hd.send_eq hs hoffer hdata⟩) h
  have hsend := hd.send_eq hs hoffer hne
  obtain rfl : p = d.pipe.setLane (d.pipe.lane me.other ++ [Line.encode line]) me.other := by
    cases hcall.symm.trans hsend
    rfl
  have hsent : s.sends d.pipe (.act .send) = encodeAll [line] := by
    simp [Session.sends, hoffer, hsend, taken]
  have hsenderEnd : SenderEnd (specs me).settings.sentinel lines
      { t with sent := t.sent ++ [line], rest := t.rest } _ s' :=
    ⟨hled, hsenderInv, hreceivesNothing, hd.free hs heffect⟩
  refine hd.sender_step hs heffect hsenderEnd hsent ?_ hclosed ?_
  · intro size
    have hlane : (d.pipe.setLane (d.pipe.lane me.other ++ [Line.encode line]) me.other).lane
        me.other = d.pipe.lane me.other ++ [Line.encode line] := by simp
    rw [backlog_append (pendingOf_setLane _ _ _ _) hlane, pieces, List.flatMap_singleton]
  · simp only [endRank, hsame.1, hsame.2, encodeAll_singleton]
    omega

/-- The sender receives nothing but the end of the stream, after its signal is tripped. -/
theorem nothing_received (hd : OneWay specs me lines t d) (hs : d.session? me = some s)
    {receipt : Except Fault Bytes}
    (hreceive : d.pipe.receive s.reader s.inbound.bufferSize = some (receipt, p)) :
    receipt = .ok [] ∧ s.signal.tripped = true := by
  have honEnd := hd.sound.onEnd me s hs
  have hquiet := hd.quiet
  rw [reader_eq hs] at hquiet
  obtain ⟨data, rfl⟩ := receive_ok hreceive
  obtain ⟨-, hflow, hend⟩ := honEnd.reads.receive hd.sound.pipe honEnd.buffer hreceive
  rw [hquiet, List.append_eq_nil_iff] at hflow
  obtain ⟨rfl, -⟩ := hflow
  refine ⟨rfl, ?_⟩
  -- The receiver's end is held as long as the pipe is open, so it is the sender that has closed it.
  have hclosed : d.pipe.isClosed = true := by
    rcases (hend rfl).2.2 with hclosed | hnone
    · exact hclosed
    · rcases hd.sound.present me.other with hclosed | hheld
      · exact hclosed
      · rw [hheld] at hnone
        cases hnone
  exact ((hd.senderEnd s hs).led.of_released (hd.released hs hclosed)).1

theorem send_line (hd : OneWay specs me lines t d) (hs : d.session? me = some s)
    {action : Session.Action} (h : s.step d.pipe action = some (s', p)) :
    ∃ t', OneWay specs me lines t' (d.update me s' p (s.sends d.pipe (.act action))
        (s.receives d.pipe (.act action))) ∧
      rank me t' (d.update me s' p (s.sends d.pipe (.act action))
        (s.receives d.pipe (.act action))) < rank me t d := by
  have hsenderEnd := hd.senderEnd s hs
  have honEnd := hd.sound.onEnd me s hs
  have heffect : Session.StepEffect me (s.sends d.pipe (.act action))
      (s.receives d.pipe (.act action)) d.pipe s p s' := by
    refine honEnd.move hd.sound.pipe (hd.sound.present me.other) ?_ h
    intro chunk hphase hchunk
    exact absurd (hsenderEnd.receivesNothing.chunk_eq_nil hphase) hchunk
  have hled : s'.LedBy .outbound :=
    hsenderEnd.led.step (fun exit hexit => (hsenderEnd.receivesNothing.exit hexit).2) h
  obtain ⟨htripped, hreleased⟩ := hsenderEnd.led.mono h
  have hclosed : p.isClosed = true → s'.isReleased = true := by
    intro hc
    rcases honEnd.of_isClosed_step h hc with hclosed | ⟨hreleased', -⟩
    · exact hreleased (hd.released hs hclosed)
    · exact hreleased'
  obtain ⟨hsender, hreceiver, hcoordinator⟩ := Session.step_frame h
  -- Only a send lets bytes out. Any other step lowers the rank of the party that takes it.
  by_cases hsend : action = .send
  · subst hsend
    exact hd.sender_send hs h heffect hled
      (hsenderEnd.receivesNothing.congr (hreceiver (by decide)) htripped)
      ⟨hreceiver (by decide), (hcoordinator (by decide)).1⟩ hclosed
  rw [Session.sends_eq_nil hsend] at heffect ⊢
  cases hparty : action.party with
  | sender =>
    rw [hparty] at hreceiver hcoordinator
    have hinbound := hreceiver (by decide)
    have hco := (hcoordinator (by decide)).1
    obtain ⟨more, rest, hsenderInv, hempty, hrank⟩ :=
      hsenderEnd.senderInv.step hsenderEnd.led hparty hsend h
    refine hd.sender_local hs heffect hled hsenderInv hempty
      (hsenderEnd.receivesNothing.congr hinbound htripped) hclosed ?_
    simp only [endRank, hinbound, hco]
    omega
  | receiver =>
    rw [hparty] at hsender hcoordinator
    obtain ⟨hpump, houtbound⟩ := hsender (by decide)
    have hco := (hcoordinator (by decide)).1
    obtain ⟨hreceivesNothing, hrank⟩ := hsenderEnd.receivesNothing.step
      (fun receipt hreceive => hd.nothing_received hs hreceive) hparty h
    have hsenderInv := hsenderEnd.senderInv.congr hpump houtbound
    rw [← List.append_nil t.sent] at hsenderInv
    refine hd.sender_local hs heffect hled hsenderInv rfl hreceivesNothing hclosed ?_
    simp only [endRank, Session.sendRank, hpump, houtbound, hco]
    omega
  | coordinator =>
    rw [hparty] at hsender hreceiver
    obtain ⟨hpump, houtbound⟩ := hsender (by decide)
    have hinbound := hreceiver (by decide)
    have hrank := (hsenderEnd.led.coordinate hparty h).1
    have hsenderInv := hsenderEnd.senderInv.congr hpump houtbound
    rw [← List.append_nil t.sent] at hsenderInv
    refine hd.sender_local hs heffect hled hsenderInv rfl
      (hsenderEnd.receivesNothing.congr hinbound htripped) hclosed ?_
    simp only [endRank, Session.sendRank, hpump, houtbound, hinbound]
    omega

theorem senderEnd_waits (hd : OneWay specs me lines t d) (hs : d.session? me = some s)
    (h : s.callWait = some s') :
    ∃ t', OneWay specs me lines t' (d.update me s' d.pipe [] []) ∧
      rank me t' (d.update me s' d.pipe [] []) < rank me t d := by
  have hsenderEnd := hd.senderEnd s hs
  have hled := hsenderEnd.led.wait h
  have hclosed : d.pipe.isClosed = true → s.isReleased = true := hd.released hs
  obtain ⟨hidle, rfl⟩ := Session.of_callWait h
  have hsenderInv := hsenderEnd.senderInv
  rw [← List.append_nil t.sent] at hsenderInv
  refine hd.sender_local hs ?_ hled ⟨hsenderInv.named, hsenderInv.bytes, hsenderInv.phaseInv⟩ rfl
    ⟨hsenderEnd.receivesNothing.bytes, hsenderEnd.receivesNothing.phaseInv⟩ hclosed ?_
  · exact (hd.sound.onEnd me s hs).coordinate hd.sound.pipe ⟨rfl, rfl, rfl, rfl⟩ rfl rfl
  · simp only [endRank, Session.sendRank, Session.Coordinator.rank, hidle]
    omega

/-! ## The receiver's moves -/

/-- The receiver makes a move by which some bytes, or none, are received. -/
theorem receiver_step (hd : OneWay specs me lines t d) (hs : d.session? me.other = some s)
    {got : Bytes} (heffect : Session.StepEffect me.other [] got d.pipe s p s') {shown : List Bytes}
    (hreceiverEnd : ReceiverEnd (specs me.other) { t with shown } s')
    (hstream : shown ++ s'.inHand ++
        p.backlog me.other s.reader (specs me.other).settings.chunkSize.toNat
      = t.shown ++ s.inHand ++
        d.pipe.backlog me.other s.reader (specs me.other).settings.chunkSize.toNat)
    (hclosed : p.isClosed = true → d.pipe.isClosed = true)
    (hrank : endRank (some s') < endRank (some s) + 2 * got.length) :
    ∃ t', OneWay specs me lines t' (d.update me.other s' p [] got) ∧
      rank me t' (d.update me.other s' p [] got) < rank me t d := by
  have hframe : Untouched me d.pipe p := by
    have := heffect.frame rfl
    rwa [Side.other_other] at this
  refine hd.advance_receiverEnd (hd.sound.move hs heffect) heffect.capacity heffect.sameHandles
    hframe hreceiverEnd ?_ hclosed ?_
  · rw [heffect.reader, inHand_eq hs, reader_eq hs]
    exact hstream
  · have hflow := congrArg List.length heffect.flow
    rw [List.length_append] at hflow
    rw [heffect.reader, reader_eq hs, hs]
    omega

/-- The receiver's inbound relay makes a step. -/
theorem listen_receiver (hd : OneWay specs me lines t d) (hs : d.session? me.other = some s)
    {action : Session.Action} (hparty : action.party = .receiver)
    (h : s.step d.pipe action = some (s', p))
    (heffect : Session.StepEffect me.other [] (s.receives d.pipe (.act action)) d.pipe s p s') :
    ∃ shown, s'.ReceiverInv (specs me.other).sink.offered shown ∧
      shown ++ s'.inHand ++ p.backlog me.other s.reader (specs me.other).settings.chunkSize.toNat
        = t.shown ++ s.inHand ++
          d.pipe.backlog me.other s.reader (specs me.other).settings.chunkSize.toNat ∧
      s'.inbound.rank < s.inbound.rank + 2 * (s.receives d.pipe (.act action)).length := by
  have hreceiverEnd := hd.receiverEnd s hs
  have honEnd := hd.sound.onEnd me.other s hs
  cases action with
  | receive =>
    obtain ⟨receipt, hphase, hreceive, -⟩ := Session.of_receive (w := d.pipe) h
    obtain ⟨data, rfl⟩ := receive_ok hreceive
    have hgot : s.receives d.pipe (.act .receive) = data := by
      have hcall : d.pipe.receive s.reader s.inbound.bufferSize = some (.ok data, p) := hreceive
      simp [Session.receives, hcall]
    obtain ⟨hreceiverInv, hinHand, hinHand', hrank⟩ := hreceiverEnd.receiverInv.receive hreceive h
    have hbacklog := honEnd.reads.backlog_receive hd.sound.pipe honEnd.buffer hreceive
    rw [hreceiverEnd.size] at hbacklog
    refine ⟨t.shown, hreceiverInv, ?_, hgot ▸ hrank⟩
    rw [hinHand, hinHand', hbacklog, List.append_nil, List.append_assoc]
  | handle =>
    obtain ⟨hreceiverInv, hinHand', hrank⟩ := hreceiverEnd.receiverInv.handle hreceiverEnd.led h
    refine ⟨t.shown ++ s.inHand, hreceiverInv, ?_, hrank⟩
    rw [hinHand', List.append_nil, (heffect.same rfl).backlog]
  | reportInbound =>
    obtain ⟨hreceiverInv, hinHand, hinHand', hrank⟩ := hreceiverEnd.receiverInv.reportInbound h
    refine ⟨t.shown, hreceiverInv, ?_, hrank⟩
    rw [hinHand, hinHand', (heffect.same rfl).backlog]
  | readInput | dropInput | takeInput | cancelInput | checkSignal | send | judgeFault
  | reportOutbound | takeFirst | trip | release | join => cases hparty

theorem listen (hd : OneWay specs me lines t d) (hs : d.session? me.other = some s)
    {action : Session.Action} (h : s.step d.pipe action = some (s', p)) :
    ∃ t', OneWay specs me lines t' (d.update me.other s' p (s.sends d.pipe (.act action))
        (s.receives d.pipe (.act action))) ∧
      rank me t' (d.update me.other s' p (s.sends d.pipe (.act action))
        (s.receives d.pipe (.act action))) < rank me t d := by
  have hreceiverEnd := hd.receiverEnd s hs
  have honEnd := hd.sound.onEnd me.other s hs
  have hsends : s.sends d.pipe (.act action) = [] := by
    by_cases hsend : action = .send
    · rw [hsend, Session.sends, hreceiverEnd.sendsNothing.offer?_eq_none]
    · exact Session.sends_eq_nil hsend s d.pipe
  have heffect := honEnd.move hd.sound.pipe (hd.sound.present me.other.other)
    (fun _ _ _ => hreceiverEnd.receiverInv.sink) (m := .act action) h
  rw [hsends] at heffect ⊢
  have hled : s'.LedBy .inbound :=
    hreceiverEnd.led.step (fun exit hexit => (hreceiverEnd.sendsNothing.exit hexit).2) h
  have htripped := (hreceiverEnd.led.mono h).1
  have hsize := (Session.bufferSize_step h).trans hreceiverEnd.size
  -- The receiver shuts the pipe down only after its inbound relay has found it closed.
  have hclosed : p.isClosed = true → d.pipe.isClosed = true := by
    intro hc
    rcases honEnd.of_isClosed_step h hc with hclosed | ⟨-, after, hafter⟩
    · exact hclosed
    · obtain ⟨exit, rfl⟩ := hreceiverEnd.led.exit_of_after (.inr hafter)
      have hgone := hreceiverEnd.led.initiator exit (by rw [hafter]; rfl)
      exact (honEnd.drained (Session.exit?_of_gone? hgone)).1
  obtain ⟨hsender, hreceiver, hcoordinator⟩ := Session.step_frame h
  cases hparty : action.party with
  | sender =>
    rw [hparty] at hreceiver hcoordinator
    have hinbound := hreceiver (by decide)
    have hco := (hcoordinator (by decide)).1
    have hgot : s.receives d.pipe (.act action) = [] :=
      Session.receives_eq_nil (fun heq => by rw [heq] at hparty; cases hparty) s d.pipe
    obtain ⟨hsendsNothing, hrank⟩ := hreceiverEnd.sendsNothing.step hreceiverEnd.led hparty h
    rw [hgot] at heffect ⊢
    refine hd.receiver_step hs heffect
      ⟨hled, hsendsNothing, hreceiverEnd.receiverInv.congr hinbound, hsize⟩ ?_ hclosed ?_
    · rw [(heffect.same rfl).backlog, Session.inHand, Session.inHand, hinbound]
    · simp only [endRank, hinbound, hco]
      omega
  | receiver =>
    rw [hparty] at hsender hcoordinator
    obtain ⟨hpump, houtbound⟩ := hsender (by decide)
    have hco := (hcoordinator (by decide)).1
    obtain ⟨shown, hreceiverInv, hstream, hrank⟩ := hd.listen_receiver hs hparty h heffect
    refine hd.receiver_step hs heffect
      ⟨hled, hreceiverEnd.sendsNothing.congr hpump houtbound htripped, hreceiverInv, hsize⟩
      hstream hclosed ?_
    simp only [endRank, Session.sendRank, hpump, houtbound, hco]
    omega
  | coordinator =>
    rw [hparty] at hsender hreceiver
    obtain ⟨hpump, houtbound⟩ := hsender (by decide)
    have hinbound := hreceiver (by decide)
    have hgot : s.receives d.pipe (.act action) = [] :=
      Session.receives_eq_nil (fun heq => by rw [heq] at hparty; cases hparty) s d.pipe
    have hrank := (hreceiverEnd.led.coordinate hparty h).1
    rw [hgot] at heffect ⊢
    refine hd.receiver_step hs heffect
      ⟨hled, hreceiverEnd.sendsNothing.congr hpump houtbound htripped,
        hreceiverEnd.receiverInv.congr hinbound, hsize⟩ ?_ hclosed ?_
    · rw [(heffect.same rfl).backlog, Session.inHand, Session.inHand, hinbound]
    · simp only [endRank, Session.sendRank, hpump, houtbound, hinbound]
      omega

theorem receiverEnd_waits (hd : OneWay specs me lines t d) (hs : d.session? me.other = some s)
    (h : s.callWait = some s') :
    ∃ t', OneWay specs me lines t' (d.update me.other s' d.pipe [] []) ∧
      rank me t' (d.update me.other s' d.pipe [] []) < rank me t d := by
  have hreceiverEnd := hd.receiverEnd s hs
  have hled := hreceiverEnd.led.wait h
  obtain ⟨hidle, rfl⟩ := Session.of_callWait h
  have hsendsNothing := hreceiverEnd.sendsNothing
  have heffect : Session.StepEffect me.other [] [] d.pipe s d.pipe
      { s with coordinator := .awaiting } :=
    (hd.sound.onEnd me.other s hs).coordinate hd.sound.pipe ⟨rfl, rfl, rfl, rfl⟩ rfl rfl
  refine hd.receiver_step hs heffect
    ⟨hled, hsendsNothing.congr rfl rfl id, hreceiverEnd.receiverInv.congr rfl, hreceiverEnd.size⟩
    rfl id ?_
  simp only [endRank, Session.sendRank, Session.Coordinator.rank, hidle, List.length_nil]
  omega

/-! ## The sessions' starts -/

theorem endRank_enter {spec : EndSpec} {side : Side} {p₀ : Pipe}
    (h : spec.enter side p₀ = (.ok s, p)) (hwaits : s.inbound.phase = .receiving) :
    endRank (some s) = 13 := by
  have hinbound : s.inbound.rank = 3 := by rw [Inbound.rank, hwaits]
  obtain ⟨reader, writer, p₁, p₂, log, -, -, -, -, rfl⟩ := Session.of_start h
  simp only [endRank, hinbound]
  rfl

theorem senderEnd_enters (hd : OneWay specs me lines t d) (hnone : d.session? me = none)
    (hbuffer : (specs me).settings.chunkSize.toNat ≤ Inbound.maxBuffer)
    (hsource : (specs me).source.Yields (specs me).settings.sentinel lines)
    (h : (specs me).enter me d.pipe = (.ok s, p)) :
    ∃ t', OneWay specs me lines t' (d.update me s p [] []) ∧
      rank me t' (d.update me s p [] []) < rank me t d := by
  have hentered := (specs me).entered hbuffer hd.sound.pipe (hd.sound.unstarted me hnone) h
  have hsame := hentered.frame.sameStream (hd.sound.reads me.other)
  have hled : s.LedBy .outbound := Session.LedBy.start h .outbound
  obtain ⟨hsent, hrest, stream, hstream, hlimit⟩ := hd.senderUnstarted hnone
  obtain ⟨handle, hget, hlimit'⟩ := hentered.limit hstream
  have hsenderEnd : SenderEnd (specs me).settings.sentinel lines
      { t with sent := t.sent ++ [], rest := t.rest } p s := by
    refine ⟨hled, ?_, ⟨?_, .inl hentered.waits⟩, handle, hget, hlimit'.trans hlimit⟩
    · obtain ⟨reader, writer, p₁, p₂, log, -, -, -, -, rfl⟩ := Session.of_start h
      rw [hsent, hrest]
      exact ⟨rfl, rfl, rfl, List.not_mem_nil, hsource⟩
    · obtain ⟨reader, writer, p₁, p₂, log, -, -, -, -, rfl⟩ := Session.of_start h
      rfl
  refine hd.advance_senderEnd (hd.sound.enter hbuffer hnone h) hentered.capacity hsenderEnd ?_ ?_
    ?_ ?_ ?_
  · have hquiet := hd.quiet
    rw [reader, hnone] at hquiet
    rw [unread, hentered.pending, hentered.lane]
    exact hquiet
  · rw [hsame.unread, encodeAll_nil, List.append_nil]
  · intro size
    rw [hsame.backlog, pieces, List.flatMap_nil, List.append_nil]
  · intro hclosed
    obtain ⟨s₁, hs₁, -⟩ := hd.closed (hentered.isClosed.symm.trans hclosed)
    rw [hnone] at hs₁
    cases hs₁
  · rw [endRank_enter h hentered.waits, hnone, encodeAll_nil, List.length_nil]
    exact Nat.lt_succ_self _

theorem receiverEnd_enters (hd : OneWay specs me lines t d) (hnone : d.session? me.other = none)
    (hbuffer : (specs me.other).settings.chunkSize.toNat ≤ Inbound.maxBuffer)
    (hsilent : (specs me.other).source.read = none) (hsink : (specs me.other).sink.NeverBreaks)
    (h : (specs me.other).enter me.other d.pipe = (.ok s, p)) :
    ∃ t', OneWay specs me lines t' (d.update me.other s p [] []) ∧
      rank me t' (d.update me.other s p [] []) < rank me t d := by
  have hentered :=
    (specs me.other).entered hbuffer hd.sound.pipe (hd.sound.unstarted me.other hnone) h
  have hframe : Untouched me d.pipe p := by
    have := hentered.frame
    rwa [Side.other_other] at this
  have hled : s.LedBy .inbound := Session.LedBy.start h .inbound
  have hwaits := hentered.waits
  have hinHand : s.inHand = d.inHand me.other := by rw [Session.inHand, hwaits, inHand, hnone]
  have hreader : d.reader me.other = me.other.stream := by rw [reader, hnone]
  have hreceiverEnd : ReceiverEnd (specs me.other) { t with shown := t.shown } s := by
    have hshown := hd.receiverUnstarted hnone
    obtain ⟨reader, writer, p₁, p₂, log, hvalid, -, -, -, rfl⟩ := Session.of_start h
    refine ⟨hled, ⟨rfl, hsilent, rfl, .inl rfl⟩, ⟨hsink, ?_, ?_, ?_, ?_⟩, ?_⟩
    · rw [hshown, List.map_nil, List.append_nil]
      rfl
    · rw [hshown]
      rfl
    · intro fault hfault
      rw [hwaits] at hfault
      cases hfault
    · intro exit hexit
      rw [Inbound.exit?, hwaits] at hexit
      cases hexit
    · exact Nat.max_eq_left (Settings.chunkSize_pos hvalid)
  refine hd.advance_receiverEnd (hd.sound.enter hbuffer hnone h) hentered.capacity
    hentered.sameHandles hframe hreceiverEnd ?_ (fun hc => hentered.isClosed.symm.trans hc) ?_
  · rw [hinHand, hreader, backlog, backlog, hentered.pending, hentered.lane]
  · rw [endRank_enter h hwaits, hnone, hreader, unread, unread, hentered.pending, hentered.lane]
    exact Nat.add_lt_add_right (Nat.lt_succ_self _) _

end OneWay

end Dialogue

end TextRelay
