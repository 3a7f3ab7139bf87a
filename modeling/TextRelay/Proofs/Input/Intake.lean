import TextRelay.Input.Pump

/-!
# What a pump hands over

A source answers one reading after another. `Reading.answers` says what somebody receives of them
through a pump: the lines, then the end or the fault, and after that the message that nothing more
comes; a breakdown gives this message alone.

An intake is a pump and its receiver, in no fixed order: the pump reads when it can, the receiver
receives or goes away when it likes. `Intake.PhaseInv` says in which of five situations an intake
can be, and one move leads from one of them to another. What a receiver can rely on,
`Intake.Follows`, is read off the situation.
-/

namespace TextRelay

/-! ## Readings -/

namespace Reading

/-- What receiving answers, reading by reading; `none` says that nothing more comes. -/
def answers : List Reading → List (Option InputEvent)
  | [] => []
  | .event (.line text) :: rest => some (.line text) :: answers rest
  | .event e :: _ => [some e, none]
  | .broke :: _ => [none]

/-- The lines before the first reading that is none. -/
def lines : List Reading → List String
  | .event (.line text) :: rest => text :: lines rest
  | _ => []

/-- Some lines, as readings. -/
def typed (texts : List String) : List Reading := texts.map fun text => .event (.line text)

@[simp] theorem length_typed (texts : List String) : (typed texts).length = texts.length :=
  List.length_map _

theorem typed_concat (texts : List String) (text : String) :
    typed (texts ++ [text]) = typed texts ++ [.event (.line text)] := by
  simp [typed]

theorem answers_typed (texts : List String) (rest : List Reading) :
    answers (typed texts ++ rest) = (texts.map InputEvent.line).map some ++ answers rest := by
  induction texts with
  | nil => rfl
  | cons text later ih =>
    simp only [typed, List.map_cons, List.cons_append, answers] at ih ⊢
    rw [ih]

theorem answers_last {e : InputEvent} (hlast : ∀ text, e ≠ .line text) :
    answers [.event e] = [some e, none] := by
  cases e with
  | line text => exact absurd rfl (hlast text)
  | ended => rfl
  | failed fault => rfl

theorem lines_typed (texts : List String) (rest : List Reading) :
    lines (typed texts ++ rest) = texts ++ lines rest := by
  induction texts with
  | nil => rfl
  | cons text later ih =>
    simp only [typed, List.map_cons, List.cons_append, lines] at ih ⊢
    rw [ih]

/-- Lines alone never bring it about that nothing more comes. -/
theorem none_notMem_answers (texts : List String) : none ∉ answers (typed texts) := by
  have hanswers := answers_typed texts []
  rw [List.append_nil] at hanswers
  simp [hanswers, answers]

theorem lines_isPrefix (first second : List Reading) : lines first <+: lines (first ++ second) := by
  fun_induction lines first with
  | case1 text rest ih =>
    rw [List.cons_append, lines]
    exact List.cons_prefix_cons.2 ⟨rfl, ih⟩
  | case2 first hline => exact List.nil_prefix

theorem isPrefix_lines {texts : List String} {readings : List Reading}
    (h : (texts.map InputEvent.line).map some <+: answers readings) : texts <+: lines readings := by
  induction readings generalizing texts with
  | nil =>
    cases texts with
    | nil => exact List.nil_prefix
    | cons text later => simp [answers] at h
  | cons reading rest ih =>
    cases texts with
    | nil => exact List.nil_prefix
    | cons text later =>
      match reading with
      | .event (.line other) =>
        simp only [answers, List.map_cons, List.cons_prefix_cons] at h
        cases h.1
        exact List.cons_prefix_cons.2 ⟨rfl, ih h.2⟩
      | .event .ended | .event (.failed _) | .broke => simp [answers] at h

theorem length_lines_le (readings : List Reading) : (lines readings).length ≤ readings.length := by
  fun_induction lines readings with
  | case1 text rest ih => exact Nat.succ_le_succ ih
  | case2 readings hline => exact Nat.zero_le _

end Reading

namespace Source

theorem reads_take (n m : Nat) (s : Source) : (s.reads (n + m)).take n = s.reads n := by
  induction n generalizing s with
  | zero => rfl
  | succ n ih =>
    rw [Nat.succ_add, reads, reads]
    cases s.read with
    | none => rfl
    | some answer => rw [List.take_succ_cons, ih]

/-- A longer look at a source shows what a shorter one does, and perhaps more. -/
theorem reads_isPrefix {n m : Nat} (hle : n ≤ m) (s : Source) : s.reads n <+: s.reads m := by
  obtain ⟨k, rfl⟩ := Nat.exists_eq_add_of_le hle
  rw [← reads_take n k s]
  exact List.take_prefix ..

theorem length_reads_le (n : Nat) (s : Source) : (s.reads n).length ≤ n := by
  induction n generalizing s with
  | zero => exact Nat.le_refl 0
  | succ n ih =>
    rw [reads]
    cases s.read with
    | none => exact Nat.zero_le _
    | some answer => exact Nat.succ_le_succ (ih answer.2)

/-- After `n` readings a source has become `s`. -/
structure Reaches (source : Source) (n : Nat) (s : Source) : Prop where
  length : (source.reads n).length = n
  more : ∀ m, source.reads (n + m) = source.reads n ++ s.reads m

namespace Reaches

variable {source s s' : Source} {n : Nat}

theorem refl (source : Source) : source.Reaches 0 source := by
  refine ⟨rfl, fun m => ?_⟩
  rw [Nat.zero_add]
  rfl

theorem reads_succ (h : source.Reaches n s) {reading : Reading}
    (hread : s.read = some (reading, s')) : source.reads (n + 1) = source.reads n ++ [reading] := by
  rw [h.more 1, reads, hread]
  rfl

theorem next (h : source.Reaches n s) {reading : Reading} (hread : s.read = some (reading, s')) :
    source.Reaches (n + 1) s' := by
  constructor
  · rw [h.reads_succ hread, List.length_append, h.length, List.length_singleton]
  · intro m
    have hmore : s.reads (1 + m) = reading :: s'.reads m := by
      rw [Nat.add_comm, reads, hread]
    rw [Nat.add_assoc, h.more, hmore, h.reads_succ hread, List.append_assoc, List.singleton_append]

theorem blocked (h : source.Reaches n s) (hread : s.read = none) {m : Nat} (hle : n ≤ m) :
    source.reads m = source.reads n := by
  obtain ⟨k, rfl⟩ := Nat.exists_eq_add_of_le hle
  rw [h.more]
  cases k with
  | zero => exact List.append_nil _
  | succ k =>
    rw [reads, hread]
    exact List.append_nil _

end Reaches

end Source

/-! ## Receiving as long as something comes -/

namespace Pump

theorem receives_finished (source : Source) (n : Nat) :
    receives n ⟨source, .finished⟩ = [none].take n := by
  cases n with
  | zero => rfl
  | succ n => simp [receives, read, take]

/-- So many receives answer what the readings say. -/
theorem receives_eq (n : Nat) (source : Source) :
    receives n ⟨source, .reading⟩ = (Reading.answers (source.reads n)).take n := by
  induction n generalizing source with
  | zero => rfl
  | succ n ih =>
    rw [receives, Source.reads]
    cases hread : source.read with
    | none => simp [read, hread, take, Reading.answers]
    | some answer =>
      obtain ⟨reading, s⟩ := answer
      match reading with
      | .broke => simp [read, hread, take, Reading.answers]
      | .event (.line text) => simp [read, hread, take, Reading.answers, ih]
      | .event .ended => simp [read, hread, take, Reading.answers, receives_finished]
      | .event (.failed fault) => simp [read, hread, take, Reading.answers, receives_finished]

end Pump

/-! ## The receiver and the pump side by side -/

/-- A pump with its receiver, and what came of them so far. -/
structure Intake where
  pump : Pump
  /-- Whether the receiver is still there. -/
  isHeld : Bool := true
  received : List InputEvent := []
  /-- How many readings the source has made. -/
  count : Nat := 0

namespace Intake

inductive Move where
  | read
  | receive
  | drop
  | giveUp
  deriving DecidableEq, Repr

/-- Receives what the pump holds; the answer `none` says that nothing more comes. -/
def receive (i : Intake) : Option (Option InputEvent × Intake) :=
  if i.isHeld then i.pump.take.map fun (event?, pump) =>
    (event?, { i with pump, received := i.received ++ event?.toList })
  else none

/-- One move, unless the intake is not at the point for it. -/
def step (i : Intake) : Move → Option Intake
  | .read => i.pump.read.map fun pump => { i with pump, count := i.count + 1 }
  | .receive => i.receive.map Prod.snd
  | .drop => if i.isHeld then some { i with isHeld := false } else none
  | .giveUp => if i.isHeld then none else i.pump.giveUp.map fun pump => { i with pump }

def run : Intake → List Move → Option Intake
  | i, [] => some i
  | i, move :: rest => (i.step move).bind (run · rest)

/-- How often reading the source was begun: a pump that is about to read may be at it already. -/
def begun (i : Intake) : Nat :=
  match i.pump.phase with
  | .reading => i.count + 1
  | _ => i.count

/-- Where an intake stands, told by what was read and received. -/
inductive PhaseInv (readings : List Reading) (received : List InputEvent) (isHeld : Bool) :
    Pump.Phase → Prop where
  | reading (texts : List String) (hread : readings = Reading.typed texts)
    (hreceived : received = texts.map .line) : PhaseInv readings received isHeld .reading
  | offering (texts : List String) (e : InputEvent)
    (hread : readings = Reading.typed texts ++ [.event e])
    (hreceived : received = texts.map .line) : PhaseInv readings received isHeld (.offering e)
  | broken (texts : List String) (hread : readings = Reading.typed texts ++ [.broke])
    (hreceived : received = texts.map .line) : PhaseInv readings received isHeld .finished
  | ended (texts : List String) (e : InputEvent) (hlast : ∀ text, e ≠ .line text)
    (hread : readings = Reading.typed texts ++ [.event e])
    (hreceived : received = texts.map .line ++ [e]) : PhaseInv readings received isHeld .finished
  | refused (texts : List String) (e : InputEvent)
    (hread : readings = Reading.typed texts ++ [.event e])
    (hreceived : received = texts.map .line) (hgone : isHeld = false) :
    PhaseInv readings received isHeld .finished

namespace PhaseInv

variable {readings : List Reading} {received : List InputEvent} {isHeld : Bool}
  {phase : Pump.Phase}

/-- When the receiver goes away, nothing else changes. -/
theorem dropped (h : PhaseInv readings received isHeld phase) :
    PhaseInv readings received false phase := by
  cases h with
  | reading texts hread hreceived => exact .reading texts hread hreceived
  | offering texts e hread hreceived => exact .offering texts e hread hreceived
  | broken texts hread hreceived => exact .broken texts hread hreceived
  | ended texts e hlast hread hreceived => exact .ended texts e hlast hread hreceived
  | refused texts e hread hreceived _ => exact .refused texts e hread hreceived rfl

/-- All readings but the last are lines, and all but the last have been received. -/
theorem typed (h : PhaseInv readings received isHeld phase) : ∃ texts last,
    readings = Reading.typed texts ++ last ∧ last.length ≤ 1 ∧ texts.length ≤ received.length := by
  cases h with
  | reading texts hread hreceived =>
    exact ⟨texts, [], by simp [hread], by simp, by simp [hreceived]⟩
  | offering texts e hread hreceived => exact ⟨texts, _, hread, by simp, by simp [hreceived]⟩
  | broken texts hread hreceived => exact ⟨texts, _, hread, by simp, by simp [hreceived]⟩
  | ended texts e hlast hread hreceived => exact ⟨texts, _, hread, by simp, by simp [hreceived]⟩
  | refused texts e hread hreceived => exact ⟨texts, _, hread, by simp, by simp [hreceived]⟩

theorem answers_eq (h : PhaseInv readings received isHeld phase) : ∃ next,
    Reading.answers readings = received.map some ++ next ∧
    (isHeld = true → ∀ source, (Pump.take ⟨source, phase⟩).map Prod.fst = next.head?) := by
  cases h with
  | reading texts hread hreceived =>
    refine ⟨[], ?_, fun _ _ => rfl⟩
    rw [hread, hreceived, ← List.append_nil (Reading.typed texts), Reading.answers_typed]
    rfl
  | offering texts e hread hreceived =>
    refine ⟨Reading.answers [.event e], ?_, fun _ _ => ?_⟩
    · rw [hread, hreceived, Reading.answers_typed]
    · cases e <;> rfl
  | broken texts hread hreceived =>
    refine ⟨[none], ?_, fun _ _ => rfl⟩
    rw [hread, hreceived, Reading.answers_typed]
    rfl
  | ended texts e hlast hread hreceived =>
    refine ⟨[none], ?_, fun _ _ => rfl⟩
    rw [hread, hreceived, Reading.answers_typed, Reading.answers_last hlast]
    simp
  | refused texts e hread hreceived hgone =>
    refine ⟨Reading.answers [.event e], ?_, fun hheld => ?_⟩
    · rw [hread, hreceived, Reading.answers_typed]
    · rw [hgone] at hheld
      cases hheld

end PhaseInv

/-- An intake whose pump began with some source. -/
structure Tracks (source : Source) (i : Intake) : Prop where
  reaches : source.Reaches i.count i.pump.source
  phaseInv : PhaseInv (source.reads i.count) i.received i.isHeld i.pump.phase

namespace Tracks

variable {source : Source} {i i' : Intake}

theorem start (source : Source) : Tracks source { pump := { source } } where
  reaches := .refl source
  phaseInv := .reading [] rfl rfl

theorem read (hi : i.Tracks source) (h : i.step .read = some i') : i'.Tracks source := by
  obtain ⟨pump, hread, rfl⟩ := Option.map_eq_some_iff.1 h
  unfold Pump.read at hread
  split at hread
  · next hphase =>
    obtain ⟨⟨reading, s⟩, hsource, rfl⟩ := Option.map_eq_some_iff.1 hread
    have hsucc := hi.reaches.reads_succ hsource
    have hphases := hi.phaseInv
    rw [hphase] at hphases
    obtain ⟨texts, htyped, hreceived⟩ := hphases
    rw [htyped] at hsucc
    cases reading with
    | event e => exact ⟨hi.reaches.next hsource, .offering texts e hsucc hreceived⟩
    | broke => exact ⟨hi.reaches.next hsource, .broken texts hsucc hreceived⟩
  · cases hread

theorem receive (hi : i.Tracks source) {event? : Option InputEvent}
    (h : i.receive = some (event?, i')) : i'.Tracks source := by
  unfold Intake.receive at h
  split at h
  · obtain ⟨⟨event?, pump⟩, htake, heq⟩ := Option.map_eq_some_iff.1 h
    cases heq
    obtain ⟨hleads, hphases⟩ := hi
    unfold Pump.take at htake
    split at htake
    · cases htake
    · next text hphase =>
      cases htake
      rw [hphase] at hphases
      cases hphases with
      | offering texts _ hread hreceived =>
        refine ⟨hleads, .reading (texts ++ [text]) ?_ ?_⟩
        · rw [Reading.typed_concat]
          exact hread
        · simp [hreceived]
    · next e hlast hphase =>
      cases htake
      rw [hphase] at hphases
      cases hphases with
      | offering texts _ hread hreceived =>
        refine ⟨hleads, .ended texts e hlast hread ?_⟩
        simp [hreceived]
    · next hphase =>
      cases htake
      refine ⟨hleads, ?_⟩
      simpa using hphases
  · cases h

theorem drop (hi : i.Tracks source) (h : i.step .drop = some i') : i'.Tracks source := by
  simp only [step] at h
  split at h
  · cases h
    exact ⟨hi.reaches, hi.phaseInv.dropped⟩
  · cases h

theorem giveUp (hi : i.Tracks source) (h : i.step .giveUp = some i') : i'.Tracks source := by
  simp only [step] at h
  split at h
  · cases h
  · next hgone =>
    obtain ⟨pump, hgive, rfl⟩ := Option.map_eq_some_iff.1 h
    unfold Pump.giveUp at hgive
    split at hgive
    · next e hphase =>
      cases hgive
      have hphases := hi.phaseInv
      rw [hphase] at hphases
      cases hphases with
      | offering texts _ hread hreceived =>
        exact ⟨hi.reaches, .refused texts e hread hreceived (Bool.eq_false_iff.2 hgone)⟩
    · cases hgive

theorem step {move : Move} (hi : i.Tracks source) (h : i.step move = some i') :
    i'.Tracks source := by
  cases move with
  | read => exact hi.read h
  | receive =>
    obtain ⟨⟨event?, next⟩, hreceive, rfl⟩ := Option.map_eq_some_iff.1 h
    exact hi.receive hreceive
  | drop => exact hi.drop h
  | giveUp => exact hi.giveUp h

theorem run {moves : List Move} (hi : i.Tracks source) (h : i.run moves = some i') :
    i'.Tracks source := by
  induction moves generalizing i with
  | nil =>
    cases h
    exact hi
  | cons move rest ih =>
    obtain ⟨next, hstep, hrest⟩ := Option.bind_eq_some_iff.1 h
    exact ih (hi.step hstep) hrest

end Tracks

/-! ## What a receiver can rely on -/

/-- The receiver gets the answers to the readings, each once and in order. The pump is ahead by one
reading at most, a receive waits only while the source does, and after a reading that is no line
there is no other. -/
structure Follows (source : Source) (i : Intake) : Prop where
  received : i.received.map some <+: Reading.answers (source.reads i.count)
  ahead : i.begun ≤ i.received.length + 1
  answer : i.isHeld = true → i.receive.map Prod.fst =
    (Reading.answers (source.reads i.count))[i.received.length]?
  waits : i.isHeld = true → i.receive = none → i.pump.read = none →
    ∀ n, i.count ≤ n → source.reads n = source.reads i.count
  stops : ∀ n, none ∈ Reading.answers (source.reads n) → i.count ≤ n

namespace Tracks

variable {source : Source} {i : Intake}

theorem stops (hi : i.Tracks source) {n : Nat} (hnone : none ∈ Reading.answers (source.reads n)) :
    i.count ≤ n := by
  obtain ⟨texts, last, hread, hlast, -⟩ := hi.phaseInv.typed
  apply Nat.le_of_not_lt
  intro hlt
  have hcount : i.count = texts.length + last.length := by
    rw [← hi.reaches.length, hread, List.length_append, Reading.length_typed]
  have hlines : source.reads n = Reading.typed (texts.take n) := by
    obtain ⟨k, hk⟩ := Nat.exists_eq_add_of_le (Nat.le_of_lt hlt)
    rw [← Source.reads_take n k, ← hk, hread, List.take_append_of_le_length
      (by rw [Reading.length_typed]; omega)]
    exact (List.map_take ..).symm
  rw [hlines] at hnone
  exact Reading.none_notMem_answers _ hnone

theorem ahead (hi : i.Tracks source) : i.begun ≤ i.received.length + 1 := by
  unfold begun
  split
  · next hphase =>
    obtain ⟨texts, hread, hreceived⟩ := hphase ▸ hi.phaseInv
    have hlength := hi.reaches.length
    rw [hread, Reading.length_typed] at hlength
    rw [hreceived, List.length_map]
    omega
  · obtain ⟨texts, last, hread, hlast, hle⟩ := hi.phaseInv.typed
    have hlength := hi.reaches.length
    rw [hread, List.length_append, Reading.length_typed] at hlength
    omega

theorem waits (hi : i.Tracks source) (hheld : i.isHeld = true) (hreceive : i.receive = none)
    (hread : i.pump.read = none) {n : Nat} (hle : i.count ≤ n) :
    source.reads n = source.reads i.count := by
  have htake : i.pump.take = none := by
    simpa [Intake.receive, hheld] using hreceive
  cases hphase : i.pump.phase with
  | reading =>
    apply hi.reaches.blocked _ hle
    simpa [Pump.read, hphase] using hread
  | offering e => cases e <;> simp [Pump.take, hphase] at htake
  | finished => simp [Pump.take, hphase] at htake

theorem follows (hi : i.Tracks source) : i.Follows source := by
  obtain ⟨next, hanswers, htake⟩ := hi.phaseInv.answers_eq
  refine ⟨⟨next, hanswers.symm⟩, hi.ahead, fun hheld => ?_, fun hheld hreceive hread n hle => ?_,
    fun n => hi.stops⟩
  · have hreceive : i.receive.map Prod.fst = i.pump.take.map Prod.fst := by
      simp [Intake.receive, hheld, Function.comp_def]
    rw [hreceive, htake hheld, hanswers, List.head?_eq_getElem?,
      List.getElem?_append_right (by simp)]
    simp
  · exact hi.waits hheld hreceive hread hle

end Tracks

end Intake

end TextRelay
