import Mathlib.Algebra.GroupWithZero.Nat
import TextRelay.Proofs.Pipe.Attempts
import TextRelay.Script

/-!
# Deliveries over any stream

A delivery makes send calls until all of its data is taken or a call ends it. Here the stream is any
medium at all, of which only one thing is known: it takes no more than it is offered
(`SendBounded`). To speak of the calls, the calls of the medium are recorded (`Recorded`), which
changes nothing (`sendAll_base`).

`InProgress` is what the calls so far say about a delivery, `InProgress.feed` what one more answer
makes of it, and `account_sendAll` the loop. So a delivery can be told from the answers it got:
interruptions, and how the data was portioned out, leave no trace (`SameUpToPortions`).
-/

namespace TextRelay

/-- How many bytes an answer says were taken. -/
def countOf : Except Fault Nat → Nat
  | .ok n => n
  | .error _ => 0

/-- A send call: what it was offered, and its answer. -/
structure SendCall where
  offered : Bytes
  answer : Except Fault Nat

/-- The bytes that a call accepted. -/
def SendCall.accepted (c : SendCall) : Bytes := c.offered.take (countOf c.answer)

/-- The bytes that some calls put on the wire. -/
def wire (calls : List SendCall) : Bytes := calls.flatMap (·.accepted)

theorem wire_concat (calls : List SendCall) (c : SendCall) :
    wire (calls ++ [c]) = wire calls ++ c.accepted := by
  rw [wire, List.flatMap_append, List.flatMap_singleton, wire]

/-! ## One answer -/

/-- An answer that ends a delivery with a fault: nothing was taken, or the call failed and was not
just interrupted. -/
def Stops (answer : Except Fault Nat) (fault : Fault) : Prop :=
  fault = Delivery.stuck ∧ answer = .ok 0 ∨ fault.kind ≠ .interrupted ∧ answer = .error fault

theorem not_stops_ok {n : Nat} (hn : 0 < n) (fault : Fault) : ¬ Stops (.ok n) fault := by
  rintro (⟨-, hzero⟩ | ⟨-, hother⟩)
  · cases hzero
    cases hn
  · cases hother

theorem not_stops_interrupted {own : Fault} (hkind : own.kind = .interrupted) (fault : Fault) :
    ¬ Stops (.error own) fault := by
  rintro (⟨-, hother⟩ | ⟨hfault, hsame⟩)
  · cases hother
  · exact hfault (Except.error.inj hsame ▸ hkind)

theorem Stops.unique {answer : Except Fault Nat} {fault fault' : Fault} (h : Stops answer fault)
    (h' : Stops answer fault') : fault = fault' := by
  obtain ⟨rfl, rfl⟩ | ⟨-, rfl⟩ := h
  · obtain ⟨rfl, -⟩ | ⟨-, hother⟩ := h'
    · rfl
    · cases hother
  · obtain ⟨-, hother⟩ | ⟨-, hsame⟩ := h'
    · cases hother
    · exact Except.error.inj hsame

theorem Stops.countOf_eq_zero {answer : Except Fault Nat} {fault : Fault} (h : Stops answer fault) :
    countOf answer = 0 := by
  obtain ⟨-, rfl⟩ | ⟨-, rfl⟩ := h <;> rfl

/-- A call that ends a delivery puts nothing on the wire. -/
theorem Stops.wire_concat {answer : Except Fault Nat} {fault : Fault} (h : Stops answer fault)
    (calls : List SendCall) (offered : Bytes) :
    wire (calls ++ [⟨offered, answer⟩]) = wire calls := by
  rw [TextRelay.wire_concat, SendCall.accepted, h.countOf_eq_zero, List.take_zero, List.append_nil]

namespace Delivery

variable {d next : Delivery} {answer : Except Fault Nat} {fault : Fault}

/-- An answer counts the bytes that it says were taken, unless it ends the delivery. -/
theorem feed_cases (d : Delivery) (answer : Except Fault Nat) :
    (d.feed answer = .ok { d with written := d.written + countOf answer } ∧
      ∀ fault, ¬ Stops answer fault) ∨
    ∃ fault, d.feed answer = .error fault ∧ Stops answer fault := by
  match answer with
  | .ok 0 => exact .inr ⟨stuck, rfl, .inl ⟨rfl, rfl⟩⟩
  | .ok (n + 1) => exact .inl ⟨rfl, not_stops_ok (Nat.succ_pos n)⟩
  | .error own =>
    by_cases hkind : own.kind = .interrupted
    · exact .inl ⟨if_pos hkind, not_stops_interrupted hkind⟩
    · exact .inr ⟨own, if_neg hkind, .inr ⟨hkind, rfl⟩⟩

theorem stops_of_feed (h : d.feed answer = .error fault) : Stops answer fault := by
  obtain ⟨hfeed, -⟩ | ⟨own, hfeed, hstops⟩ := d.feed_cases answer
  · rw [h] at hfeed
    cases hfeed
  · rw [h] at hfeed
    exact Except.error.inj hfeed ▸ hstops

theorem of_feed_ok (h : d.feed answer = .ok next) :
    next = { d with written := d.written + countOf answer } ∧ ∀ fault, ¬ Stops answer fault := by
  obtain ⟨hfeed, hgoesOn⟩ | ⟨own, hfeed, -⟩ := d.feed_cases answer
  · rw [h] at hfeed
    exact ⟨Except.ok.inj hfeed, hgoesOn⟩
  · rw [h] at hfeed
    cases hfeed

theorem isDone_iff : d.isDone = true ↔ d.remaining = [] := by
  rw [isDone, decide_eq_true_iff, remaining, List.drop_eq_nil_iff]

end Delivery

/-- What the calls so far say about a delivery of some data that is still under way. -/
structure InProgress (data : Bytes) (calls : List SendCall) (d : Delivery) : Prop where
  split : wire calls ++ d.remaining = data
  offers : ∀ before c after, calls = before ++ c :: after → wire before ++ c.offered = data
  goesOn : ∀ c ∈ calls, ∀ fault, ¬ Stops c.answer fault
  fits : ∀ c ∈ calls, countOf c.answer ≤ c.offered.length

namespace InProgress

variable {data : Bytes} {calls : List SendCall} {d next : Delivery} {answer : Except Fault Nat}

theorem start (data : Bytes) : InProgress data [] { data } where
  split := rfl
  offers before c after h := by simp at h
  goesOn c h := by cases h
  fits c h := by cases h

theorem isDone_iff (h : InProgress data calls d) : d.isDone = true ↔ wire calls = data := by
  rw [Delivery.isDone_iff]
  constructor
  · intro hnone
    rw [← h.split, hnone, List.append_nil]
  · intro hall
    have hsplit := h.split
    rw [hall] at hsplit
    exact List.append_cancel_left (hsplit.trans (List.append_nil data).symm)

/-- The next call is offered what is left. -/
theorem offers_concat (h : InProgress data calls d) {before after : List SendCall} {c : SendCall}
    (heq : calls ++ [⟨d.remaining, answer⟩] = before ++ c :: after) :
    wire before ++ c.offered = data := by
  rw [List.append_eq_append_iff] at heq
  obtain ⟨more, rfl, hlast⟩ | ⟨more, hcalls, hlast⟩ := heq
  · cases more with
    | nil =>
      obtain ⟨rfl, -⟩ := List.cons.inj hlast
      rw [List.append_nil]
      exact h.split
    | cons x more => simp at hlast
  · cases more with
    | nil =>
      obtain ⟨rfl, -⟩ := List.cons.inj hlast
      rw [List.append_nil] at hcalls
      exact hcalls ▸ h.split
    | cons x more =>
      obtain ⟨rfl, -⟩ := List.cons.inj hlast
      exact h.offers before c more hcalls

theorem feed (h : InProgress data calls d) (hroom : countOf answer ≤ d.remaining.length)
    (hfeed : d.feed answer = .ok next) :
    InProgress data (calls ++ [⟨d.remaining, answer⟩]) next := by
  obtain ⟨rfl, hgoesOn⟩ := Delivery.of_feed_ok hfeed
  refine ⟨?_, fun before c after => h.offers_concat, ?_, ?_⟩
  · have hrest : Delivery.remaining { d with written := d.written + countOf answer } =
        d.remaining.drop (countOf answer) := by
      simp only [Delivery.remaining, List.drop_drop]
    rw [wire_concat, SendCall.accepted, hrest, List.append_assoc, List.take_append_drop, h.split]
  · exact List.forall_mem_append.2 ⟨h.goesOn, List.forall_mem_singleton.2 hgoesOn⟩
  · exact List.forall_mem_append.2 ⟨h.fits, List.forall_mem_singleton.2 hroom⟩

end InProgress

/-! ## All calls -/

/-- A medium that does as it would and records its send calls. -/
structure Recorded (κ : Type) where
  base : κ
  calls : List SendCall := []

namespace Medium

variable {κ : Type}

/-- How far a delivery got, without the record. -/
def Sending.base : Sending (Recorded κ) → Sending κ
  | ended result t => ended result t.base
  | blocked left t => blocked left t.base

theorem Sending.after_base (s : Sending (Recorded κ)) : s.base.after = s.after.base := by
  cases s <;> rfl

/-- What a delivery of some data amounts to, told from its calls. -/
inductive Account (data : Bytes) : Sending (Recorded κ) → Prop where
  | pending {left : Delivery} {t : Recorded κ} (hcalls : InProgress data t.calls left) :
    Account data (.blocked left t)
  | done {d : Delivery} {t : Recorded κ} (hcalls : InProgress data t.calls d)
    (hdone : wire t.calls = data) : Account data (.ended (.ok ()) t)
  | broken {d : Delivery} {t : Recorded κ} {calls : List SendCall} {answer : Except Fault Nat}
    {fault : Fault} (hcalls : InProgress data calls d) (hleft : wire calls ≠ data)
    (hstops : Stops answer fault) (hlast : t.calls = calls ++ [⟨d.remaining, answer⟩]) :
    Account data (.ended (.error fault) t)

namespace Account

variable {data : Bytes} {s : Sending (Recorded κ)}

theorem offers (hs : Account data s) {before after : List SendCall} {c : SendCall}
    (heq : s.after.calls = before ++ c :: after) : wire before ++ c.offered = data := by
  cases hs with
  | pending hcalls | done hcalls => exact hcalls.offers before c after heq
  | broken hcalls hleft hstops hlast => exact hcalls.offers_concat (hlast.symm.trans heq)

theorem isPrefix_wire (hs : Account data s) : wire s.after.calls <+: data := by
  cases hs with
  | pending hcalls | done hcalls => exact ⟨_, hcalls.split⟩
  | broken hcalls hleft hstops hlast =>
    rw [Sending.after, hlast, hstops.wire_concat]
    exact ⟨_, hcalls.split⟩

theorem fits (hs : Account data s) : ∀ c ∈ s.after.calls, countOf c.answer ≤ c.offered.length := by
  cases hs with
  | pending hcalls | done hcalls => exact hcalls.fits
  | broken hcalls hleft hstops hlast =>
    rw [Sending.after, hlast, List.forall_mem_append, List.forall_mem_singleton,
      hstops.countOf_eq_zero]
    exact ⟨hcalls.fits, Nat.zero_le _⟩

/-- A delivery ends with a fault exactly if a call has answered so. -/
theorem error_iff (hs : Account data s) {fault : Fault} :
    (∃ t, s = .ended (.error fault) t) ↔ ∃ c ∈ s.after.calls, Stops c.answer fault := by
  cases hs with
  | pending hcalls | done hcalls =>
    simp only [reduceCtorEq, Sending.ended.injEq, false_and, exists_false, false_iff]
    rintro ⟨c, hc, hstops⟩
    exact hcalls.goesOn c hc fault hstops
  | @broken d t calls answer own hcalls hleft hstops hlast =>
    rw [Sending.after, hlast]
    constructor
    · rintro ⟨t', heq⟩
      cases heq
      exact ⟨_, List.mem_append_right _ (List.mem_singleton_self _), hstops⟩
    · rintro ⟨c, hc, hfault⟩
      rcases List.mem_append.1 hc with hc | hc
      · exact absurd hfault (hcalls.goesOn c hc fault)
      · rw [List.mem_singleton.1 hc] at hfault
        exact ⟨t, by rw [hstops.unique hfault]⟩

theorem wire_ne (hs : Account data s) {fault : Fault} {t : Recorded κ}
    (heq : s = .ended (.error fault) t) : wire s.after.calls ≠ data := by
  cases hs with
  | pending | done => cases heq
  | broken hcalls hleft hstops hlast => rwa [Sending.after, hlast, hstops.wire_concat]

end Account

variable [Medium κ]

instance : Medium (Recorded κ) where
  send t h data := (send t.base h data).map fun (answer, base) =>
    (answer, { base, calls := t.calls ++ [⟨data, answer⟩] })
  listen t h := { t with base := listen t.base h }
  receive t h size := (receive t.base h size).map fun (answer, base) => (answer, { t with base })
  clone t h := ((clone t.base h).1, { t with base := (clone t.base h).2 })
  shutdown t h := ((shutdown t.base h).1, { t with base := (shutdown t.base h).2 })
  drop t h := { t with base := drop t.base h }
  peer t := peer t.base
  inTransit t := inTransit t.base

/-- A stream takes no more than it is offered. -/
def SendBounded (κ : Type) [Medium κ] (h : Nat) : Prop :=
  ∀ (w w' : κ) (data : Bytes) (n : Nat), send w h data = some (.ok n, w') → n ≤ data.length

theorem send_recorded (t : Recorded κ) (h : Nat) (data : Bytes) :
    send t h data = (send t.base h data).map fun (answer, base) =>
      (answer, { base, calls := t.calls ++ [⟨data, answer⟩] }) := rfl

theorem sendAll_base (h n : Nat) (t : Recorded κ) (d : Delivery) :
    (sendAll h n t d).base = sendAll h n t.base d := by
  induction n generalizing t d with
  | zero => rfl
  | succ n ih =>
    rw [sendAll, sendAll]
    split
    · rfl
    rw [send_recorded]
    cases send t.base h d.remaining with
    | none => rfl
    | some result =>
      obtain ⟨answer, base⟩ := result
      simp only [Option.map_some]
      cases d.feed answer with
      | error fault => rfl
      | ok next => exact ih _ next

theorem account_sendAll {h : Nat} (hbounded : SendBounded κ h) {data : Bytes} (n : Nat)
    {t : Recorded κ} {d : Delivery} (hcalls : InProgress data t.calls d) :
    Account data (sendAll h n t d) := by
  induction n generalizing t d with
  | zero => exact .pending hcalls
  | succ n ih =>
    rw [sendAll]
    split
    · next hdone => exact .done hcalls (hcalls.isDone_iff.1 hdone)
    next hleft =>
    rw [hcalls.isDone_iff] at hleft
    rw [send_recorded]
    cases hbase : send t.base h d.remaining with
    | none => exact .pending hcalls
    | some result =>
      obtain ⟨answer, base⟩ := result
      simp only [Option.map_some]
      cases hfeed : d.feed answer with
      | error fault => exact .broken hcalls hleft (Delivery.stops_of_feed hfeed) rfl
      | ok next =>
        refine ih (hcalls.feed ?_ hfeed)
        cases answer with
        | ok k => exact hbounded t.base base d.remaining k hbase
        | error own => exact Nat.zero_le _

/-- How far a delivery gets that goes on with so many more calls. -/
def Sending.resume (h more : Nat) : Sending κ → Sending κ
  | ended result w => ended result w
  | blocked left w => sendAll h more w left

theorem sendAll_add (h n more : Nat) (w : κ) (d : Delivery) :
    sendAll h (n + more) w d = (sendAll h n w d).resume h more := by
  induction n generalizing w d with
  | zero => rw [Nat.zero_add, sendAll, Sending.resume]
  | succ n ih =>
    rw [Nat.add_right_comm, sendAll, sendAll]
    by_cases hdone : d.isDone = true
    · rw [if_pos hdone, if_pos hdone, Sending.resume]
    rw [if_neg hdone, if_neg hdone]
    cases hsend : send w h d.remaining with
    | none =>
      rw [Sending.resume]
      cases more with
      | zero => rfl
      | succ more => rw [sendAll, if_neg hdone, hsend]
    | some result =>
      obtain ⟨answer, w'⟩ := result
      simp only
      cases d.feed answer with
      | error fault => rfl
      | ok next => exact ih w' next

/-- The calls that a delivery of some data makes, up to a number of them. -/
def calls (h : Nat) (data : Bytes) (w : κ) (n : Nat) : List SendCall :=
  (sendAll h n ({ base := w } : Recorded κ) { data }).after.calls

section calls

variable {h : Nat} {data : Bytes} {w : κ} {n : Nat}

theorem account (hbounded : SendBounded κ h) (data : Bytes) (w : κ) (n : Nat) :
    Account data (sendAll h n ({ base := w } : Recorded κ) { data }) :=
  account_sendAll hbounded n (.start data)

/-- A delivery that may make more calls has made the same ones before. -/
theorem calls_isPrefix (h : Nat) (data : Bytes) (w : κ) (n more : Nat) :
    calls h data w n <+: calls h data w (n + more) := by
  rw [calls, calls, sendAll_add]
  cases sendAll h n ({ base := w } : Recorded κ) { data } with
  | ended result t => exact List.prefix_refl t.calls
  | blocked left t =>
    refine sendAll_keeps (P := fun later : Recorded κ => t.calls <+: later.calls) ?_ more t left
      (List.prefix_refl t.calls)
    intro later later' offered answer hlater hsend
    rw [send_recorded] at hsend
    obtain ⟨⟨answer', base⟩, -, heq⟩ := Option.map_eq_some_iff.1 hsend
    cases heq
    exact hlater.trans (List.prefix_append _ _)

/-- The result of a delivery, and the same with the calls recorded. -/
theorem exists_ended_iff {result : Except Fault Unit} :
    (∃ v, sendAll h n w { data } = .ended result v) ↔
      ∃ t, sendAll h n ({ base := w } : Recorded κ) { data } = .ended result t := by
  rw [← sendAll_base h n { base := w } { data }]
  cases sendAll h n ({ base := w } : Recorded κ) { data } with
  | ended own t => simp [Sending.base]
  | blocked left t => simp [Sending.base]

theorem wire_eq_of_ok (hbounded : SendBounded κ h) {v : κ}
    (hended : sendAll h n w { data } = .ended (.ok ()) v) : wire (calls h data w n) = data := by
  obtain ⟨t, ht⟩ := exists_ended_iff.1 ⟨v, hended⟩
  have haccount := account hbounded data w n
  rw [calls, ht]
  rw [ht] at haccount
  cases haccount with
  | done hcalls hdone => exact hdone

/-- Once all is taken, no more calls are made. -/
theorem ok_of_wire_eq (hbounded : SendBounded κ h) (hwire : wire (calls h data w n) = data)
    (more : Nat) : calls h data w (n + more + 1) = calls h data w n ∧
      ∃ v, sendAll h (n + more + 1) w { data } = .ended (.ok ()) v := by
  rw [exists_ended_iff, calls, Nat.add_assoc, sendAll_add]
  rw [calls] at hwire ⊢
  have haccount := account hbounded data w n
  generalize sendAll h n ({ base := w } : Recorded κ) { data } = s at haccount hwire ⊢
  cases haccount with
  | @pending left t hcalls =>
    have hdone : sendAll h (more + 1) t left = .ended (.ok ()) t := by
      rw [sendAll, if_pos (hcalls.isDone_iff.2 hwire)]
    rw [Sending.resume, hdone]
    exact ⟨rfl, t, rfl⟩
  | @done d t hcalls hdone => exact ⟨rfl, t, rfl⟩
  | broken hcalls hleft hstops hlast =>
    rw [Sending.after, hlast, hstops.wire_concat] at hwire
    exact absurd hwire hleft

end calls

/-! ## Answers that come to the same -/

/-- Two lists of answers differ only in interruptions and in the portions in which bytes were
taken. -/
inductive SameUpToPortions : List (Except Fault Nat) → List (Except Fault Nat) → Prop where
  | interrupted {fault : Fault} (hkind : fault.kind = .interrupted)
    (before after : List (Except Fault Nat)) :
    SameUpToPortions (before ++ after) (before ++ .error fault :: after)
  | cut {m n : Nat} (hm : 0 < m) (hn : 0 < n) (before after : List (Except Fault Nat)) :
    SameUpToPortions (before ++ .ok (m + n) :: after) (before ++ .ok m :: .ok n :: after)
  | refl (answers : List (Except Fault Nat)) : SameUpToPortions answers answers
  | symm {answers answers' : List (Except Fault Nat)} (h : SameUpToPortions answers answers') :
    SameUpToPortions answers' answers
  | trans {answers answers' answers'' : List (Except Fault Nat)}
    (h : SameUpToPortions answers answers')
    (h' : SameUpToPortions answers' answers'') : SameUpToPortions answers answers''

namespace SameUpToPortions

variable {answers answers' : List (Except Fault Nat)}

theorem sum_eq (h : SameUpToPortions answers answers') :
    (answers.map countOf).sum = (answers'.map countOf).sum := by
  induction h with
  | interrupted hkind before after => simp [countOf]
  | cut hm hn before after => simp [countOf, Nat.add_assoc]
  | refl answers => rfl
  | symm h ih => exact ih.symm
  | trans h h' ih ih' => exact ih.trans ih'

theorem stops_iff (h : SameUpToPortions answers answers') (fault : Fault) :
    (∃ answer ∈ answers, Stops answer fault) ↔ ∃ answer ∈ answers', Stops answer fault := by
  induction h with
  | interrupted hkind before after =>
    simp only [List.mem_append, List.mem_cons, or_and_right, exists_or, exists_eq_left,
      not_stops_interrupted hkind fault, false_or]
  | cut hm hn before after =>
    simp only [List.mem_append, List.mem_cons, or_and_right, exists_or, exists_eq_left,
      not_stops_ok hm fault, not_stops_ok hn fault, not_stops_ok (Nat.add_pos_left hm _) fault,
      false_or]
  | refl answers => rfl
  | symm h ih => exact ih.symm
  | trans h h' ih ih' => exact ih.trans ih'

end SameUpToPortions

theorem length_wire {calls : List SendCall}
    (hfits : ∀ c ∈ calls, countOf c.answer ≤ c.offered.length) :
    (wire calls).length = ((calls.map (·.answer)).map countOf).sum := by
  induction calls with
  | nil => rfl
  | cons c calls ih =>
    rw [List.forall_mem_cons] at hfits
    rw [wire, List.flatMap_cons, List.length_append, ← wire, ih hfits.2, SendCall.accepted,
      List.length_take_of_le hfits.1, List.map_cons, List.map_cons, List.sum_cons]

section upToPortions

variable {h : Nat} {data : Bytes} {w : κ} {n : Nat}

theorem error_iff_exists_stops (hbounded : SendBounded κ h) {fault : Fault} :
    (∃ v, sendAll h n w { data } = .ended (.error fault) v) ↔
      ∃ answer ∈ (calls h data w n).map (·.answer), Stops answer fault := by
  rw [exists_ended_iff, (account hbounded data w n).error_iff]
  constructor
  · rintro ⟨c, hc, hstops⟩
    exact ⟨c.answer, List.mem_map_of_mem hc, hstops⟩
  · rintro ⟨answer, hanswer, hstops⟩
    obtain ⟨c, hc, rfl⟩ := List.mem_map.1 hanswer
    exact ⟨c, hc, hstops⟩

/-- Deliveries of the same data that got the same answers, up to interruptions and portions, have
put the same on the wire, and have come to the same end. -/
theorem same_of_upToPortions (hbounded : SendBounded κ h) {κ' : Type} [Medium κ'] {h' : Nat}
    (hbounded' : SendBounded κ' h') {w' : κ'} {n' : Nat}
    (hportions : SameUpToPortions ((calls h data w n).map (·.answer))
      ((calls h' data w' n').map (·.answer))) :
    wire (calls h' data w' n') = wire (calls h data w n) ∧
    (∀ v, sendAll h n w { data } = .ended (.ok ()) v →
      ∃ v', sendAll h' (n' + 1) w' { data } = .ended (.ok ()) v') ∧
    ∀ fault v, sendAll h n w { data } = .ended (.error fault) v →
      ∃ v', sendAll h' n' w' { data } = .ended (.error fault) v' := by
  have hlength : (wire (calls h' data w' n')).length = (wire (calls h data w n)).length := by
    rw [calls, length_wire (account hbounded' data w' n').fits, ← calls, ← hportions.sum_eq,
      calls, ← length_wire (account hbounded data w n).fits]
  have hwire : wire (calls h' data w' n') = wire (calls h data w n) :=
    (List.prefix_of_prefix_length_le (account hbounded' data w' n').isPrefix_wire
      (account hbounded data w n).isPrefix_wire (Nat.le_of_eq hlength)).eq_of_length hlength
  refine ⟨hwire, ?_, ?_⟩
  · intro v hended
    rw [wire_eq_of_ok hbounded hended] at hwire
    exact (ok_of_wire_eq hbounded' hwire 0).2
  · intro fault v hended
    rw [error_iff_exists_stops hbounded', ← hportions.stops_iff, ← error_iff_exists_stops hbounded]
    exact ⟨v, hended⟩

end upToPortions

/-! ## An end to the calls -/

/-- Offered some bytes, a stream answers after finitely many interruptions. -/
inductive EventuallyAnswers (h : Nat) (data : Bytes) : κ → Prop where
  | answered {w w' : κ} {answer : Except Fault Nat} (hsend : send w h data = some (answer, w'))
    (hanswer : ∀ fault, answer = .error fault → fault.kind ≠ .interrupted) :
      EventuallyAnswers h data w
  | interrupted {w w' : κ} {fault : Fault} (hsend : send w h data = some (.error fault, w'))
    (hkind : fault.kind = .interrupted) (hlater : EventuallyAnswers h data w') :
      EventuallyAnswers h data w

theorem sendAll_succ {h : Nat} {w w' : κ} {d next : Delivery} {answer : Except Fault Nat}
    (hleft : d.isDone = false) (hsend : send w h d.remaining = some (answer, w'))
    (hfeed : d.feed answer = .ok next) (n : Nat) : sendAll h (n + 1) w d = sendAll h n w' next := by
  rw [sendAll, hleft, hsend]
  simp [hfeed]

/-- A delivery ends if no call is interrupted for ever. The bytes left to offer become fewer with
every answer that is no interruption, and between two of these there are finitely many. -/
theorem exists_ended {h : Nat} {w : κ} {d : Delivery}
    (hanswers : ∀ n left v, sendAll h n w d = .blocked left v → left.isDone = false →
      EventuallyAnswers h left.remaining v) : ∃ n result v, sendAll h n w d = .ended result v := by
  generalize hsize : d.data.length - d.written = size
  induction size using Nat.strongRecOn generalizing w d with
  | ind size ih =>
    cases hleft : d.isDone with
    | true => exact ⟨1, .ok (), w, by rw [sendAll, if_pos hleft]⟩
    | false =>
      have hnow := hanswers 0 d w rfl hleft
      induction hnow with
      | @answered w w' answer hsend hanswer =>
        cases hfeed : d.feed answer with
        | error fault => exact ⟨1, .error fault, w', by simp [sendAll, hleft, hsend, hfeed]⟩
        | ok next =>
          have hstep := sendAll_succ hleft hsend hfeed
          obtain ⟨rfl, hgoesOn⟩ := Delivery.of_feed_ok hfeed
          have hcount : 0 < countOf answer := by
            match answer with
            | .ok 0 => exact absurd (.inl ⟨rfl, rfl⟩) (hgoesOn Delivery.stuck)
            | .ok (k + 1) => exact Nat.succ_pos k
            | .error fault => exact absurd (.inr ⟨hanswer fault rfl, rfl⟩) (hgoesOn fault)
          have hwritten : d.written < d.data.length := by simpa [Delivery.isDone] using hleft
          have hless : d.data.length - (d.written + countOf answer) < size := by omega
          obtain ⟨n, result, v, hended⟩ := ih _ hless
            (fun n left v hblocked => hanswers (n + 1) left v ((hstep n).trans hblocked)) rfl
          exact ⟨n + 1, result, v, (hstep n).trans hended⟩
      | @interrupted w w' fault hsend hkind hlater ihlater =>
        have hsame : d.feed (.error fault) = .ok d := if_pos hkind
        have hstep := sendAll_succ hleft hsend hsame
        obtain ⟨n, result, v, hended⟩ := ihlater
          fun n left v hblocked => hanswers (n + 1) left v ((hstep n).trans hblocked)
        exact ⟨n + 1, result, v, (hstep n).trans hended⟩

end Medium

/-! ## Scripted streams -/

/-- A scripted stream, of which only the sending half is there. -/
instance : Medium SendScript where
  send s _ data := some (s.send data)
  listen s _ := s
  receive _ _ _ := none
  clone s h := (.ok h, s)
  shutdown s _ := (.ok (), s)
  drop s _ := s
  peer _ _ := "script"
  inTransit _ := 0

namespace SendScript

theorem answer_le (size : Nat) (steps : List SendStep) (tripped : Bool) :
    countOf (answer size steps tripped).1 ≤ size := by
  induction steps generalizing tripped with
  | nil => exact Nat.le_refl size
  | cons step rest ih =>
    cases step with
    | accept n => exact Nat.min_le_right n size
    | fail fault => exact Nat.zero_le size
    | trip => exact ih true

theorem sendBounded (h : Nat) : Medium.SendBounded SendScript h := by
  intro s s' data n hsend
  have hle := answer_le data.length s.steps s.tripped
  have hanswer : (answer data.length s.steps s.tripped).1 = .ok n :=
    congrArg Prod.fst (Option.some.inj hsend)
  rwa [hanswer] at hle

theorem send_eq (s : SendScript) (h : Nat) (data : Bytes) :
    Medium.send s h data = some ((s.send data).1, (s.send data).2) := rfl

theorem send_wire (s : SendScript) (data : Bytes) :
    (s.send data).2.wire = s.wire ++ (SendCall.mk data (s.send data).1).accepted := by
  simp only [send, SendCall.accepted]
  cases (answer data.length s.steps s.tripped).1 with
  | ok n => rfl
  | error fault => rfl

/-- What a scripted stream says it has taken is what the calls have put on the wire. -/
theorem wire_sendAll (s : SendScript) (h n : Nat) (data : Bytes) :
    (Medium.sendAll h n s { data }).after.wire =
      s.wire ++ TextRelay.wire (Medium.calls h data s n) := by
  have htape := Medium.sendAll_base h n ({ base := s } : Recorded SendScript) { data }
  rw [← htape, Medium.Sending.after_base]
  refine Medium.sendAll_keeps
    (P := fun t : Recorded SendScript => t.base.wire = s.wire ++ TextRelay.wire t.calls) ?_ n _ _
    (List.append_nil _).symm
  intro t t' offered answer ht hsend
  rw [Medium.send_recorded, send_eq, Option.map_some] at hsend
  cases hsend
  rw [send_wire, ht, List.append_assoc, ← wire_concat]

end SendScript

/-- A pipe makes one chunk of a portion of what it is offered. -/
theorem Pipe.sendBounded (h : Nat) : Medium.SendBounded Pipe h := by
  intro p p' data n hsend
  obtain ⟨hanswer, -⟩ | ⟨hanswer, -⟩ | ⟨handle, -, -, -, -, hanswer, -⟩ := Pipe.send_cases hsend
  · cases hanswer
  · cases hanswer
    exact Nat.zero_le _
  · cases hanswer
    rw [← handle.take_length_portion data]
    exact List.length_take_le' _ data

/-- A delivery over a scripted stream is one over any stream. -/
theorem Delivery.over_eq_sendAll (s : SendScript) (d : Delivery) (h : Nat) :
    ∃ n, Medium.sendAll h n s d = .ended (d.over s).1 (d.over s).2.1 := by
  induction s, d using Delivery.over.induct with
  | case1 s d hdone => exact ⟨1, by rw [Medium.sendAll, if_pos hdone, Delivery.over, if_pos hdone]⟩
  | case2 s d hleft answer fault hfeed =>
    change d.feed (s.send d.remaining).1 = .error fault at hfeed
    refine ⟨1, ?_⟩
    rw [Medium.sendAll, if_neg hleft, Delivery.over, if_neg hleft, s.send_eq]
    simp only [hfeed]
  | case3 s d hleft answer next hfeed hsteps =>
    change d.feed (s.send d.remaining).1 = .ok next at hfeed
    refine ⟨2, ?_⟩
    have hanswer : (s.send d.remaining).1 = .ok d.remaining.length := by
      simp [SendScript.send, SendScript.answer, hsteps]
    have hall : next.isDone = true := by
      rw [(of_feed_ok hfeed).1, hanswer]
      simp only [isDone, countOf, remaining, List.length_drop, decide_eq_true_eq]
      omega
    rw [Medium.sendAll_succ (by simpa using hleft) (s.send_eq h _) hfeed, Medium.sendAll,
      if_pos hall, Delivery.over, if_neg hleft]
    simp only [hfeed, dif_pos hsteps]
  | case4 s d hleft answer next hfeed hsteps result s' events hlater ih =>
    change d.feed (s.send d.remaining).1 = .ok next at hfeed
    obtain ⟨n, hn⟩ := ih
    rw [hlater] at hn
    refine ⟨n + 1, ?_⟩
    rw [Medium.sendAll_succ (by simpa using hleft) (s.send_eq h _) hfeed, hn, Delivery.over,
      if_neg hleft]
    simp only [hfeed, dif_neg hsteps, hlater]

namespace Medium

variable {κ : Type} [Medium κ]

/-- **What a delivery over any stream comes to.** Every call is offered exactly what was not
accepted yet, so the wire is a prefix of the data at every moment. The delivery succeeds exactly if
all of the data was accepted, and then makes no further call; it fails exactly if a call accepts
nothing or fails itself, with a strict prefix on the wire. Interruptions and portions make no
difference, and there is an end to it unless a call is interrupted for ever. Pipes and scripted
streams are such streams. -/
theorem sendAll_delivers {h : Nat} (hbounded : SendBounded κ h) (data : Bytes) (w : κ) :
    (∀ n more, calls h data w n <+: calls h data w (n + more)) ∧
    (∀ n before c after, calls h data w n = before ++ c :: after →
      wire before ++ c.offered = data) ∧
    (∀ n, wire (calls h data w n) <+: data) ∧
    (∀ n v, sendAll h n w { data } = .ended (.ok ()) v → wire (calls h data w n) = data) ∧
    (∀ n, wire (calls h data w n) = data → ∀ more,
      calls h data w (n + more + 1) = calls h data w n ∧
        ∃ v, sendAll h (n + more + 1) w { data } = .ended (.ok ()) v) ∧
    (∀ n fault, (∃ v, sendAll h n w { data } = .ended (.error fault) v) ↔
      (fault = ⟨.writeZero, "transport accepted no bytes"⟩ ∧
        ∃ c ∈ calls h data w n, c.answer = .ok 0) ∨
      (fault.kind ≠ .interrupted ∧ ∃ c ∈ calls h data w n, c.answer = .error fault)) ∧
    (∀ n fault v, sendAll h n w { data } = .ended (.error fault) v →
      wire (calls h data w n) ≠ data) ∧
    (∀ {κ' : Type} [Medium κ'] {h' : Nat}, SendBounded κ' h' → ∀ (w' : κ') (n n' : Nat),
      SameUpToPortions ((calls h data w n).map (·.answer)) ((calls h' data w' n').map (·.answer)) →
      wire (calls h' data w' n') = wire (calls h data w n) ∧
      (∀ v, sendAll h n w { data } = .ended (.ok ()) v →
        ∃ v', sendAll h' (n' + 1) w' { data } = .ended (.ok ()) v') ∧
      ∀ fault v, sendAll h n w { data } = .ended (.error fault) v →
        ∃ v', sendAll h' n' w' { data } = .ended (.error fault) v') ∧
    ((∀ n left v, sendAll h n w { data } = .blocked left v → left.isDone = false →
      EventuallyAnswers h left.remaining v) →
      ∃ n result v, sendAll h n w { data } = .ended result v) ∧
    SendBounded Pipe h ∧ SendBounded SendScript h ∧
    ∀ s : SendScript, ∃ n,
      sendAll h n s { data } = .ended (Delivery.over s { data }).1 (Delivery.over s { data }).2.1 ∧
      (Delivery.over s { data }).2.1.wire = s.wire ++ wire (calls h data s n) := by
  refine ⟨calls_isPrefix h data w, ?_, ?_, ?_, ?_, ?_, ?_, ?_, exists_ended, Pipe.sendBounded h,
    SendScript.sendBounded h, ?_⟩
  · intro n before c after hcalls
    exact (account hbounded data w n).offers hcalls
  · intro n
    exact (account hbounded data w n).isPrefix_wire
  · intro n v hended
    exact wire_eq_of_ok hbounded hended
  · intro n hwire more
    exact ok_of_wire_eq hbounded hwire more
  · intro n fault
    rw [exists_ended_iff, (account hbounded data w n).error_iff]
    simp only [Stops, and_or_left, exists_or, and_left_comm, exists_and_left]
    exact Iff.rfl
  · intro n fault v hended
    obtain ⟨t, ht⟩ := exists_ended_iff.1 ⟨v, hended⟩
    exact (account hbounded data w n).wire_ne ht
  · intro κ' _ h' hbounded' w' n n' hportions
    exact same_of_upToPortions hbounded hbounded' hportions
  · intro s
    obtain ⟨n, hn⟩ := Delivery.over_eq_sendAll s { data } h
    refine ⟨n, hn, ?_⟩
    rw [← s.wire_sendAll h n data, hn, Sending.after]

/-- A stream that takes five bytes in two portions, with an interruption before each. -/
def halting : SendScript where
  steps := [.fail (.ofKind .interrupted), .accept 2, .fail (.ofKind .interrupted), .accept 9]

theorem sendAll_delivers_in_portions :
    SendBounded SendScript 0 ∧
    SameUpToPortions
      ((calls 0 [104, 101, 108, 108, 111] ({ steps := [] } : SendScript) 2).map (·.answer))
      ((calls 0 [104, 101, 108, 108, 111] halting 4).map (·.answer)) ∧
    wire (calls 0 [104, 101, 108, 108, 111] halting 4) = [104, 101, 108, 108, 111] ∧
    ∃ v, sendAll 0 5 halting { data := [104, 101, 108, 108, 111] } = .ended (.ok ()) v := by
  have hcut : SameUpToPortions [.ok 5] [.ok 2, .ok 3] :=
    .cut (m := 2) (n := 3) (by decide) (by decide) [] []
  have hfirst : SameUpToPortions [.ok 2, .ok 3] [.error (.ofKind .interrupted), .ok 2, .ok 3] :=
    .interrupted rfl [] [.ok 2, .ok 3]
  have hsecond : SameUpToPortions [.error (.ofKind .interrupted), .ok 2, .ok 3]
      [.error (.ofKind .interrupted), .ok 2, .error (.ofKind .interrupted), .ok 3] :=
    .interrupted rfl [.error (.ofKind .interrupted), .ok 2] [.ok 3]
  have hportions := hcut.trans (hfirst.trans hsecond)
  obtain ⟨-, -, -, -, -, -, -, hsame, -⟩ :=
    sendAll_delivers (SendScript.sendBounded 0) [104, 101, 108, 108, 111]
      ({ steps := [] } : SendScript)
  obtain ⟨hwire, hok, -⟩ := hsame (SendScript.sendBounded 0) halting 2 4 hportions
  exact ⟨SendScript.sendBounded 0, hportions, hwire, hok _ rfl⟩

end Medium

end TextRelay
