import Mathlib.Data.List.Induction
import Mathlib.Data.List.Nodup
import Mathlib.Data.List.Perm.Basic
import TextRelay.Scenario.Signal

/-!
# Every reporter reports once

A table is kept beside a signal, from the steps alone: who holds which reporter, and how the others
finished, in the order in which they did. As long as the coordinator's side exists, what the waits
were answered with and what is still queued are, together, the exits in that table.

The reporters that are held and those that are finished are all reporters ever made, each once
(`Agrees.numbers`). That is what makes the table count a reporter neither twice nor never, and with
`Agrees.live` it says when no report can come any more.
-/

namespace TextRelay.Scenario

structure Reporter where
  number : Nat
  direction : Direction
  deriving DecidableEq, Repr

/-- The table of the reporters of a signal. -/
structure ReporterTable where
  /-- Whether reporters can still be made. -/
  isOpen : Bool := true
  made : Nat := 0
  held : List (String × Reporter) := []
  finished : List (Reporter × Exit) := []
  deriving DecidableEq, Repr

namespace ReporterTable

/-- The reporter of a name finishes, with the exit that it is given or else as broken down. -/
def finish (r : ReporterTable) (name : String) (given : Option Exit) : ReporterTable :=
  match r.held.lookup name with
  | some reporter => { r with
      held := r.held.filter (·.1 ≠ name)
      finished := r.finished ++ [(reporter, given.getD (.panicked reporter.direction))] }
  | none => r

/-- Makes a reporter for a name that nobody has. -/
def add (r : ReporterTable) (name : String) (direction : Direction) : ReporterTable :=
  { r with made := r.made + 1, held := (name, ⟨r.made, direction⟩) :: r.held }

def record (r : ReporterTable) : SignalStep → ReporterTable
  | .reporter name direction =>
    if r.isOpen then (r.finish name none).add name direction else r
  | .report name exit => r.finish name (some exit)
  | .drop name | .breakDown name => r.finish name none
  | .release => { r with isOpen := false }
  | .dropController | .trip | .isTripped | .isShuttingDown | .isCancelled | .waitFirst => r

end ReporterTable

def reporterTable (steps : List SignalStep) : ReporterTable := steps.foldl ReporterTable.record {}

def stateAfter (steps : List SignalStep) : SignalState :=
  steps.foldl (fun st step => (st.perform step).2) {}

/-- The exits that the waits among some steps were answered with. -/
def waited (steps : List SignalStep) (replies : List SignalReply) : List Exit :=
  (steps.zip replies).filterMap fun
    | (.waitFirst, .exit exit) => some exit
    | _ => none

@[simp] theorem reporterTable_append (steps : List SignalStep) (step : SignalStep) :
    reporterTable (steps ++ [step]) = (reporterTable steps).record step := by
  simp [reporterTable]

@[simp] theorem stateAfter_append (steps : List SignalStep) (step : SignalStep) :
    stateAfter (steps ++ [step]) = ((stateAfter steps).perform step).2 := by
  simp [stateAfter]

namespace SignalState

theorem length_performAll (st : SignalState) (steps : List SignalStep) :
    (st.performAll steps).length = steps.length := by
  induction steps generalizing st with
  | nil => rfl
  | cons step rest ih => simp [performAll, ih]

theorem performAll_append (st : SignalState) (steps : List SignalStep) (step : SignalStep) :
    st.performAll (steps ++ [step]) =
      st.performAll steps ++
        [((steps.foldl (fun st step => (st.perform step).2) st).perform step).1] := by
  induction steps generalizing st with
  | nil => rfl
  | cons first rest ih => simp [performAll, ih]

end SignalState

theorem waited_append (steps : List SignalStep) (step : SignalStep) :
    waited (steps ++ [step]) (SignalState.performAll {} (steps ++ [step])) =
      waited steps (SignalState.performAll {} steps) ++
        waited [step] [((stateAfter steps).perform step).1] := by
  have hlength := SignalState.length_performAll {} steps
  rw [SignalState.performAll_append]
  simp [waited, List.zip_append hlength.symm, stateAfter]

/-! ## Names -/

section names
variable {held : List (String × Reporter)} {name : String} {reporter : Reporter}

theorem lookup_numbers (held : List (String × Reporter)) (name : String) :
    (held.map fun entry => (entry.1, entry.2.number)).lookup name =
      (held.lookup name).map Reporter.number := by
  induction held with
  | nil => rfl
  | cons entry rest ih =>
    obtain ⟨other, reporter⟩ := entry
    cases hname : name == other <;> simp [List.lookup_cons, hname, ih]

/-- A name that is known is known once: without it, the rest of the list remains. -/
theorem perm_of_lookup (hdistinct : (held.map Prod.fst).Nodup)
    (hlookup : held.lookup name = some reporter) :
    held.Perm ((name, reporter) :: held.filter (·.1 ≠ name)) := by
  obtain ⟨before, after, rfl, -⟩ := List.lookup_eq_some_iff.1 hlookup
  have hothers : ∀ entry ∈ before ++ after, entry.1 ≠ name := by
    have hperm : ((before ++ (name, reporter) :: after).map Prod.fst).Perm
        (name :: (before ++ after).map Prod.fst) := by
      simp
    have hfresh := (List.nodup_cons.1 (hperm.nodup_iff.1 hdistinct)).1
    intro entry hmem heq
    exact hfresh (heq ▸ List.mem_map_of_mem hmem)
  have hrest : (before ++ (name, reporter) :: after).filter (·.1 ≠ name) = before ++ after := by
    rw [List.filter_append, List.filter_cons_of_neg (by simp), ← List.filter_append]
    exact List.filter_eq_self.2 fun entry hmem => by simpa using hothers entry hmem
  rw [hrest]
  exact List.perm_middle

theorem fresh_of_lookup (hlookup : held.lookup name = none) : name ∉ held.map Prod.fst := by
  intro hmem
  obtain ⟨entry, hentry, rfl⟩ := List.mem_map.1 hmem
  simpa using List.lookup_eq_none_iff.1 hlookup entry hentry

theorem fresh_filter (held : List (String × Reporter)) (name : String) :
    name ∉ (held.filter (·.1 ≠ name)).map Prod.fst := by
  simp

end names

theorem ReporterTable.fresh_finish (r : ReporterTable) (name : String) (given : Option Exit) :
    name ∉ (r.finish name given).held.map Prod.fst := by
  unfold finish
  split
  · exact fresh_filter r.held name
  · next hlookup => exact fresh_of_lookup hlookup

@[simp] theorem ReporterTable.isOpen_finish (r : ReporterTable) (name : String)
    (given : Option Exit) : (r.finish name given).isOpen = r.isOpen := by
  unfold finish
  split <;> rfl

/-! ## The table is right -/

/-- The table agrees with the signal, after the waits were answered with `taken`. -/
structure Agrees (r : ReporterTable) (taken : List Exit) (st : SignalState) : Prop where
  controlled : st.signal.isControlled = true
  isOpen : st.signal.isHeld = r.isOpen
  made : st.signal.reporters.length = r.made
  names : st.names = r.held.map fun entry => (entry.1, entry.2.number)
  distinct : (r.held.map Prod.fst).Nodup
  numbers : (r.held.map (·.2.number) ++ r.finished.map (·.1.number)).Perm (List.range r.made)
  live : ∀ n direction, st.signal.reporters[n]? = some (some direction) ↔
    ⟨n, direction⟩ ∈ r.held.map Prod.snd
  exits : ∃ k, taken ++ st.signal.queue =
      r.finished.map Prod.snd ++ List.replicate k (.panicked .inbound) ∧
    (0 < k → st.signal.queue = [] ∧ r.isOpen = false ∧ r.held = [])

namespace Agrees

variable {r : ReporterTable} {taken : List Exit} {st : SignalState} {name : String}
    {reporter : Reporter}

theorem start : Agrees {} [] {} where
  controlled := rfl
  isOpen := rfl
  made := rfl
  names := rfl
  distinct := List.nodup_nil
  numbers := List.Perm.refl _
  live := by simp
  exits := ⟨0, rfl, by simp⟩

theorem mem_of_lookup (hlookup : r.held.lookup name = some reporter) :
    (name, reporter) ∈ r.held := by
  obtain ⟨before, after, heq, -⟩ := List.lookup_eq_some_iff.1 hlookup
  simp [heq]

/-- Without a name, its reporter is not held under another one either. -/
theorem fresh_number (hk : Agrees r taken st) (hlookup : r.held.lookup name = some reporter) :
    reporter.number ∉ (r.held.filter (·.1 ≠ name)).map (·.2.number) := by
  have hnodup : (r.held.map (·.2.number)).Nodup :=
    (List.nodup_append.1 (hk.numbers.nodup_iff.2 List.nodup_range)).1
  have hperm := (perm_of_lookup hk.distinct hlookup).map (·.2.number)
  exact (List.nodup_cons.1 (hperm.nodup_iff.1 hnodup)).1

/-- A reporter that is held finishes, and what it reports is the last in the queue. -/
theorem finish (hk : Agrees r taken st) (hlookup : r.held.lookup name = some reporter)
    (given : Option Exit) :
    Agrees (r.finish name given) taken
      { signal := st.signal.report reporter.number (given.getD (.panicked reporter.direction))
        names := st.names.filter (·.1 ≠ name) } := by
  have hmem := mem_of_lookup hlookup
  have hperm := perm_of_lookup hk.distinct hlookup
  simp only [ReporterTable.finish, hlookup]
  refine ⟨hk.controlled, hk.isOpen, ?_, ?_, ?_, ?_, ?_, ?_⟩
  · simpa [Signal.report] using hk.made
  · rw [hk.names, List.filter_map]
    rfl
  · exact hk.distinct.sublist (List.filter_sublist.map _)
  · have hnumbers := (hperm.map (·.2.number)).append_right (r.finished.map (·.1.number))
    refine List.Perm.trans ?_ (hnumbers.symm.trans hk.numbers)
    simp only [List.map_append, List.map_cons, List.map_nil, ← List.append_assoc]
    exact List.perm_append_singleton _ _
  · intro n direction
    by_cases hn : n = reporter.number
    · subst hn
      have hother : ⟨reporter.number, direction⟩ ∉
          (r.held.filter (·.1 ≠ name)).map Prod.snd := by
        intro hheld
        obtain ⟨entry, hentry, heq⟩ := List.mem_map.1 hheld
        exact hk.fresh_number hlookup (List.mem_map.2 ⟨entry, hentry, by rw [heq]⟩)
      simp only [hother, iff_false]
      simp [Signal.report, List.getElem?_set]
    · have hslot : (st.signal.reporters.set reporter.number none)[n]? =
          st.signal.reporters[n]? := List.getElem?_set_ne (Ne.symm hn)
      have hrest := (hperm.map Prod.snd).mem_iff (a := ⟨n, direction⟩)
      have hne : (⟨n, direction⟩ : Reporter) ≠ reporter := fun heq => hn (by rw [← heq])
      simp only [List.map_cons, List.mem_cons, hne, false_or] at hrest
      rw [← hrest, ← hk.live n direction, ← hslot]
      rfl
  · obtain ⟨k, hexits, hover⟩ := hk.exits
    -- a wait has been told that nobody is left only if nobody is
    obtain rfl : k = 0 := by
      by_contra hk
      rw [(hover (Nat.pos_of_ne_zero hk)).2.2] at hmem
      exact absurd hmem List.not_mem_nil
    refine ⟨0, ?_, by simp⟩
    simp only [List.replicate_zero, List.append_nil] at hexits
    simp [Signal.report, hk.controlled, ← hexits]

theorem lookup_names (hk : Agrees r taken st) (name : String) :
    st.names.lookup name = (r.held.lookup name).map Reporter.number := by
  rw [hk.names, lookup_numbers]

theorem direction_of_lookup (hk : Agrees r taken st)
    (hlookup : r.held.lookup name = some reporter) :
    st.signal.direction? reporter.number = some reporter.direction := by
  have hslot := (hk.live _ _).2 (List.mem_map_of_mem (mem_of_lookup hlookup))
  simp [Signal.direction?, hslot]

/-- Giving a name up is to finish as broken down. -/
theorem abandon (hk : Agrees r taken st) (name : String) :
    Agrees (r.finish name none) taken ((st.abandon name).getD st) := by
  cases hlookup : r.held.lookup name with
  | none => simpa [SignalState.abandon, hk.lookup_names, ReporterTable.finish, hlookup] using hk
  | some reporter =>
    simpa [SignalState.abandon, hk.lookup_names, hlookup, Signal.abandon,
      hk.direction_of_lookup hlookup] using hk.finish hlookup none

theorem add (hk : Agrees r taken st) (hopen : r.isOpen = true)
    (hfresh : name ∉ r.held.map Prod.fst) (direction : Direction) :
    Agrees (r.add name direction) taken
      { signal := (st.signal.reporter direction).2
        names := (name, (st.signal.reporter direction).1) :: st.names } := by
  refine ⟨hk.controlled, hk.isOpen, ?_, ?_, ?_, ?_, ?_, ?_⟩
  · simp [ReporterTable.add, Signal.reporter, hk.made]
  · simp [ReporterTable.add, Signal.reporter, hk.made, hk.names]
  · exact List.nodup_cons.2 ⟨hfresh, hk.distinct⟩
  · simp only [ReporterTable.add, List.map_cons, List.cons_append, List.range_succ]
    exact (hk.numbers.cons r.made).trans (List.perm_append_singleton _ _).symm
  · intro n other
    have hlive := hk.live n other
    have hmade := hk.made
    simp only [Signal.reporter, ReporterTable.add, List.map_cons, List.mem_cons, ← hlive]
    rcases Nat.lt_trichotomy n st.signal.reporters.length with hlt | rfl | hgt
    · have hne : (⟨n, other⟩ : Reporter) ≠ ⟨r.made, direction⟩ := by
        simp
        omega
      simp [List.getElem?_append_left hlt, hne]
    · simp [hmade, eq_comm]
    · have hnone : (st.signal.reporters ++ [some direction])[n]? = none := by
        simp
        omega
      have hne : (⟨n, other⟩ : Reporter) ≠ ⟨r.made, direction⟩ := by
        simp
        omega
      simp [hnone, hne, List.getElem?_eq_none (Nat.le_of_lt hgt)]
  · obtain ⟨k, hexits, hover⟩ := hk.exits
    refine ⟨k, hexits, fun hpos => ?_⟩
    exact absurd hopen (by simp [(hover hpos).2.1])

/-- Nothing is to come any more exactly if nobody is left who could report. -/
theorem mayReport_eq (hk : Agrees r taken st) :
    st.signal.mayReport = (r.isOpen || !r.held.isEmpty) := by
  have hany : st.signal.reporters.any Option.isSome = !r.held.isEmpty := by
    rw [Bool.eq_iff_iff]
    constructor
    · intro h
      obtain ⟨slot, hslot, hsome⟩ := List.any_eq_true.1 h
      obtain ⟨direction, rfl⟩ := Option.isSome_iff_exists.1 hsome
      obtain ⟨n, hn⟩ := List.mem_iff_getElem?.1 hslot
      have hmem := (hk.live n direction).1 hn
      rw [Bool.not_eq_true', List.isEmpty_eq_false_iff]
      rintro hnil
      simp [hnil] at hmem
    · intro h
      obtain ⟨entry, hentry⟩ := List.exists_mem_of_ne_nil r.held (by simpa using h)
      have hslot := (hk.live _ _).2 (List.mem_map_of_mem hentry)
      exact List.any_eq_true.2 ⟨_, List.mem_of_getElem? hslot, rfl⟩
  rw [Signal.mayReport, hany, hk.isOpen]

end Agrees

/-! ## What a step does -/

namespace SignalState

theorem perform_breakDown (st : SignalState) (name : String) :
    (st.perform (.breakDown name)).2 = (st.abandon name).getD st := by
  simp only [perform]
  split <;> simp [*]

theorem reporter_abandon (s : Signal) {n : Nat} (hn : n < s.reporters.length)
    (direction : Direction) :
    (s.reporter direction).2.abandon n = ((s.abandon n).reporter direction).2 := by
  have hdirection : (s.reporter direction).2.direction? n = s.direction? n := by
    simp [Signal.direction?, Signal.reporter, List.getElem?_append_left hn]
  unfold Signal.abandon
  rw [hdirection]
  cases s.direction? n with
  | none => rfl
  | some old =>
    simp only [Signal.reporter, Signal.report, List.set_append_left _ _ hn]
    rfl

/-- A name that is used again is given up first. -/
theorem perform_reporter (st : SignalState) (name : String) (direction : Direction)
    (hheld : st.signal.isHeld = true)
    (hnames : ∀ n, st.names.lookup name = some n → n < st.signal.reporters.length) :
    st.perform (.reporter name direction) =
      (.done,
        let st := (st.abandon name).getD st
        { signal := (st.signal.reporter direction).2
          names := (name, (st.signal.reporter direction).1) :: st.names }) := by
  cases hlookup : st.names.lookup name with
  | none => simp [perform, held, hheld, abandon, hlookup]
  | some n =>
    have hnumber : ((st.signal.abandon n).reporter direction).1 =
        (st.signal.reporter direction).1 := by
      unfold Signal.abandon
      split <;> simp [Signal.reporter, Signal.report]
    have hcomm := reporter_abandon st.signal (hnames n hlookup) direction
    simp [perform, held, hheld, abandon, hlookup, hcomm, hnumber]

end SignalState

namespace Agrees

variable {r : ReporterTable} {taken : List Exit} {st : SignalState}

theorem reporter (hk : Agrees r taken st) (name : String) (direction : Direction) :
    Agrees (r.record (.reporter name direction)) taken
      (st.perform (.reporter name direction)).2 := by
  cases hopen : r.isOpen with
  | false =>
    have hheld : st.signal.isHeld = false := hk.isOpen.trans hopen
    simpa [ReporterTable.record, hopen, SignalState.perform, SignalState.held, hheld] using hk
  | true =>
    have hnames : ∀ n, st.names.lookup name = some n → n < st.signal.reporters.length := by
      intro n hn
      rw [hk.lookup_names] at hn
      obtain ⟨reporter, hlookup, rfl⟩ := Option.map_eq_some_iff.1 hn
      have hslot := (hk.live _ _).2 (List.mem_map_of_mem (mem_of_lookup hlookup))
      exact (List.getElem?_eq_some_iff.1 hslot).1
    rw [SignalState.perform_reporter st name direction (hk.isOpen.trans hopen) hnames]
    simp only [ReporterTable.record, hopen, if_true]
    exact (hk.abandon name).add (by simpa using hopen) (r.fresh_finish name none) direction

theorem report (hk : Agrees r taken st) (name : String) (exit : Exit) :
    Agrees (r.record (.report name exit)) taken (st.perform (.report name exit)).2 := by
  cases hlookup : r.held.lookup name with
  | none =>
    simpa [ReporterTable.record, ReporterTable.finish, hlookup, SignalState.perform,
      hk.lookup_names] using hk
  | some reporter =>
    simpa [ReporterTable.record, SignalState.perform, hk.lookup_names, hlookup] using
      hk.finish hlookup (some exit)

theorem waitFirst (hk : Agrees r taken st) :
    Agrees r (taken ++ waited [.waitFirst] [(st.perform .waitFirst).1])
      (st.perform .waitFirst).2 := by
  obtain ⟨k, hexits, hover⟩ := hk.exits
  cases hqueue : st.signal.queue with
  | cons exit rest =>
    have hperform : st.perform .waitFirst =
        (.exit exit, { st with signal := { st.signal with queue := rest } }) := by
      simp [SignalState.perform, SignalState.controlled, hk.controlled, Signal.waitFirst, hqueue]
    rw [hperform]
    refine { hk with exits := ⟨k, ?_, fun hpos => ?_⟩ }
    · simpa [waited, hqueue] using hexits
    · exact absurd (hover hpos).1 (by simp [hqueue])
  | nil =>
    have hmay := hk.mayReport_eq
    cases hleft : r.isOpen || !r.held.isEmpty with
    | true =>
      have hperform : st.perform .waitFirst = (.blocked, st) := by
        simp [SignalState.perform, SignalState.controlled, hk.controlled, Signal.waitFirst, hqueue,
          hmay, hleft]
      rw [hperform]
      simpa [waited] using hk
    | false =>
      have hperform : st.perform .waitFirst = (.exit (.panicked .inbound), st) := by
        simp [SignalState.perform, SignalState.controlled, hk.controlled, Signal.waitFirst, hqueue,
          hmay, hleft]
      rw [hperform]
      refine { hk with exits := ⟨k + 1, ?_, fun _ => ?_⟩ }
      · rw [hqueue, List.append_nil] at hexits
        simp [waited, hqueue, hexits, List.replicate_succ']
      · simpa [hqueue] using hleft

theorem release (hk : Agrees r taken st) :
    Agrees { r with isOpen := false } taken (st.perform .release).2 := by
  obtain ⟨k, hexits, hover⟩ := hk.exits
  have hover' : 0 < k → st.signal.queue = [] ∧ false = false ∧ r.held = [] := fun hpos =>
    ⟨(hover hpos).1, rfl, (hover hpos).2.2⟩
  cases hheld : st.signal.isHeld with
  | false =>
    simp only [SignalState.perform, hheld]
    exact { hk with isOpen := hheld, exits := ⟨k, hexits, hover'⟩ }
  | true =>
    simp only [SignalState.perform, hheld]
    exact { hk with isOpen := rfl, exits := ⟨k, hexits, hover'⟩ }

/-- One step: the table stays right, and a wait's answer is added to what was given out. -/
theorem perform (hk : Agrees r taken st) {step : SignalStep} (hstep : step ≠ .dropController) :
    Agrees (r.record step) (taken ++ waited [step] [(st.perform step).1]) (st.perform step).2 := by
  cases step with
  | waitFirst => exact hk.waitFirst
  | dropController => exact absurd rfl hstep
  | reporter name direction => simpa [waited] using hk.reporter name direction
  | report name exit => simpa [waited] using hk.report name exit
  | drop name => simpa [waited, ReporterTable.record, SignalState.perform] using hk.abandon name
  | breakDown name =>
    simpa [waited, ReporterTable.record, SignalState.perform_breakDown] using hk.abandon name
  | release => simpa [waited, ReporterTable.record] using hk.release
  | trip =>
    have hst : (st.perform .trip).2 =
        { st with signal := { st.signal with tripped := true, hasSender := false } } := by
      simp [SignalState.perform, SignalState.controlled, hk.controlled, Signal.trip]
    rw [hst]
    simpa [waited, ReporterTable.record] using { hk with }
  | isTripped =>
    simpa [waited, ReporterTable.record, SignalState.perform, SignalState.controlled,
      hk.controlled] using hk
  | isShuttingDown =>
    have hst : (st.perform .isShuttingDown).2 = st := by
      simp only [SignalState.perform, SignalState.held]
      split <;> rfl
    simpa [waited, ReporterTable.record, hst] using hk
  | isCancelled =>
    have hst : (st.perform .isCancelled).2 = st := by
      simp only [SignalState.perform, SignalState.held]
      split <;> rfl
    simpa [waited, ReporterTable.record, hst] using hk

end Agrees

theorem agrees_of_steps {steps : List SignalStep}
    (hcontroller : SignalStep.dropController ∉ steps) :
    Agrees (reporterTable steps) (waited steps (SignalState.performAll {} steps))
      (stateAfter steps) := by
  induction steps using List.reverseRecOn with
  | nil => exact Agrees.start
  | append_singleton steps step ih =>
    simp only [List.mem_append, List.mem_singleton, not_or] at hcontroller
    rw [reporterTable_append, stateAfter_append, waited_append]
    exact (ih hcontroller.1).perform (Ne.symm hcontroller.2)

/-! ## Tripping

A trip sets the flag and lets the sender of the cancellation channel go. That the two never differ
is a matter of all steps: no other one touches either, as long as the coordinator's side exists. -/

namespace SignalState

theorem flags_abandon (st : SignalState) (name : String) :
    ((st.abandon name).getD st).signal.tripped = st.signal.tripped ∧
      ((st.abandon name).getD st).signal.hasSender = st.signal.hasSender := by
  unfold abandon Signal.abandon
  cases st.names.lookup name with
  | none => exact ⟨rfl, rfl⟩
  | some n =>
    simp only [Option.map_some, Option.getD_some]
    split
    · exact ⟨rfl, rfl⟩
    · exact ⟨rfl, rfl⟩

theorem flags_trip (st : SignalState) (hcontrolled : st.signal.isControlled = true) :
    (st.perform .trip).2.signal.tripped = true ∧ (st.perform .trip).2.signal.hasSender = false := by
  simp [perform, controlled, hcontrolled, Signal.trip]

theorem flags_perform (st : SignalState) (hcontrolled : st.signal.isControlled = true)
    {step : SignalStep} (htrip : step ≠ .trip) (hcontroller : step ≠ .dropController) :
    (st.perform step).2.signal.tripped = st.signal.tripped ∧
      (st.perform step).2.signal.hasSender = st.signal.hasSender := by
  cases step with
  | trip => exact absurd rfl htrip
  | dropController => exact absurd rfl hcontroller
  | reporter name direction =>
    simp only [perform, held]
    split
    · exact flags_abandon { st with signal := (st.signal.reporter direction).2 } name
    · exact ⟨rfl, rfl⟩
  | drop name => exact st.flags_abandon name
  | breakDown name =>
    rw [perform_breakDown]
    exact st.flags_abandon name
  | report name exit =>
    simp only [perform]
    split
    · exact ⟨rfl, rfl⟩
    · exact ⟨rfl, rfl⟩
  | release =>
    simp only [perform]
    split
    · exact ⟨rfl, rfl⟩
    · exact ⟨rfl, rfl⟩
  | isTripped => simp [perform, controlled, hcontrolled]
  | isShuttingDown | isCancelled =>
    simp only [perform, held]
    split
    · exact ⟨rfl, rfl⟩
    · exact ⟨rfl, rfl⟩
  | waitFirst =>
    simp only [perform, controlled, hcontrolled, if_true, Signal.waitFirst]
    cases st.signal.queue with
    | cons exit rest => exact ⟨rfl, rfl⟩
    | nil =>
      cases st.signal.mayReport with
      | true => exact ⟨rfl, rfl⟩
      | false => exact ⟨rfl, rfl⟩

end SignalState

theorem flags_of_steps {steps : List SignalStep} (hcontroller : SignalStep.dropController ∉ steps) :
    (stateAfter steps).signal.tripped = decide (SignalStep.trip ∈ steps) ∧
      (stateAfter steps).signal.hasSender = !decide (SignalStep.trip ∈ steps) := by
  induction steps using List.reverseRecOn with
  | nil => exact ⟨rfl, rfl⟩
  | append_singleton steps step ih =>
    simp only [List.mem_append, List.mem_singleton, not_or] at hcontroller
    have hcontrolled := (agrees_of_steps hcontroller.1).controlled
    obtain ⟨hflag, hsender⟩ := ih hcontroller.1
    rw [stateAfter_append]
    by_cases htrip : step = .trip
    · subst htrip
      simpa using (stateAfter steps).flags_trip hcontrolled
    · have hsame := (stateAfter steps).flags_perform hcontrolled htrip (Ne.symm hcontroller.2)
      rw [hsame.1, hsame.2, hflag, hsender]
      simp [Ne.symm htrip]

/-- As long as the coordinator's side exists, what the waits were answered with and what is still
queued are the exits of the finished reporters, one for each, in the order in which they finished;
only when nobody is left can a wait be answered with less than that. Tripping counts once, and all
who ask whether it happened are told the same. -/
theorem one_exit_per_reporter (steps : List SignalStep)
    (hcontrolled : SignalStep.dropController ∉ steps) :
    (∃ k, waited steps (SignalState.performAll {} steps) ++ (stateAfter steps).signal.queue =
        (reporterTable steps).finished.map Prod.snd ++ List.replicate k (.panicked .inbound) ∧
      (0 < k → (stateAfter steps).signal.queue = [] ∧
        (reporterTable steps).isOpen = false ∧ (reporterTable steps).held = [])) ∧
    ((reporterTable steps).finished.map (·.1.number)).Nodup ∧
    (∀ n, n ∈ (reporterTable steps).finished.map (·.1.number) ↔
      n < (reporterTable steps).made ∧ n ∉ (reporterTable steps).held.map (·.2.number)) ∧
    ((stateAfter steps).perform .waitFirst).1 =
      (match (stateAfter steps).signal.queue with
      | exit :: _ => .exit exit
      | [] => if (reporterTable steps).isOpen ∨ (reporterTable steps).held ≠ [] then .blocked
        else .exit (.panicked .inbound)) ∧
    ((stateAfter steps).perform .trip).1 = .first (decide (SignalStep.trip ∉ steps)) ∧
    ((stateAfter steps).perform .isTripped).1 = .flag (decide (SignalStep.trip ∈ steps)) ∧
    (stateAfter steps).signal.isCancelled = decide (SignalStep.trip ∈ steps) ∧
    ((reporterTable steps).isOpen = true →
      ((stateAfter steps).perform .isShuttingDown).1 = .flag (decide (SignalStep.trip ∈ steps)) ∧
      ((stateAfter steps).perform .isCancelled).1 =
        .cancelled (decide (SignalStep.trip ∈ steps))) := by
  have hk := agrees_of_steps hcontrolled
  obtain ⟨htripped, hsender⟩ := flags_of_steps hcontrolled
  have hcancelled : (stateAfter steps).signal.isCancelled = decide (SignalStep.trip ∈ steps) := by
    rw [Signal.isCancelled, hsender, Bool.not_not]
  obtain ⟨-, hfinished, hapart⟩ :=
    List.nodup_append.1 (hk.numbers.nodup_iff.2 List.nodup_range)
  refine ⟨hk.exits, hfinished, ?_, ?_, ?_, ?_, hcancelled, ?_⟩
  · intro n
    have hmem := hk.numbers.mem_iff (a := n)
    rw [List.mem_append, List.mem_range] at hmem
    constructor
    · intro hn
      exact ⟨hmem.1 (.inr hn), fun hheld => hapart n hheld n hn rfl⟩
    · rintro ⟨hlt, hheld⟩
      exact (hmem.2 hlt).resolve_left hheld
  · have hmay := hk.mayReport_eq
    simp only [SignalState.perform, SignalState.controlled, hk.controlled, if_true,
      Signal.waitFirst, hmay]
    cases (stateAfter steps).signal.queue with
    | cons exit rest => rfl
    | nil => cases (reporterTable steps).isOpen <;> cases (reporterTable steps).held <;> rfl
  · simp [SignalState.perform, SignalState.controlled, hk.controlled, Signal.trip, htripped]
  · simp [SignalState.perform, SignalState.controlled, hk.controlled, htripped]
  · intro hopen
    have hheld : (stateAfter steps).signal.isHeld = true := hk.isOpen.trans hopen
    simp [SignalState.perform, SignalState.held, hheld, htripped, hcancelled]

/-- A name is used twice, so that its first reporter is given up; the second one breaks down. The
third wait is answered from the queue, and the fourth one because nobody is left. -/
theorem one_exit_per_reporter_name_reused :
    ∃ steps, SignalStep.dropController ∉ steps ∧
      (reporterTable steps).finished = [(⟨1, .outbound⟩, ⟨.outbound, .localSentinel, 5⟩),
        (⟨0, .inbound⟩, ⟨.inbound, .panicked, 0⟩), (⟨2, .outbound⟩, ⟨.outbound, .panicked, 0⟩)] ∧
      (waited steps (SignalState.performAll {} steps)).length = 4 ∧
      ∃ k, waited steps (SignalState.performAll {} steps) ++ (stateAfter steps).signal.queue =
          (reporterTable steps).finished.map Prod.snd ++ List.replicate k (.panicked .inbound) ∧
        (0 < k → (stateAfter steps).signal.queue = [] ∧
          (reporterTable steps).isOpen = false ∧ (reporterTable steps).held = []) :=
  ⟨[.reporter "a" .inbound, .reporter "b" .outbound, .report "b" ⟨.outbound, .localSentinel, 5⟩,
      .waitFirst, .trip, .reporter "a" .outbound, .breakDown "a", .release, .trip,
      .waitFirst, .waitFirst, .waitFirst],
    by decide, by decide, by decide, (one_exit_per_reporter _ (by decide)).1⟩

end TextRelay.Scenario
