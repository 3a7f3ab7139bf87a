import Mathlib.Data.List.Chain
import TextRelay.History

/-!
# Legal histories

A history that was begun at a stage and only ever advanced goes from there to its current stage
along the legal edges. Each edge leads to a stage with a higher number, so the way is short and no
stage comes twice on it, whatever was asked for in between (`course_of_requests`).
-/

namespace TextRelay

theorem Stage.code_lt_of_canAdvance {a b : Stage} (h : a.canAdvance b = true) :
    a.code < b.code := by
  revert h
  cases a <;> cases b <;> decide

theorem Stage.code_le (a : Stage) : a.code ≤ 4 := by
  cases a <;> decide

namespace History

/-- The history after one more stage. -/
def next (h : History) (stage : Stage) : History := ⟨stage, h.visited ++ [stage]⟩

theorem enter_of_edge {h : History} {stage : Stage} (hedge : h.current.canAdvance stage = true) :
    (h.enter stage).1 = h.next stage := by
  unfold enter advance
  rw [if_pos hedge]
  rfl

/-- The history is a walk along the legal edges, from the stage it was begun at to the current one.
-/
structure Legal (initial : Stage) (h : History) : Prop where
  first : h.visited.head? = some initial
  edges : h.visited.IsChain fun a b => a.canAdvance b = true
  last : h.visited.getLast? = some h.current

namespace Legal

variable {initial stage : Stage} {h : History}

theorem start (initial : Stage) : (History.start initial).Legal initial :=
  ⟨rfl, .singleton _, rfl⟩

theorem next (hlegal : h.Legal initial) (hedge : h.current.canAdvance stage = true) :
    (h.next stage).Legal initial := by
  refine ⟨?_, ?_, ?_⟩
  · show (h.visited ++ [stage]).head? = some initial
    rw [List.head?_append, hlegal.first]
    rfl
  · refine List.isChain_append.2 ⟨hlegal.edges, .singleton _, ?_⟩
    intro before hbefore after hafter
    -- The only new edge leads from the last stage on record, which is the current one.
    have hcurrent : h.current = before := by
      rw [hlegal.last] at hbefore
      exact Option.mem_some_iff.1 hbefore
    have hstage : stage = after := by simpa using hafter
    rw [← hcurrent, ← hstage]
    exact hedge
  · exact List.getLast?_concat

/-- The numbers of the stages climb. -/
theorem climbs (hlegal : h.Legal initial) : h.visited.IsChain fun a b => a.code < b.code :=
  hlegal.edges.imp fun _ _ => Stage.code_lt_of_canAdvance

theorem pairwise (hlegal : h.Legal initial) : h.visited.Pairwise fun a b => a.code < b.code := by
  have : IsTrans Stage fun a b => a.code < b.code := ⟨fun _ _ _ => Nat.lt_trans⟩
  exact List.isChain_iff_pairwise.1 hlegal.climbs

end Legal

/-- A climb takes at least as many numbers as it has steps. -/
theorem length_add_code_le {stages : List Stage} {first last : Stage}
    (hclimbs : stages.IsChain fun a b => a.code < b.code) (hfirst : stages.head? = some first)
    (hlast : stages.getLast? = some last) : stages.length + first.code ≤ last.code + 1 := by
  induction stages generalizing first with
  | nil => cases hfirst
  | cons stage rest ih =>
    cases hfirst
    cases rest with
    | nil =>
      cases hlast
      exact Nat.le_of_eq (Nat.add_comm 1 stage.code)
    | cons second rest =>
      obtain ⟨hstep, hrest⟩ := List.isChain_cons_cons.1 hclimbs
      have hle := ih hrest rfl (by simpa using hlast)
      rw [List.length_cons]
      omega

theorem Legal.length_le {initial : Stage} {h : History} (hlegal : h.Legal initial) :
    h.visited.length ≤ 5 := by
  have hle := length_add_code_le hlegal.climbs hlegal.first hlegal.last
  have htop := h.current.code_le
  omega

/-! ## Requests -/

/-- Asks for a stage. A history that refuses stays as it is. -/
def request (h : History) (stage : Stage) : Except RelayError Unit × History :=
  match h.advance stage with
  | .ok h' => (.ok (), h')
  | .error e => (.error e, h)

/-- Asks for one stage after another: the answers, and the history in the end. -/
def requests : History → List Stage → List (Except RelayError Unit) × History
  | h, [] => ([], h)
  | h, stage :: rest =>
    let (answer, h) := h.request stage
    let (answers, h) := h.requests rest
    (answer :: answers, h)

/-- Those of some stages that were granted. -/
def granted (stages : List Stage) (answers : List (Except RelayError Unit)) : List Stage :=
  ((stages.zip answers).filter (·.2.isOk)).map (·.1)

variable {h : History} {stage : Stage}

theorem request_of_edge (hedge : h.current.canAdvance stage = true) :
    h.request stage = (.ok (), h.next stage) := by
  rw [request, advance, if_pos hedge]
  rfl

theorem request_of_no_edge (hedge : h.current.canAdvance stage = false) :
    h.request stage = (.error (.wrongStage h.current), h) := by
  rw [request, advance, if_neg (by simp [hedge])]

theorem requests_cons (h : History) (stage : Stage) (rest : List Stage) :
    h.requests (stage :: rest) = ((h.request stage).1 :: ((h.request stage).2.requests rest).1,
      ((h.request stage).2.requests rest).2) := rfl

theorem Legal.request {initial : Stage} (hlegal : h.Legal initial) (stage : Stage) :
    (h.request stage).2.Legal initial := by
  cases hedge : h.current.canAdvance stage with
  | true =>
    rw [request_of_edge hedge]
    exact hlegal.next hedge
  | false =>
    rw [request_of_no_edge hedge]
    exact hlegal

theorem Legal.requests {initial : Stage} (hlegal : h.Legal initial) (stages : List Stage) :
    (h.requests stages).2.Legal initial := by
  induction stages generalizing h with
  | nil => exact hlegal
  | cons stage rest ih =>
    rw [requests_cons]
    exact ih (hlegal.request stage)

/-- There is an answer to each request, and the history grows by what was granted. -/
theorem visited_requests (h : History) (stages : List Stage) :
    (h.requests stages).1.length = stages.length ∧
      (h.requests stages).2.visited = h.visited ++ granted stages (h.requests stages).1 := by
  induction stages generalizing h with
  | nil => exact ⟨rfl, (List.append_nil _).symm⟩
  | cons stage rest ih =>
    rw [requests_cons]
    obtain ⟨hlength, hvisited⟩ := ih (h.request stage).2
    refine ⟨congrArg (· + 1) hlength, hvisited.trans ?_⟩
    cases hedge : h.current.canAdvance stage with
    | true =>
      rw [request_of_edge hedge]
      exact List.append_assoc h.visited [stage] _
    | false =>
      rw [request_of_no_edge hedge]
      rfl

/-- At the last stage everything is refused. -/
theorem requests_of_closed (hclosed : h.current = .closed) (stages : List Stage) :
    h.requests stages = (List.replicate stages.length (.error (.wrongStage .closed)), h) := by
  induction stages with
  | nil => rfl
  | cons stage rest ih =>
    have hedge : h.current.canAdvance stage = false := by
      rw [hclosed]
      cases stage <;> rfl
    rw [requests_cons, request_of_no_edge hedge, ih, hclosed]
    rfl

/-- **Whatever a history is asked for, it goes up the legal edges from where it was begun.** -/
theorem course_of_requests (initial : Stage) (stages : List Stage) :
    let answers := ((start initial).requests stages).1
    let h := ((start initial).requests stages).2
    -- The history is the first stage and then those that were granted, and ends at the current one.
    answers.length = stages.length ∧
    h.visited = initial :: granted stages answers ∧
    h.visited.getLast? = some h.current ∧
    -- Each stage leads to the next, with a higher number; so none comes twice, and four are granted
    -- at most.
    h.visited.IsChain (fun a b => a.canAdvance b = true) ∧
    h.visited.Pairwise (fun a b => a.code < b.code) ∧
    h.visited.Nodup ∧
    (granted stages answers).length ≤ 4 ∧
    -- The next request is granted if there is an edge, and else refused without a trace,
    (∀ stage, h.current.canAdvance stage = true →
      h.request stage = (.ok (), ⟨stage, h.visited ++ [stage]⟩)) ∧
    (∀ stage, h.current.canAdvance stage = false →
      h.request stage = (.error (.wrongStage h.current), h)) ∧
    -- and from the last stage on, all of them are.
    (h.current = .closed → ∀ more,
      h.requests more = (List.replicate more.length (.error (.wrongStage .closed)), h)) := by
  intro answers h
  have hlegal : h.Legal initial := (Legal.start initial).requests stages
  obtain ⟨hlength, hvisited⟩ := visited_requests (start initial) stages
  have hcourse : h.visited = initial :: granted stages answers := hvisited
  refine ⟨hlength, hcourse, hlegal.last, hlegal.edges, hlegal.pairwise, ?_, ?_,
    fun stage => request_of_edge, fun stage => request_of_no_edge, requests_of_closed⟩
  · refine hlegal.pairwise.imp fun hlt heq => ?_
    rw [heq] at hlt
    exact Nat.lt_irrefl _ hlt
  · have hle := hlegal.length_le
    rw [hcourse, List.length_cons] at hle
    exact Nat.le_of_succ_le_succ hle

/-- All the way up, with four refusals. -/
theorem course_of_requests_all_the_way :
    let stages : List Stage :=
      [.connected, .listening, .listening, .connected, .closed, .shuttingDown, .closed, .idle]
    let h := ((start .idle).requests stages).2
    h.current = .closed ∧
    h.visited = [.idle, .listening, .connected, .shuttingDown, .closed] ∧
    h.visited.Nodup ∧
    h.requests [.idle, .closed] =
      ([.error (.wrongStage .closed), .error (.wrongStage .closed)], h) := by
  intro stages h
  obtain ⟨-, -, -, -, -, hnodup, -, -, -, hclosed⟩ := course_of_requests .idle stages
  exact ⟨rfl, rfl, hnodup, hclosed rfl [.idle, .closed]⟩

end History

end TextRelay
