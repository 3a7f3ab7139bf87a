import TextRelay.Client
import TextRelay.Host.LocalListener
import TextRelay.Pipe
import TextRelay.Server

/-!
# Scenarios for a dialogue

Two sessions talk to each other, over a pipe or over a local socket. Each step types a line on one
side, or ends that side's input; all relays go on until they wait. When the steps are over, both
sessions are waited for.
-/

namespace TextRelay.Scenario

structure EndSetup where
  settings : Settings := {}
  sink : Sink := {}

/-- A step of a dialogue, on the first side or on the second. -/
inductive DuplexStep where
  | type (first : Bool) (line : String)
  | inputEnds (first : Bool)
  deriving DecidableEq, Repr

inductive DuplexReply where
  | done
  /-- The lines that the other side shows by now. -/
  | shown (lines : List String)
  deriving DecidableEq, Repr

structure DuplexState (κ : Type) where
  first : Session
  second : Session
  medium : κ

structure DuplexResult where
  replies : List DuplexReply
  first : Option Report
  second : Option Report
  firstText : String
  secondText : String
  /-- The stages of the server, if there was one, and whether its socket is still there. -/
  server : Option (List Stage × Bool) := none

namespace DuplexState

variable {κ : Type} [Medium κ]

def update (st : DuplexState κ) : List Session × κ → DuplexState κ
  | ([first, second], medium) => { first, second, medium }
  | (_, medium) => { st with medium }

/-- The relays go on until they wait. -/
def settle (st : DuplexState κ) : DuplexState κ :=
  st.update (Session.settle [st.first, st.second] st.medium)

/-- Relays and coordinators go on until they wait. -/
def run (st : DuplexState κ) : DuplexState κ :=
  st.update (Session.run [st.first, st.second] st.medium)

def onSource (st : DuplexState κ) (first : Bool) (f : Source → Source) : DuplexState κ :=
  let change (s : Session) : Session := { s with pump := { s.pump with source := f s.pump.source } }
  (if first then { st with first := change st.first }
    else { st with second := change st.second }).settle

def perform (st : DuplexState κ) : DuplexStep → DuplexReply × DuplexState κ
  | .type first line =>
    let st := st.onSource first (·.push (.event (.line line)))
    let other := if first then st.second else st.first
    (.shown other.inbound.sink.lines, st)
  | .inputEnds first => (.done, st.onSource first Source.close)

def performAll (st : DuplexState κ) : List DuplexStep → List DuplexReply × DuplexState κ
  | [] => ([], st)
  | step :: rest =>
    let (reply, st) := st.perform step
    let (replies, st) := performAll st rest
    (reply :: replies, st)

def exec (st : DuplexState κ) (steps : List DuplexStep) : DuplexResult × κ :=
  let (replies, st) := st.settle.performAll steps
  let st := { st with
    first := st.first.callWait.getD st.first
    second := st.second.callWait.getD st.second }.run
  ({ replies
     first := st.first.report?
     second := st.second.report?
     firstText := st.first.inbound.sink.text
     secondText := st.second.inbound.sink.text }, st.medium)

end DuplexState

def pipeDialogue (a b : EndSetup) (steps : List DuplexStep) : Except RelayError DuplexResult :=
  let silent : Source := .queue [] true
  match Session.start a.settings silent a.sink 0 ({} : Pipe) with
  | (.error e, _) => .error e
  | (.ok first, p) => match Session.start b.settings silent b.sink 1 p with
    | (.error e, _) => .error e
    | (.ok second, p) => .ok (DuplexState.exec ⟨first, second, p⟩ steps).1

/-- A dialogue over a local socket: the first side serves, the second one dials. -/
def socketDialogue (host : Host) (path : String) (a b : EndSetup) (steps : List DuplexStep) :
    Except RelayError DuplexResult :=
  let silent : Source := .queue [] true
  let server : Server LocalListener := { listener := { path }, settings := a.settings }
  match server.bind host with
  | (.error e, _, _) => .error e
  | (.ok (), server, host) => match Client.dialLocal path host with
    | (.error e, _) => .error e
    | (.ok client, host) => match server.accept silent a.sink host with
      | none => .error (.wrongStage server.stage)
      | some (.error e, _, _) => .error e
      | some (.ok first, server, host) => match client.start b.settings silent b.sink host with
        | (.error e, _) => .error e
        | (.ok second, host) =>
          let (result, host) := DuplexState.exec ⟨first, second, host⟩ steps
          let (server, host) := server.finish host
          .ok { result with
            server := some (server.stages, (host.files.lookup path).toOption.isSome) }

end TextRelay.Scenario
