import TextRelay.Listener
import TextRelay.Session.Schedule

/-!
# Servers

A server binds its listener, accepts exactly one peer, and starts a session with it. It walks
through the stages in order: a call that does not fit the present stage is refused and changes
nothing, and a call that fails releases the listener for good.

To serve one peer is a run of its own (`Serving`): the server binds, accepts, waits for the session
and finishes, and in between others use the medium, the peer among them.
-/

namespace TextRelay

structure Server (ℓ : Type) where
  listener : ℓ
  settings : Settings
  history : History := .start .idle
  log : List Log.Event := []

namespace Server

variable {ℓ κ : Type} [Listener ℓ κ] [Medium κ]

def stage (s : Server ℓ) : Stage := s.history.current

def stages (s : Server ℓ) : List Stage := s.history.visited

def enter (s : Server ℓ) (next : Stage) : Server ℓ :=
  let (history, events) := s.history.enter next
  { s with history, log := s.log ++ events }

def logEvent (s : Server ℓ) (event : Log.Event) : Server ℓ := { s with log := s.log ++ [event] }

/-- Closes the listener; the server is closed for good. -/
def release (s : Server ℓ) (w : κ) : Server ℓ × κ :=
  let (listener, w) := Listener.close s.listener w
  let s := { s with listener }
  (if s.stage.isTerminal then s else s.enter .closed, w)

def bind (s : Server ℓ) (w : κ) : Except RelayError Unit × Server ℓ × κ :=
  if s.stage = .idle then
    match Listener.bind s.listener w with
    | (.ok (), listener, w) =>
      let s := { s with listener }.enter .listening
      (.ok (),
        s.logEvent ⟨.info, "listening for a peer", [("address", Listener.describe listener w)]⟩, w)
    | (.error fault, listener, w) =>
      let address := Listener.describe listener w
      let (s, w) := { s with listener }.release w
      (.error (.bind address fault), s, w)
  else (.error (.wrongStage s.stage), s, w)

/-- Accepts a peer and starts a session with it in a given way. The call blocks while there is no
peer. -/
def acceptBy (s : Server ℓ) (start : Nat → κ → Except RelayError Session × κ) (w : κ) :
    Option (Except RelayError Session × Server ℓ × κ) :=
  if s.stage = .listening then
    (Listener.accept s.listener w).map fun
      | (.error fault, listener, w) =>
        let address := Listener.describe listener w
        let (s, w) := { s with listener }.release w
        (.error (.accept address fault), s, w)
      | (.ok stream, listener, w) =>
        let s := { s with listener }
        match start stream w with
        | (.error e, w) =>
          let (s, w) := s.release w
          (.error e, s, w)
        | (.ok session, w) =>
          let s := s.logEvent ⟨.info, "peer connected", [("peer", session.peer)]⟩
          (.ok session, s.enter .connected, w)
  else some (.error (.wrongStage s.stage), s, w)

def accept (s : Server ℓ) (source : Source) (sink : Sink) (w : κ) :
    Option (Except RelayError Session × Server ℓ × κ) :=
  s.acceptBy (Session.start s.settings source sink) w

def finish (s : Server ℓ) (w : κ) : Server ℓ × κ :=
  let s := if s.stage = .connected then s.enter .shuttingDown else s
  s.release w

def drop (s : Server ℓ) (w : κ) : Server ℓ × κ :=
  let (listener, w) := Listener.close s.listener w
  ({ s with listener }, w)

end Server

/-! ## Serving one peer -/

/-- A server that serves one peer and is given up then, by how far it has come. -/
inductive Serving (ℓ : Type) where
  | binding (server : Server ℓ)
  | accepting (server : Server ℓ)
  | relaying (server : Server ℓ) (session : Session)
  | done (server : Server ℓ) (result : Except RelayError (Report × Sink))

inductive Serving.Move where
  | bind
  | accept
  | wait
  | relay (action : Session.Action)
  | finish
  deriving DecidableEq, Repr

namespace Serving

variable {ℓ κ : Type} [Listener ℓ κ] [Medium κ]

def server : Serving ℓ → Server ℓ
  | binding server | accepting server | relaying server _ | done server _ => server

def isDone : Serving ℓ → Bool
  | done .. => true
  | _ => false

def conclude (server : Server ℓ) (result : Except RelayError (Report × Sink)) (w : κ) :
    Serving ℓ × κ :=
  let (server, w) := server.drop w
  (.done server result, w)

/-- Does one thing, if it is its turn and does not block. Sessions are started in a given way. -/
def step (start : Nat → κ → Except RelayError Session × κ) (v : Serving ℓ) (w : κ) :
    Move → Option (Serving ℓ × κ)
  | .bind => match v with
    | .binding server => match server.bind w with
      | (.ok (), server, w) => some (.accepting server, w)
      | (.error e, server, w) => some (conclude server (.error e) w)
    | _ => none
  | .accept => match v with
    | .accepting server => (server.acceptBy start w).map fun
      | (.ok session, server, w) => (.relaying server session, w)
      | (.error e, server, w) => conclude server (.error e) w
    | _ => none
  | .wait => match v with
    | .relaying server session => session.callWait.map fun session => (.relaying server session, w)
    | _ => none
  | .relay action => match v with
    | .relaying server session => (session.step w action).map fun (session, w) =>
        (.relaying server session, w)
    | _ => none
  | .finish => match v with
    | .relaying server session => session.report?.map fun report =>
        let (server, w) := server.finish w
        conclude server (.ok (report, session.inbound.sink)) w
    | _ => none

end Serving

end TextRelay
