import TextRelay.Host.LocalListener
import TextRelay.Host.PortListener
import TextRelay.Scenario.Listener
import TextRelay.Server

/-!
# Scenarios for a server

A list of steps on one server, on the session it accepts, and on one peer that dials it. After each
step the session's relays go on until they wait.
-/

namespace TextRelay.Scenario

/-- A step on a server. Input lines that are not given stand for an input that stays silent. -/
inductive ServerStep where
  | bind
  | accept (lines : Option (List String))
  | serveOnce (lines : Option (List String))
  | wait
  | finish
  | drop
  /-- A peer dials, in place of the one that is there. -/
  | connect
  | peerSend (data : Bytes)
  | peerClose
  | peerRead
  deriving DecidableEq, Repr

inductive ServerReply where
  | done
  | failed (e : RelayError)
  | accepted (stage : Stage) (peer : String)
  | reported (report : Report) (units : List String)
  | connected (success : Bool)
  | shown (units : List String)
  | got (data : Option Bytes)
  | gone

structure ServerOutcome where
  reply : ServerReply
  /-- The stages so far, unless the server was given up. -/
  stages : Option (List Stage)
  description : Option String
  /-- How often the listener was closed, if that is counted. -/
  closes : Option Nat

/-- What differs from one kind of listener to another. -/
structure ListenerKind (ℓ κ : Type) where
  dial : ℓ → κ → Option Nat × κ
  /-- Only one peer can come: there is a single far end to take. -/
  hasSinglePeer : Bool
  /-- The peer that is there without having dialed. -/
  undialedPeer : ℓ → Option Nat
  closes : ℓ → Option Nat

structure ServerState (ℓ κ : Type) where
  kind : ListenerKind ℓ κ
  sink : Sink
  server : Server ℓ
  isGone : Bool := false
  session : Option Session := none
  peer : Option Nat := none
  medium : κ

namespace ServerState

variable {ℓ κ : Type} [Listener ℓ κ] [Medium κ]

def sourceOf : Option (List String) → Source
  | some lines => .ofLines lines
  | none => .queue [] true

def settle (st : ServerState ℓ κ) : ServerState ℓ κ :=
  match Session.settle st.session.toList st.medium with
  | (ss, medium) => { st with session := ss.head?, medium }

def units (st : ServerState ℓ κ) : List String :=
  match st.session with
  | some s => s.inbound.sink.units
  | none => []

/-- The peer, which may be found only now. -/
def findPeer (st : ServerState ℓ κ) : ServerState ℓ κ :=
  { st with peer := st.peer.or (st.kind.undialedPeer st.server.listener) }

def serveFor (start : Nat → κ → Except RelayError Session × κ) :
    List Serving.Move → Serving ℓ → κ → Option (Serving ℓ × κ)
  | [], v, w => some (v, w)
  | move :: rest, v, w =>
    if v.isDone then some (v, w)
    else (v.step start w move).bind fun (v, w) => serveFor start rest v w

/-- Serves a peer that is waiting already. Without one, or if the session waits for somebody else,
there is no result. -/
def serveOnce (server : Server ℓ) (source : Source) (sink : Sink) (w : κ) :
    Option (Serving ℓ × κ) :=
  let start := Session.start server.settings source sink
  (serveFor start [.bind, .accept, .wait] (.binding server) w).bind fun
    | (.relaying server session, w) => match Session.run [session] w with
      | ([session], w) => serveFor start [.finish] (.relaying server session) w
      | _ => none
    | (v, w) => some (v, w)

def perform (st : ServerState ℓ κ) : ServerStep → ServerReply × ServerState ℓ κ
  | .bind =>
    if st.isGone then (.gone, st)
    else match st.server.bind st.medium with
      | (.ok (), server, medium) => (.done, { st with server, medium })
      | (.error e, server, medium) => (.failed e, { st with server, medium })
  | .accept lines =>
    if st.isGone then (.gone, st)
    else match st.server.accept (sourceOf lines) st.sink st.medium with
      | some (.ok s, server, medium) =>
        (.accepted s.stage s.peer, { st with server, medium, session := some s }.settle)
      | some (.error e, server, medium) => (.failed e, { st with server, medium })
      | none => (.gone, st)
  | .serveOnce lines =>
    if st.isGone then (.gone, st)
    else match serveOnce st.server (sourceOf lines) st.sink st.medium with
      | some (.done server (.ok (report, sink)), medium) =>
        (.reported report sink.units, { st with server, medium, isGone := true })
      | some (.done server (.error e), medium) =>
        (.failed e, { st with server, medium, isGone := true })
      | _ => (.gone, { st with isGone := true })
  | .wait =>
    match st.session.bind Session.callWait with
    | none => (.gone, st)
    | some s => match Session.run [s] st.medium with
      | (ss, medium) =>
        match ss.head?.bind Session.report? with
        | some report =>
          let shown := { st with session := ss.head? }.units
          (.reported report shown, { st with session := none, medium })
        | none => (.gone, { st with session := ss.head?, medium })
  | .finish =>
    if st.isGone then (.gone, st)
    else
      let (server, medium) := st.server.finish st.medium
      (.done, { st with server, medium })
  | .drop =>
    if st.isGone then (.done, st)
    else
      let (server, medium) := st.server.drop st.medium
      (.done, { st with server, medium, isGone := true })
  | .connect =>
    if st.kind.hasSinglePeer && st.peer.isSome then (.connected false, st)
    else match st.kind.dial st.server.listener st.medium with
      | (none, medium) => (.connected false, { st with medium })
      | (some peer, medium) =>
        let medium := match st.peer with
          | some old => Medium.drop medium old
          | none => medium
        (.connected true, { st with peer := some peer, medium }.settle)
  | .peerSend data =>
    match st.peer with
    | none => (.gone, st)
    | some h => match Medium.sendAll h (data.length + 1) st.medium { data } with
      | .ended _ medium | .blocked _ medium =>
        let st := { st with medium }.settle
        (.shown st.units, st)
  | .peerClose =>
    match st.peer with
    | none => (.gone, st)
    | some h => (.done, { st with medium := (Medium.shutdown st.medium h).2 }.settle)
  | .peerRead =>
    let st := st.findPeer
    match st.peer with
    | none => (.got none, st)
    | some h =>
      let (pieces, medium) := Medium.drain h 64 (Medium.inTransit st.medium + 1) st.medium
      (.got (some pieces.flatten), { st with medium })

def performAll (st : ServerState ℓ κ) : List ServerStep → List ServerOutcome × ServerState ℓ κ
  | [] => ([], st)
  | step :: rest =>
    let (reply, st) := st.perform step
    let outcome : ServerOutcome := {
      reply
      stages := if st.isGone then none else some st.server.stages
      description := if st.isGone then none
        else some (Listener.describe st.server.listener st.medium)
      closes := st.kind.closes st.server.listener }
    let (outcomes, st) := performAll st rest
    (outcome :: outcomes, st)

def dropAll (st : ServerState ℓ κ) : ServerState ℓ κ :=
  if st.isGone then st
  else
    let (server, medium) := st.server.drop st.medium
    { st with server, medium, isGone := true }

end ServerState

def scriptedKind : ListenerKind ScriptedListener (Faulty Pipe) where
  dial l w := (if l.hasAccepted then some 1 else none, w)
  hasSinglePeer := true
  undialedPeer l := if l.hasAccepted then some 1 else none
  closes l := some l.closes

def handleOnly : Except Fault Nat × Host → Option Nat × Host
  | (result, w) => (result.toOption, w)

def localKind : ListenerKind LocalListener Host where
  dial l w := handleOnly (w.dialLocal l.path)
  hasSinglePeer := false
  undialedPeer _ := none
  closes _ := none

def portKind : ListenerKind PortListener Host where
  dial l w := handleOnly (w.dialPort (l.describe w))
  hasSinglePeer := false
  undialedPeer _ := none
  closes _ := none

end TextRelay.Scenario
