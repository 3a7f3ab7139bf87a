import TextRelay.Program

/-!
# Scenarios for a program

A run of one of the programs on a host, against a peer at the other end of a local socket that does
as the steps say.
-/

namespace TextRelay.Scenario

inductive ProgramStep where
  /-- Bytes arrive at the standard input, and the peer reads so many bytes or more. -/
  | type (raw : Bytes) (n : Nat)
  | peerSend (data : Bytes)
  | peerClose
  | inputEnds
  deriving DecidableEq, Repr

inductive ProgramReply where
  | done
  | got (data : Bytes)
  deriving DecidableEq, Repr

/-- A program, its peer and the host of both. -/
structure ProgramState where
  program : Program
  peer : Option Nat := none
  host : Host

structure ProgramResult where
  replies : List ProgramReply
  program : Program
  /-- What the peer could still read, if there was one. -/
  rest : Option Bytes
  host : Host

namespace ProgramState

def resume (st : ProgramState) : ProgramState :=
  let (program, host) := st.program.resume st.host
  { st with program, host }

def peerBuffer : Nat := 4096

/-- The peer fills its buffer until it has so many bytes or more, or up to the end of the stream, in
at most so many calls. -/
def peerRead (h : Nat) : Nat → Nat → Host → Bytes × Host
  | 0, _, w => ([], w)
  | fuel + 1, wanted, w =>
    if wanted = 0 then ([], w)
    else match w.receive h peerBuffer with
      | some (.ok (b :: bs), w) =>
        let (more, w) := peerRead h fuel (wanted - (b :: bs).length) w
        (b :: bs ++ more, w)
      | some (_, w) => ([], w)
      | none => ([], w)

def perform (st : ProgramState) : ProgramStep → ProgramReply × ProgramState
  | .type raw n =>
    let st := { st with program := st.program.onInput (·.pushBytes raw) }.resume
    match st.peer with
    | none => (.got [], st)
    | some h =>
      let (data, host) := peerRead h n n st.host
      (.got data, { st with host })
  | .peerSend data =>
    match st.peer with
    | none => (.done, st)
    | some h => match Medium.sendAll h (data.length + 1) st.host { data } with
      | .ended _ host | .blocked _ host => (.done, { st with host }.resume)
  | .peerClose =>
    match st.peer with
    | none => (.done, st)
    | some h => (.done, { st with host := (st.host.shutdown h).2 }.resume)
  | .inputEnds => (.done, { st with program := st.program.onInput Source.close }.resume)

def performAll (st : ProgramState) : List ProgramStep → List ProgramReply × ProgramState
  | [] => ([], st)
  | step :: rest =>
    let (reply, st) := st.perform step
    let (replies, st) := performAll st rest
    (reply :: replies, st)

/-- Starts a program. With a path there is a peer, which dials the listening program there, and
listens there for the dialing one. -/
def start (role : Role) (arguments : List String) (env : Environment) (path : Option String)
    (w : Host) : ProgramState :=
  match role, path with
  | .listen, some path =>
    let (program, w) := Program.start role arguments env w
    let (peer, w) := w.dialLocal path
    { program, peer := peer.toOption, host := w }
  | .dial, some path =>
    let (_, listener, w) := LocalListener.bind { path } w
    let (program, w) := Program.start role arguments env w
    match listener.accept w with
    | some (.ok h, _, w) => { program, peer := some h, host := w }
    | _ => { program, host := w }
  | _, none =>
    let (program, w) := Program.start role arguments env w
    { program, host := w }

end ProgramState

def runProgramScenario (role : Role) (arguments : List String) (env : Environment)
    (path : Option String) (w : Host) (steps : List ProgramStep) : ProgramResult :=
  let (replies, st) := (ProgramState.start role arguments env path w).resume.performAll steps
  match st.peer with
  | none => { replies, program := st.program, rest := none, host := st.host }
  | some h =>
    let (pieces, host) := Medium.drain h 64 (Medium.inTransit st.host + 1) st.host
    { replies, program := st.program, rest := some pieces.flatten, host }

end TextRelay.Scenario
