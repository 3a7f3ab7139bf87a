import TextRelay.Client
import TextRelay.CommandLine.Role
import TextRelay.Host.AnyListener
import TextRelay.Log.Filter
import TextRelay.Server

/-!
# Programs

A run of one of the two programs, from its arguments to its exit code. The program reads its
arguments, checks its settings, finds its peer, runs one session, and tells how it ended. A run is a
state that goes on when the host has changed: the listening program waits for a peer, and the
session of either waits for its peer and its user.
-/

namespace TextRelay

structure Program.Entry where
  target : String
  event : Log.Event
  deriving DecidableEq, Repr

structure Program.Ending where
  code : UInt8
  /-- What was printed in place of a run. -/
  output : String := ""
  usage : Option String := none
  entries : List Program.Entry := []
  deriving DecidableEq, Repr

inductive Program.Phase where
  | accepting (server : Server AnyListener)
  /-- Running a session; the listening program has a server that is not done before. -/
  | running (session : Session) (server : Option (Server AnyListener))
  | exited (ending : Program.Ending)

structure Program where
  role : Role
  settings : Settings := {}
  /-- The local socket to use in place of the network. -/
  socket : Option String := none
  filter : Log.Filter := ⟨[]⟩
  shown : List String := []
  phase : Program.Phase

namespace Program

def target : Role → String
  | .listen => "relay_daemon"
  | .dial => "relay_connect"

def sessionTarget : String := "duplex_relay::session"

def entries (p : Program) (target : String) (event : Log.Event) : List Entry :=
  if p.filter.passes target event then [⟨target, event⟩] else []

def fail (p : Program) (message : String) : Program :=
  { p with phase := .exited {
      code := 1, entries := p.entries (target p.role) ⟨.error, message, []⟩ } }

def conclude (p : Program) (report : Report) : Program :=
  { p with phase := .exited {
      code := report.exitCode, entries := p.entries sessionTarget report.outcome } }

/-- The input of a program: lines from its standard input, which is open. -/
def input : Source := .reader { isOpen := true }

def sink (p : Program) : Sink := { label := p.settings.label }

def place (p : Program) : String := p.socket.getD p.settings.endpoint.address

def listen (p : Program) (w : Host) : Program × Host :=
  let listener : AnyListener := match p.socket with
    | some path => .path { path }
    | none => .port { address := p.settings.endpoint.address }
  let server : Server AnyListener := { listener, settings := p.settings }
  match server.bind w with
  | (.ok (), server, w) => ({ p with phase := .accepting server }, w)
  | (.error e, server, w) =>
    (p.fail s!"relay on {p.place} failed: {e.fullMessage}", (server.drop w).2)

def dial (p : Program) (w : Host) : Program × Host :=
  let dialed := match p.socket with
    | some path => Client.dialLocal path w
    | none => Client.dialPort p.settings.endpoint w
  match dialed with
  | (.error e, w) => (p.fail s!"could not reach relay: {e.fullMessage}", w)
  | (.ok client, w) => match client.start p.settings input p.sink w with
    | (.error e, w) => (p.fail s!"relay session failed: {e.fullMessage}", w)
    | (.ok session, w) =>
      ({ p with phase := .running (session.callWait.getD session) none }, w)

def breakdownCode : UInt8 := 101

/-- Reads the arguments of a run. If they do not call for one, or the log filter cannot be cut into
its parts, this is how it ends. -/
def prepare (role : Role) (arguments : List String) (env : Environment) : Except Ending Program :=
  match Choices.parse role.grammar arguments with
  | .error e =>
    let text := e.printed role.grammar
    .error (if e.isAnswer then { code := e.exitCode, output := text }
      else { code := e.exitCode, usage := some text })
  | .ok choices => match Log.Filter.choose (env.lookup? "RUST_LOG") (Role.logLevel choices) with
    | .error _ => .error { code := breakdownCode }
    | .ok filter => .ok {
        role
        settings := role.settings choices (.ofEnvironment env)
        socket := choices.socket
        filter
        phase := .exited { code := 0 } }

def start (role : Role) (arguments : List String) (env : Environment) (w : Host) : Program × Host :=
  match prepare role arguments env with
  | .error ending => ({ role, phase := .exited ending }, w)
  | .ok p => match p.settings.validate with
    | .error e => (p.fail e.fullMessage, w)
    | .ok () => match role with
      | .listen => p.listen w
      | .dial => p.dial w

def relay (p : Program) (session : Session) (server : Option (Server AnyListener)) (w : Host) :
    Program × Host :=
  match Session.run [session] w with
  | (session :: _, w) =>
    let p := { p with phase := .running session server, shown := session.inbound.sink.units }
    match session.report? with
    | none => (p, w)
    | some report =>
      let w := match server with
        | some server =>
          let (server, w) := server.finish w
          (server.drop w).2
        | none => w
      (p.conclude report, w)
  | ([], w) => (p, w)

/-- Lets a run go on until it waits for its peer or its user, or is over. -/
def resume (p : Program) (w : Host) : Program × Host :=
  match p.phase with
  | .exited _ => (p, w)
  | .running session server => p.relay session server w
  | .accepting server =>
    match server.accept input p.sink w with
    | none => (p, w)
    | some (.error e, server, w) =>
      (p.fail s!"relay on {p.place} failed: {e.fullMessage}", (server.drop w).2)
    | some (.ok session, server, w) => p.relay (session.callWait.getD session) (some server) w

def onInput (p : Program) (f : Source → Source) : Program :=
  match p.phase with
  | .running session server =>
    let pump := { session.pump with source := f session.pump.source }
    { p with phase := .running { session with pump } server }
  | _ => p

def ending? (p : Program) : Option Ending :=
  match p.phase with
  | .exited ending => some ending
  | _ => none

/-- What a run has printed so far, with the time from a clock if received text is to be stamped. -/
def output (p : Program) (clock : String) : String :=
  let stamp := if p.settings.timestamps then some clock else none
  let answer := match p.ending? with
    | some ending => ending.output
    | none => ""
  answer ++ Console.print stamp p.settings.label p.shown

end Program

end TextRelay
