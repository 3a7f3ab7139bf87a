import Std.Async.DNS
import Std.Async.TCP
import Std.Sync.Channel
import Std.Time
import TextRelay.Link
import TextRelay.Program

/-!
# The command line

Runs one of the two programs over the network. The program that dials is called under the name
`relay-connect`; under any other name it is the one that listens. Everything that is decided is
decided by the server, the session and the command line: this module makes the calls that a link
waits for, hands their answers back, and writes what is logged and shown. A read of the standard
input cannot be called off, so the process leaves only when that read has returned.
-/

namespace TextRelay.Main

open Std.Async

abbrev Stream := TCP.Socket.Client

/-- Where the answers of calls arrive. -/
abbrev Mailbox := Std.Channel.Sync (Link.Call × Link.Answer)

def faultOf (e : IO.Error) : Fault :=
  match e with
  | .alreadyExists _ n _ | .noFileOrDirectory _ n _ | .permissionDenied _ n _
  | .resourceExhausted _ n _ | .invalidArgument _ n _ | .interrupted _ n _
  | .resourceBusy n _ | .resourceVanished n _ | .timeExpired n _ | .noSuchThing _ n _
  | .illegalOperation n _ | .unsatisfiedConstraints n _ | .protocolError n _ =>
    Fault.ofErrno (if n.toNat < 0x80000000 then n.toNat else 0x100000000 - n.toNat)
  | _ => ⟨.other, toString e⟩

/-- Runs an action, and returns its fault if it fails. -/
def attempt (action : IO α) : IO (Except Fault α) := do
  try return .ok (← action)
  catch e => return .error (faultOf e)

/-! ## Writing -/

def write (entry : Program.Entry) : IO Unit := do
  let wall := Std.Time.WallTime.ofTimestamp (← Std.Time.Timestamp.now) .zero
  let time := (Std.Time.PlainDateTime.ofWallTime wall).format "uuuu-MM-dd'T'HH:mm:ss.SSSSSS'Z'"
  let level := entry.event.level.describe.toUpper
  IO.eprintln s!"{time} {level} {entry.target}: {entry.event.line}"

def log (p : Program) (target : String) (events : List Log.Event) : IO Unit :=
  for event in events do
    for entry in p.entries target event do write entry

def display (p : Program) (text : String) : IO Unit := do
  let clock ← if p.settings.timestamps then
      some <$> (fun t => t.format "HH:mm:ss") <$> Std.Time.PlainTime.now
    else pure none
  let stdout ← IO.getStdout
  stdout.putStr (Console.print clock p.settings.label [text])
  stdout.flush

/-- The name that the log entries of a step stand under. -/
def target : Session.Action → String
  | .receive | .handle | .reportInbound => "duplex_relay::inbound"
  | .takeInput | .cancelInput | .checkSignal | .send | .judgeFault | .reportOutbound =>
    "duplex_relay::outbound"
  | .readInput | .dropInput => "duplex_relay::input"
  | .takeFirst | .trip | .release | .join => Program.sessionTarget

/-! ## Calls -/

def resolve (endpoint : Endpoint) : IO Std.Net.SocketAddress := do
  let found : Array Std.Net.IPAddr ←
    (DNS.getAddrInfo endpoint.host (toString endpoint.port) none).block
  match found.toList.head? with
  | some (.v4 addr) => return .v4 ⟨addr, endpoint.port⟩
  | some (.v6 addr) => return .v6 ⟨addr, endpoint.port⟩
  | none => throw (IO.userError "failed to lookup address information")

def peerOf (stream : Stream) : IO String := do
  match ← attempt stream.getPeerName with
  | .ok name => return toString name
  | .error _ => return "<unknown>"

/-- Starts an action; its answer arrives in the mailbox when it is there. -/
def post (mailbox : Mailbox) (call : Link.Call) (action : Async α)
    (answer : Except Fault α → Link.Answer) : IO Unit := do
  match ← attempt action.toIO with
  | .error fault => mailbox.send (call, answer (.error fault))
  | .ok task =>
    let _ ← IO.mapTask (fun (result : Except IO.Error α) =>
      mailbox.send (call, answer (result.mapError faultOf))) task
    return ()

/-- Reads the standard input up to the end of a line. A read of several bytes at once would block
until all of them are there. -/
def readLine : IO Arrival := do
  let stdin ← IO.getStdin
  let mut line := ByteArray.empty
  repeat do
    let byte ← stdin.read 1
    line := line ++ byte
    if byte.isEmpty || byte.toList = [LineReader.lineFeed] then break
  return .bytes line.toList

def perform (stream : Stream) (mailbox : Mailbox) (call : Link.Call) : IO Unit :=
  match call with
  | .receive size => post mailbox call (stream.recv? size.toUInt64) fun result =>
      .received (result.map fun data? => data?.elim [] ByteArray.toList)
  | .send data => post mailbox call (stream.send ⟨data.toArray⟩) fun result =>
      .sent (result.map fun _ => data.length)
  | .read => do
    let _ ← IO.asTask (do
      match ← attempt readLine with
      | .ok arrival => mailbox.send (call, .read arrival)
      | .error fault => mailbox.send (call, .read (.fault fault))) .dedicated
    return ()

/-! ## The programs -/

/-- Runs a session on a stream to its end: it does whatever it can do, and waits for the answer of a
call where it can do nothing. -/
def converse (p : Program) (stream : Stream) (session : Session) (link : Link) :
    IO (Session × Link) := do
  let mailbox : Mailbox ← Std.Channel.Sync.new
  let mut s := session
  let mut w := link
  repeat do
    match s.next? w with
    | some (action, s', w') =>
      log p (target action) (s'.log.drop s.log.length)
      for text in s'.inbound.sink.units.drop s.inbound.sink.units.length do display p text
      if w'.isShut && !w.isShut then
        let _ ← attempt stream.shutdown.toIO
      (s, w) := (s', w')
    | none =>
      if s.report?.isSome then break
      let (calls, issued) := w.issue s
      for call in calls do perform stream mailbox call
      let (call, answer) ← mailbox.recv
      (s, w) := issued.resolve s call answer
  return (s, w)

def relay (p : Program) (stream : Stream) (session : Session) (link : Link) :
    IO (Program × Link) := do
  let (session, link) ← converse p stream (session.callWait.getD session) link
  match session.report? with
  | some report => return (p.conclude report, link)
  | none => return (p, link)

def listen (p : Program) : IO Program := do
  let address := p.settings.endpoint.address
  let opened ← attempt do
    let socket : TCP.Socket.Server ← TCP.Socket.Server.mk
    socket.bind (← resolve p.settings.endpoint)
    socket.listen 1
    return (socket, toString (← socket.getSockName))
  let server : Server LinkListener := { listener := { address }, settings := p.settings }
  let (bound, server, link) := server.bind { bound := opened.map Prod.snd : Link }
  log p "duplex_relay::server" server.log
  let failed (e : RelayError) : Program := p.fail s!"relay on {p.place} failed: {e.fullMessage}"
  match opened, bound with
  | _, .error e => return failed e
  | .error fault, .ok () => return failed (.bind address fault)
  | .ok (socket, _), .ok () =>
    let accepted ← attempt do
      let stream ← socket.accept.block
      return (stream, ← peerOf stream)
    let link := { link with
      accepted := some (accepted.map fun _ => ()), peer := accepted.toOption.elim "" Prod.snd }
    match accepted, server.accept Program.input p.sink link with
    | .ok (stream, _), some (.ok session, connected, link) =>
      log p Program.sessionTarget session.log
      log p "duplex_relay::server" (connected.log.drop server.log.length)
      let (p, link) ← relay p stream session link
      let (finished, _) := connected.finish link
      log p "duplex_relay::server" (finished.log.drop connected.log.length)
      return p
    | _, some (.error e, _, _) => return failed e
    | _, _ => return p

def dial (p : Program) : IO Program := do
  let dialed ← attempt do
    let stream : Stream ← TCP.Socket.Client.mk
    (stream.connect (← resolve p.settings.endpoint)).block
    return stream
  match dialed with
  | .error fault =>
    let e : RelayError := .connect p.settings.endpoint.address fault
    return p.fail s!"could not reach relay: {e.fullMessage}"
  | .ok stream =>
    match Session.start p.settings Program.input p.sink 0 ({ peer := ← peerOf stream } : Link) with
    | (.error e, _) => return p.fail s!"relay session failed: {e.fullMessage}"
    | (.ok session, link) =>
      log p Program.sessionTarget session.log
      return (← relay p stream session link).1

/-- The variables that the programs look at, as far as they are set. -/
def environment : IO Environment := do
  let names :=
    ["RELAY_HOST", "RELAY_PORT", "RELAY_CHUNK_SIZE", "RELAY_SENTINEL", "RELAY_PEER_LABEL",
     "RUST_LOG"]
  let values ← names.mapM fun name => return (name, ← IO.getEnv name)
  return values.filterMap fun (name, value) => value.map fun text => (name, Utf8.encode text)

def run (p : Program) : IO Program :=
  match p.settings.validate, p.socket, p.role with
  | .error e, _, _ => return p.fail e.fullMessage
  | .ok (), some _, _ => return p.fail "unix sockets are not supported on this platform"
  | .ok (), none, .listen => listen p
  | .ok (), none, .dial => dial p

def conclude (ending : Program.Ending) : IO UInt32 := do
  IO.print ending.output
  for text in ending.usage do IO.eprintln text
  for entry in ending.entries do write entry
  return ending.code.toUInt32

end TextRelay.Main

def main (arguments : List String) : IO UInt32 := do
  let role : TextRelay.Role :=
    if (← IO.appPath).fileStem == some "relay-connect" then .dial else .listen
  match TextRelay.Program.prepare role arguments (← TextRelay.Main.environment) with
  | .error ending => TextRelay.Main.conclude ending
  | .ok p =>
    match (← TextRelay.Main.run p).ending? with
    | some ending => TextRelay.Main.conclude ending
    | none => return TextRelay.Program.breakdownCode.toUInt32
