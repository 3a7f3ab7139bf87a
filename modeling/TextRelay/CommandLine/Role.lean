import TextRelay.CommandLine.Parse
import TextRelay.Settings

/-!
# The two programs

One program listens for a peer, the other dials one. They share most of their options. Options win
over the environment, and the environment over the defaults; only the dialing program's label is
never taken from the environment.
-/

namespace TextRelay

/-- Which of the two programs runs. -/
inductive Role where
  | listen
  | dial
  deriving DecidableEq, Repr

namespace Role

def answerFlags : List Flag :=
  [{ topic := .help, long := "help", short := some 'h', help := "Print help" },
   { topic := .version, long := "version", short := some 'V', help := "Print version" }]

def sentinelFlag : Flag :=
  { topic := .sentinel, long := "sentinel", kind := .text, value := "SENTINEL"
    help := "Input line that ends the session (overrides RELAY_SENTINEL)" }

def timestampsFlag : Flag :=
  { topic := .timestamps, long := "timestamps", short := some 't'
    help := "Prefix received text with the local time" }

/-- The log filter that is used without an environment variable. -/
def defaultLogLevel : String := "info"

def logLevelFlag : Flag :=
  { topic := .logLevel, long := "log-level", kind := .text, value := "LOG_LEVEL"
    help := "Log filter used when RUST_LOG is not set", default? := some defaultLogLevel }

def dialLabel : String := "server"

def grammar : Role → Grammar
  | listen => {
      name := "relay-daemon"
      version := "0.1.0"
      about := "Accept one peer and relay console text in both directions"
      flags := [
        { topic := .host, long := "host", kind := .text, value := "HOST"
          help := "Interface to bind (overrides RELAY_HOST, default 127.0.0.1)" },
        { topic := .port, long := "port", short := some 'p', kind := .port, value := "PORT"
          help := "TCP port (overrides RELAY_PORT, default 25565)" },
        { topic := .socket, long := "unix", kind := .path, value := "PATH"
          help := "Listen on a Unix domain socket instead of TCP" },
        { topic := .chunkSize, long := "chunk-size", kind := .size, value := "BYTES"
          help := "Bytes per receive call (overrides RELAY_CHUNK_SIZE)" },
        sentinelFlag,
        { topic := .label, long := "label", kind := .text, value := "LABEL"
          help := "Prefix shown before received text (overrides RELAY_PEER_LABEL)" },
        timestampsFlag, logLevelFlag] ++ answerFlags }
  | dial => {
      name := "relay-connect"
      version := "0.1.0"
      about := "Connect to a relay daemon and relay console text both ways"
      flags := [
        { topic := .host, long := "host", short := some 'a', kind := .text, value := "HOST"
          help := "Relay host (overrides RELAY_HOST, default 127.0.0.1)" },
        { topic := .port, long := "port", short := some 'p', kind := .port, value := "PORT"
          help := "Relay port (overrides RELAY_PORT, default 25565)" },
        { topic := .socket, long := "unix", kind := .text, value := "PATH"
          help := "Connect to a Unix domain socket instead of TCP" },
        sentinelFlag,
        { topic := .label, long := "label", kind := .text, value := "LABEL"
          help := "Prefix shown before received text", default? := some dialLabel },
        timestampsFlag, logLevelFlag] ++ answerFlags }

/-- The settings of a program: what the arguments say, over what the environment gives. -/
def settings (role : Role) (c : Choices) (base : Settings) : Settings where
  endpoint := {
    host := c.host.getD base.endpoint.host
    port := c.port.getD base.endpoint.port }
  chunkSize := match role with
    | listen => c.chunkSize.getD base.chunkSize
    | dial => base.chunkSize
  sentinel := c.sentinel.getD base.sentinel
  label := match role with
    | listen => c.label.getD base.label
    | dial => c.label.getD dialLabel
  timestamps := base.timestamps || c.timestamps

def logLevel (c : Choices) : String := c.logLevel.getD defaultLogLevel

end Role

end TextRelay
