import TextRelay.Endpoint
import TextRelay.RelayError
import TextRelay.Text.Chunk
import TextRelay.Text.Decimal

/-!
# Settings

What a session needs to know: where to listen or dial, how many bytes to ask for at a time, which
line ends it, and under which label received text is shown. Each setting has a default, which the
environment may override; a number that cannot be read counts as not set.
-/

namespace TextRelay

structure Settings where
  endpoint : Endpoint := {}
  chunkSize : UInt64 := 1024
  /-- The line that ends the session from the local side. -/
  sentinel : String := "break"
  label : String := "client"
  timestamps : Bool := false
  deriving DecidableEq, Repr, Inhabited

/-- The variables of a process, by name. Values are bytes: nothing makes them text. -/
abbrev Environment := List (String × Bytes)

/-- The value of a variable that is set to a text. -/
def Environment.lookup? (env : Environment) (name : String) : Option String :=
  match env.find? (·.1 == name) with
  | some (_, value) => (Chunk.decode value).toOption
  | none => none

namespace Settings

def port? (text : String) : Option UInt16 :=
  (Decimal.readNat 65535 text).toOption.map UInt16.ofNat

def chunkSize? (text : String) : Option UInt64 :=
  (Decimal.readNat (0xFFFFFFFFFFFFFFFF) text).toOption.map UInt64.ofNat

/-- The defaults, overlaid with the variables that are set. -/
def ofLookup (lookup : String → Option String) : Settings where
  endpoint := {
    host := (lookup "RELAY_HOST").getD ({} : Endpoint).host
    port := ((lookup "RELAY_PORT").bind port?).getD ({} : Endpoint).port }
  chunkSize := ((lookup "RELAY_CHUNK_SIZE").bind chunkSize?).getD ({} : Settings).chunkSize
  sentinel := (lookup "RELAY_SENTINEL").getD ({} : Settings).sentinel
  label := (lookup "RELAY_PEER_LABEL").getD ({} : Settings).label

def ofEnvironment (env : Environment) : Settings :=
  ofLookup env.lookup?

/-- Refuses settings that no session can run with; the first trouble in this order is named. -/
def validate (s : Settings) : Except RelayError Unit :=
  if s.chunkSize = 0 then .error (.settings "chunk size must be at least 1 byte")
  else if s.sentinel.isEmpty then .error (.settings "sentinel must not be empty")
  else if s.endpoint.host.isEmpty then .error (.settings "host must not be empty")
  else .ok ()

end Settings

end TextRelay
