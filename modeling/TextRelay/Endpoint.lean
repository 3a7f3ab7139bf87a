/-!
# Endpoints

Where a listener listens or a dialer dials: a host and a port.
-/

namespace TextRelay

structure Endpoint where
  host : String := "127.0.0.1"
  port : UInt16 := 25565
  deriving DecidableEq, Repr, Inhabited

namespace Endpoint

/-- Whether a host has to be put in brackets before a port can follow it: it holds a colon and does
not begin with a bracket. -/
def needsBrackets (host : List Char) : Bool :=
  host.contains ':' && host.head? != some '['

def hostPart (host : List Char) : List Char :=
  if needsBrackets host then '[' :: (host ++ [']']) else host

/-- The address of an endpoint: host, colon, port. -/
def address (e : Endpoint) : String :=
  String.ofList (hostPart e.host.toList ++ ':' :: (toString e.port.toNat).toList)

end Endpoint

end TextRelay
