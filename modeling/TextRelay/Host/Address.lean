import TextRelay.Fault
import TextRelay.Text.Decimal

/-!
# Network addresses

An address is a host and a port with a colon between them. The host is a number or a name. A number
of 32 bits is written in one to four parts: each but the last stands for one byte, and the last one
for all that is left; a part may be decimal, octal (with a leading `0`) or hexadecimal (with a
leading `0x`). A number of 128 bits is written in groups of hexadecimal digits, with or without
brackets around them. Of the names, only the one of this machine is known.
-/

namespace TextRelay

inductive HostNumber where
  | short (n : Nat)
  /-- A number of 128 bits, in groups of 16. -/
  | long (groups : List Nat)
  deriving DecidableEq, Repr

structure Address where
  host : HostNumber
  port : Nat
  deriving DecidableEq, Repr

namespace Address

/-- Cuts a text at its last colon. -/
def splitLast (text : String) : Option (String × String) :=
  match text.toList.reverse.span (· ≠ ':') with
  | (_, []) => none
  | (tail, _ :: head) => some (String.ofList head.reverse, String.ofList tail.reverse)

/-! ## Hosts of 32 bits -/

def digit? (base : Nat) (c : Char) : Option Nat :=
  let value :=
    if c.isDigit then c.toNat - '0'.toNat
    else if 'a' ≤ c ∧ c ≤ 'f' then c.toNat - 'a'.toNat + 10
    else if 'A' ≤ c ∧ c ≤ 'F' then c.toNat - 'A'.toNat + 10
    else 16
  if value < base then some value else none

def readDigits (base : Nat) : Nat → List Char → Option Nat
  | value, [] => some value
  | value, c :: cs => (digit? base c).bind fun d => readDigits base (value * base + d) cs

def readPart (part : String) : Option Nat :=
  match part.toList with
  | [] => none
  | '0' :: 'x' :: c :: cs | '0' :: 'X' :: c :: cs => readDigits 16 0 (c :: cs)
  | '0' :: cs => readDigits 8 0 cs
  | cs => readDigits 10 0 cs

def span : Nat → Nat
  | 0 => 1
  | room + 1 => 256 * span room

/-- Puts parts together: `room` is the number of bytes that they have to fill. -/
def joinParts : Nat → List Nat → Option Nat
  | _, [] => none
  | room, [part] => if part < span room then some part else none
  | room + 1, part :: rest =>
    if part < 256 then (joinParts room rest).map (part * span room + ·) else none
  | 0, _ => none

def readShort (host : String) : Option Nat :=
  ((host.splitOn ".").mapM readPart).bind fun parts =>
    if parts.length ≤ 4 then joinParts 4 parts else none

/-! ## Hosts of 128 bits -/

def readGroup (group : String) : Option Nat :=
  if group.isEmpty || 4 < group.length then none else readDigits 16 0 group.toList

def isByte (part : String) : Bool :=
  match part.toList with
  | [] => false
  | c :: cs => (c ≠ '0' || cs.isEmpty) && (readDigits 10 0 (c :: cs)).any (· < 256)

/-- Reads the last group, in place of which there may be four bytes in decimal. -/
def readLastGroup (group : String) : Option (List Nat) :=
  let parts := group.splitOn "."
  if parts.length = 4 && parts.all isByte then
    (readShort group).map fun n => [n / 0x10000, n % 0x10000]
  else (readGroup group).map ([·])

def readGroups (text : String) : Option (List Nat) :=
  if text.isEmpty then some []
  else
    let groups := text.splitOn ":"
    (groups.dropLast.mapM readGroup).bind fun front =>
      (readLastGroup (groups.getLastD "")).map (front ++ ·)

/-- Reads a host that is a number of 128 bits. Once, two colons may stand for groups of zeros; in
front of them there are no decimal bytes. -/
def readLong (host : String) : Option (List Nat) :=
  match host.splitOn "::" with
  | [whole] => (readGroups whole).bind fun gs => if gs.length = 8 then some gs else none
  | [front, back] =>
    if front.contains '.' then none
    else (readGroups front).bind fun front => (readGroups back).bind fun back =>
      if front.length + back.length ≤ 7 then
        some (front ++ List.replicate (8 - front.length - back.length) 0 ++ back)
      else none
  | _ => none

def unbracket? (host : String) : Option String :=
  match host.toList, host.toList.getLast? with
  | '[' :: inner, some ']' => some (String.ofList inner.dropLast)
  | _, _ => none

/-! ## Names -/

def isLabel (label : String) : Bool :=
  !label.isEmpty && label.length ≤ 63
    && label.toList.all fun c => c.isAlphanum || c == '-' || c == '_'

/-- Whether a text can be a name. Its parts have dots between them, and there may be one at the end;
the last dot may also stand alone. -/
def isName (text : String) : Bool :=
  let labels := match text.splitOn "." with
    | ["", ""] => []
    | labels => if labels.getLast? = some "" && 1 < labels.length then labels.dropLast else labels
  labels.all isLabel && !text.startsWith "-" && (".".intercalate labels).length ≤ 253

def ownHost : HostNumber := .short 0x7F000001

/-- Finds the host that a name stands for. There is nobody to ask about names of other machines. -/
def resolve (host : String) : Except Fault HostNumber :=
  if host.contains '\x00' then
    .error ⟨.invalidInput, "file name contained an unexpected NUL byte"⟩
  else match readShort host, readLong host with
    | some n, _ => .ok (.short n)
    | none, some groups => .ok (.long groups)
    | none, none =>
      if host.toLower == "localhost" then .ok ownHost
      else
        let why := if isName host then "Temporary failure in name resolution"
          else "Name or service not known"
        .error ⟨.uncategorized, s!"failed to lookup address information: {why}"⟩

/-! ## Whole addresses -/

/-- Reads an address. The port is looked at before the host is resolved. Brackets are taken off only
if the port has no sign. -/
def parse (text : String) : Except Fault Address :=
  match splitLast text with
  | none => .error ⟨.invalidInput, "invalid socket address"⟩
  | some (host, port) =>
    match Decimal.readNat 65535 port with
    | .error _ => .error ⟨.invalidInput, "invalid port value"⟩
    | .ok number =>
      match (unbracket? host).bind readLong, port.startsWith "+" with
      | some groups, false => .ok ⟨.long groups, number⟩
      | _, _ => (resolve host).map fun host => ⟨host, number⟩

end Address

namespace HostNumber

def shortText (n : Nat) : String :=
  s!"{n / 0x1000000}.{n / 0x10000 % 256}.{n / 0x100 % 256}.{n % 256}"

/-- The number of 32 bits that a host has, be it in the last groups of 128 bits. -/
def short? : HostNumber → Option Nat
  | short n => some n
  | long [0, 0, 0, 0, 0, 0xFFFF, high, low] => some (high * 0x10000 + low)
  | long _ => none

def text : HostNumber → String
  | short n => shortText n
  | long groups =>
    if groups.all (· = 0) then "[::]"
    else match (long groups).short? with
      | some n => s!"[::ffff:{shortText n}]"
      | none =>
        let written := groups.map fun g => String.ofList (Nat.toDigits 16 g)
        "[" ++ String.intercalate ":" written ++ "]"

def isAny (h : HostNumber) : Bool :=
  h.short? = some 0 || h = .long (List.replicate 8 0)

def isMulticast : HostNumber → Bool
  | long (g :: _) => 0xFF00 ≤ g
  | _ => false

def isLinkLocal : HostNumber → Bool
  | long (g :: _) => 0xFE80 ≤ g && g < 0xFEC0
  | _ => false

end HostNumber

namespace Address

def text (a : Address) : String := s!"{a.host.text}:{a.port}"

/-- The ports that only the system may use end here; 0 is none of them. -/
def firstUserPort : Nat := 1024

def isReserved (a : Address) : Bool := a.port ≠ 0 && a.port < firstUserPort

/-- Why an address cannot be bound, if so. The machine does not know its own numbers of 32 bits and
takes any for one of them; it knows that it has none of 128 bits. -/
def bindFault? (a : Address) : Option Fault :=
  if a.host.isMulticast then some (.ofErrno 22)
  else if a.isReserved then some (.ofErrno 13)
  else if a.host.isLinkLocal then some (.ofErrno 22)
  else if a.host.short?.isSome || a.host.isAny then none
  else some (.ofErrno 99)

def unreachable (a : Address) : Fault :=
  if a.host.short?.isSome || a.host.isMulticast then .ofErrno 101
  else if a.host.isLinkLocal then .ofErrno 22
  else .ofErrno 99

def clashes (a b : Address) : Bool :=
  a.port = b.port && (a.host = b.host || a.host.isAny || b.host.isAny
    || a.host.short?.any fun n => b.host.short? = some n)

end Address

end TextRelay
