import TextRelay.Fault

/-!
# Files

The files of a machine: regular files, directories, the names of local sockets, and links to other
paths. A path is followed from the root, component by component, and so are the links on the way;
what stands in the way is told by the number that the operating system gives it.

A link at the very end of a path is followed by those who open what the path leads to, and left
alone by those who ask about the path, take it for something new, or remove it.
-/

namespace TextRelay

/-- The components of a path, from the root. -/
abbrev Path := List String

inductive Node where
  | file (text : String)
  | directory
  /-- The name of a local socket, which may be closed by now. -/
  | socket (id : Nat)
  deriving DecidableEq, Repr

inductive Entry where
  | node (node : Node)
  | link (target : String)
  deriving DecidableEq, Repr

namespace Entry

@[match_pattern]
abbrev file (text : String) : Entry := node (.file text)

@[match_pattern]
abbrev directory : Entry := node .directory

@[match_pattern]
abbrev socket (id : Nat) : Entry := node (.socket id)

end Entry

/-- All files of a machine, by path. The root is always there. -/
structure Files where
  entries : List (Path × Entry) := []
  deriving DecidableEq, Repr

namespace Files

def entryAt (f : Files) : Path → Option Entry
  | [] => some .directory
  | place => f.entries.lookup place

def put (f : Files) (place : Path) (entry : Entry) : Files :=
  ⟨(place, entry) :: f.entries.filter (·.1 ≠ place)⟩

def erase (f : Files) (place : Path) : Files :=
  ⟨f.entries.filter (·.1 ≠ place)⟩

/-! ## Following paths -/

def components (path : String) : List String := (path.toList.splitOn '/').map String.ofList

def maxName : Nat := 255

def linkStart (place : Path) (target : String) : Path :=
  if target.toList.head? = some '/' then [] else place.dropLast

/-- Follows components from a place, and links by `follow`. Each but the last has to be a directory;
whether there is anything at the end is not looked at, unless a link there is to be followed too
(`toEnd`). A failure is told by its number. -/
def walkBy (f : Files) (follow : Path → List String → Except Nat Path) (toEnd : Bool)
    (place : Path) : List String → Except Nat Path
  | [] =>
    match toEnd, f.entryAt place with
    | true, some (.link target) => follow (linkStart place target) (components target)
    | _, _ => .ok place
  | name :: rest =>
    match f.entryAt place with
    | none => .error 2
    | some .directory =>
      if name.isEmpty || name == "." then walkBy f follow toEnd place rest
      else if name == ".." then walkBy f follow toEnd place.dropLast rest
      else if maxName < name.utf8ByteSize then .error 36
      else walkBy f follow toEnd (place ++ [name]) rest
    | some (.link target) => follow (linkStart place target) (components target ++ name :: rest)
    | some _ => .error 20

def walk (f : Files) (toEnd : Bool) : Nat → Path → List String → Except Nat Path
  | 0 => f.walkBy (fun _ _ => .error 40) toEnd
  | links + 1 => f.walkBy (walk f toEnd links) toEnd

def maxLinks : Nat := 40

def maxPath : Nat := 4096

def checkLength (path : String) : Except Nat Unit :=
  if path.isEmpty then .error 2 else if maxPath ≤ path.utf8ByteSize then .error 36 else .ok ()

/-- The place that a path leads to. -/
def locate (f : Files) (toEnd : Bool) (path : String) : Except Nat Path :=
  (checkLength path).bind fun () => f.walk toEnd maxLinks [] (components path)

def hasNul (path : String) : Bool := path.toList.contains '\x00'

def nulInName : Fault := ⟨.invalidInput, "file name contained an unexpected NUL byte"⟩

def find (f : Files) (toEnd : Bool) (path : String) : Except Fault Entry :=
  if hasNul path then .error nulInName
  else match f.locate toEnd path with
    | .error n => .error (.ofErrno n)
    | .ok place => match f.entryAt place with
      | some entry => .ok entry
      | none => .error (.ofErrno 2)

/-- Looks up what a path stands for; a link is not followed. -/
def lookup (f : Files) (path : String) : Except Fault Entry := f.find false path

/-- Looks up what a path leads to in the end. -/
def follow (f : Files) (path : String) : Except Fault Node :=
  match f.find true path with
  | .ok (.node node) => .ok node
  | .ok (.link _) => .error (.ofErrno 40)
  | .error fault => .error fault

/-! ## New nodes -/

/-- Where a path wants something to be: under a name in a directory, or at a place that is a
directory by the way it is spelled (`.`, `..` or the root). -/
inductive Spot where
  | named (parent : Path) (name : String) (hasSlash : Bool)
  | directory
  deriving DecidableEq, Repr

def directoryAt (f : Files) (place : Path) : Except Nat Path :=
  match f.entryAt place with
  | some .directory => .ok place
  | some _ => .error 20
  | none => .error 2

/-- Finds the spot that a path stands for. Slashes at its end do not count as components. -/
def spot (f : Files) (path : String) : Except Nat Spot :=
  (checkLength path).bind fun () =>
    let parts := (components path).reverse
    match parts.dropWhile String.isEmpty with
    | [] => .ok .directory
    | name :: before =>
      (f.walk true maxLinks [] before.reverse).bind fun parent =>
        (f.directoryAt parent).map fun parent =>
          if name == "." || name == ".." then .directory
          else .named parent name (parts.head? = some "")

/-- The place for a new node, of which only the parent has to exist. If there is a node already, it
is told by a number. A slash at the end is fine only if the node is to be a directory. -/
def vacant (f : Files) (path : String) (taken : Nat) (isDirectory : Bool) : Except Fault Path :=
  match f.spot path with
  | .error n => .error (.ofErrno n)
  | .ok .directory => .error (.ofErrno taken)
  | .ok (.named parent name hasSlash) =>
    let place := parent ++ [name]
    if maxName < name.utf8ByteSize then .error (.ofErrno 36)
    else if (f.entryAt place).isSome then .error (.ofErrno taken)
    else if hasSlash && !isDirectory then .error (.ofErrno 2)
    else .ok place

def remove (f : Files) (path : String) : Except Fault Files :=
  match f.lookup path, f.locate false path with
  | .ok .directory, _ => .error (.ofErrno 21)
  | .ok _, .ok place => .ok (f.erase place)
  | .error fault, _ => .error fault
  | .ok _, .error n => .error (.ofErrno n)

def makeDirectory (f : Files) (path : String) : Except Fault Files :=
  if hasNul path then .error nulInName
  else (f.vacant path 17 true).map fun place => f.put place .directory

/-- Writes a regular file, new or old. A path with a slash at its end can only be a directory. -/
def write (f : Files) (path text : String) : Except Fault Files :=
  if hasNul path then .error nulInName
  else match f.spot path with
    | .error n => .error (.ofErrno n)
    | .ok .directory | .ok (.named _ _ true) => .error (.ofErrno 21)
    | .ok (.named _ _ false) => match f.locate true path with
      | .error n => .error (.ofErrno n)
      | .ok place => match f.entryAt place with
        | some .directory => .error (.ofErrno 21)
        | some (.socket _) => .error (.ofErrno 6)
        | some (.link _) => .error (.ofErrno 40)
        | some (.file _) | none => .ok (f.put place (.file text))

def read (f : Files) (path : String) : Except Fault String :=
  match f.follow path with
  | .ok (.file text) => .ok text
  | .ok .directory => .error (.ofErrno 21)
  | .ok (.socket _) => .error (.ofErrno 6)
  | .error fault => .error fault

end Files

end TextRelay
