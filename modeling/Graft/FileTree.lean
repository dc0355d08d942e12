import Graft.FileSystem

/-!
# File tree

A file system as a value: the entries by their locations.  A path is followed name by name, and a
link is replaced by its target on the way (`FileTree.walk`).  A write puts a new file in place of
the entry that the path names; it never goes through a link at the end of the path
(`FileTree.write`).  It takes several steps, and the system may refuse each of them, for reasons that
a tree need not show: permissions, a medium that is full, worn or read-only (`FileTree.refusal?`).
-/

namespace Graft

/-- What a location holds. -/
inductive Entry where
  | file (bytes : ByteArray) (mode : Nat)
  | directory (mode : Nat)
  | link (target : Path)

/-- The steps of a write.  A new file is made beside the entry that it is for, filled, given the
permissions of the old version and brought to the medium, and then it takes the place of the entry. -/
inductive WriteStep where
  | create
  | fill
  | permit
  | sync
  | replace
  deriving DecidableEq, Repr

/-- Why the system refuses a step of a write, if it does.  It knows all entries, and the directory and
the bytes that the write is about. -/
abbrev Refusals := WriteStep → List (Location × Entry) → Location → ByteArray → Option OsError

/-- The entries of a file system, the directory that relative paths start from, and what the system
refuses. -/
structure FileTree where
  entries  : List (Location × Entry) := []
  current  : Location := []
  refusals : Refusals := fun _ _ _ _ => none

namespace FileTree

/-- What stands at a location; the root is always a directory. -/
def get? (t : FileTree) (l : Location) : Option Entry :=
  if l = [] then some (.directory 0o755) else t.entries.lookup l

/-- The tree with an entry put at a location. -/
def put (t : FileTree) (l : Location) (e : Entry) : FileTree :=
  { t with entries := (l, e) :: t.entries.filter (·.1 != l) }

def isDirectoryAt (t : FileTree) (l : Location) : Bool :=
  match t.get? l with
  | some (.directory _) => true
  | _                   => false

/-- How many links a path may lead through. -/
def linkLimit : Nat := 40

/-- The longest name of an entry, in bytes. -/
def nameLimit : Nat := 255

/-- Follows segments from `here`.  What is followed by anything has to be a directory. -/
def walk (t : FileTree) (links : Nat) (here : Location) (segments : List Text) :
    Except OsError Location :=
  match segments with
  | [] => .ok here
  | s :: rest =>
      if !t.isDirectoryAt here then .error .notDirectory
      else if s = [] || s = ['.'] then walk t links here rest
      else if s = ['.', '.'] then walk t links here.dropLast rest
      else if nameLimit < Text.size s then .error .nameTooLong
      else
        match t.get? (here ++ [s]) with
        | none => .error .noEntry
        | some (.link target) =>
            match links with
            | 0         => .error .linkLoop
            | links + 1 =>
                walk t links (if target.isAbsolute then [] else here) (target.segments ++ rest)
        | some _ => walk t links (here ++ [s]) rest
termination_by (links, segments.length)

/-- The location that a path leads to. -/
def canonicalize (t : FileTree) (p : Path) : Except OsError Location :=
  if p.spelling = [] then .error .noEntry
  else if p.spelling.any (· == '\x00') then
    .error (.other "file name contained an unexpected NUL byte")
  else t.walk linkLimit (if p.isAbsolute then [] else t.current) p.segments

/-- The entry that a path leads to. -/
def find (t : FileTree) (p : Path) : Except OsError Entry := do
  let l ← t.canonicalize p
  match t.get? l with
  | some e => return e
  | none   => throw .noEntry

def isDirectory (t : FileTree) (p : Path) : Bool :=
  match t.find p with
  | .ok (.directory _) => true
  | _                  => false

def readBytes (t : FileTree) (p : Path) : Except OsError ByteArray := do
  match ← t.find p with
  | .file bytes _ => return bytes
  | _             => throw .isDirectory

/-- The text of a file whose bytes are text. -/
def decode? (bytes : ByteArray) : Option Text := (String.fromUTF8? bytes).map String.toList

def encode (t : Text) : ByteArray := (String.ofList t).toUTF8

def readString (t : FileTree) (p : Path) : Except OsError Text := do
  match decode? (← t.readBytes p) with
  | some text => return text
  | none      => throw .notText

def readText (t : FileTree) (p : Path) : Except StoreError Text :=
  match t.readBytes p with
  | .error .noEntry => .error (.notFound p)
  | .error why      => .error (.read p why)
  | .ok bytes       =>
      match decode? bytes with
      | some text => .ok text
      | none      => .error (.notText p)

/-- The permissions that a new version of the file at a path gets: those of the old version, or
none for others. -/
def newMode (t : FileTree) (p : Path) : Nat :=
  match t.find p with
  | .ok (.file _ mode) | .ok (.directory mode) => mode
  | _                                          => 0o600

/-- The directory that holds the last name of a path. -/
def holder (p : Path) : Path := if p.parent.spelling = [] then ⟨['.']⟩ else p.parent

/-- The steps of a write to a path, in their order.  A file that was not there has no permissions to be
carried over. -/
def writeSteps (t : FileTree) (p : Path) : List WriteStep :=
  match t.find p with
  | .ok _    => [.create, .fill, .permit, .sync, .replace]
  | .error _ => [.create, .fill, .sync, .replace]

/-- Why the first step of a write that is refused is refused. -/
def refusal? (t : FileTree) (p : Path) (dir : Location) (bytes : ByteArray) : Option OsError :=
  (t.writeSteps p).findSome? fun step => t.refusals step t.entries dir bytes

/-- Puts a file in place of the entry that a path names.  The path has to end in a name, and the
entry must not be a directory.  What was made for a write that is refused is taken away again. -/
def write (t : FileTree) (p : Path) (bytes : ByteArray) : Except OsError FileTree := do
  let dir ← t.canonicalize (holder p)
  if !t.isDirectoryAt dir then throw .notDirectory
  if let some why := t.refusal? p dir bytes then throw why
  match p.segments.getLast?, p.fileName? with
  | some last, some name =>
      if last != name then throw .notDirectory
      if nameLimit < Text.size name then throw .nameTooLong
      if t.isDirectoryAt (dir ++ [name]) then throw .isDirectory
      return t.put (dir ++ [name]) (.file bytes (t.newMode p))
  | _, _ => throw .isDirectory

/-- The names of the files that a directory holds, links and directories left out. -/
def regularFiles (t : FileTree) (p : Path) : Except OsError (List Text) := do
  let dir ← t.canonicalize p
  if !t.isDirectoryAt dir then throw .notDirectory
  return t.entries.filterMap fun (l, e) =>
    match e, l.getLast? with
    | .file _ _, some name => if l.dropLast = dir then some name else none
    | _, _                 => none

/-- The tree with a directory at every step down to a location. -/
def makeDirectories (t : FileTree) (l : Location) : FileTree :=
  (List.range l.length).foldl (fun t n =>
    if t.isDirectoryAt (l.take (n + 1)) then t else t.put (l.take (n + 1)) (.directory 0o755)) t

instance : FileSystem (StateM FileTree) where
  readText p := fun t => (t.readText p, t)
  writeText p text := fun t =>
    match t.write p (encode text) with
    | .ok t'     => (.ok (), t')
    | .error why => (.error (.write p why), t)
  canonicalize p := fun t => (t.canonicalize p, t)
  isDirectory p := fun t => (t.isDirectory p, t)
  regularFiles p := fun t => (t.regularFiles p, t)
  readString p := fun t => (t.readString p, t)

end FileTree

end Graft
