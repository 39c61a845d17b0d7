import CommandShell.Path

/-!
# File systems

A file system gives a node to some real paths: a file with its bytes, a directory, a
symbolic link, or the device that is always empty.  A real path is the list of names from the
root.  The root is a directory always, and the entries are listed in no order that matters.

`FileSystem.walk` follows a path through the file system one name at a time, the way a
kernel does: `.` and `..` are steps, a link is replaced by its target at the place it
stands, and at most forty links are followed.  It ends in a real path, so no later walk
along that path meets a link.  `FileSystem.walkNew` does the same for a file that may have to
be made first, so its last name may be missing.
-/

namespace CommandShell

/-- Why a file system, or a program that is started, refuses. -/
inductive FileError where
  | noEntry
  | permissionDenied
  | execFormat
  | alreadyThere
  | notDirectory
  | isDirectory
  | nameTooLong
  | tooManyLinks
  | inputOutput
  | noChild
  /-- A path with a zero byte. -/
  | zeroInPath
  /-- A zero character in what is handed to a program. -/
  | zeroInData
  /-- The bytes are no text. -/
  | notText
deriving Repr, DecidableEq

/-- The reason that a refusal gives. -/
def FileError.reason : FileError → Text
  | .noEntry => "No such file or directory".toList
  | .permissionDenied => "Permission denied".toList
  | .execFormat => "Exec format error".toList
  | .alreadyThere => "File exists".toList
  | .notDirectory => "Not a directory".toList
  | .isDirectory => "Is a directory".toList
  | .nameTooLong => "File name too long".toList
  | .tooManyLinks => "Too many levels of symbolic links".toList
  | .inputOutput => "Input/output error".toList
  | .noChild => "No child processes".toList
  | .zeroInPath => "file name contained an unexpected NUL byte".toList
  | .zeroInData => "nul byte found in provided data".toList
  | .notText => "stream did not contain valid UTF-8".toList

/-- The number of a refusal, where the system has one. -/
def FileError.number? : FileError → Option Nat
  | .noEntry => some 2
  | .permissionDenied => some 13
  | .execFormat => some 8
  | .alreadyThere => some 17
  | .notDirectory => some 20
  | .isDirectory => some 21
  | .nameTooLong => some 36
  | .tooManyLinks => some 40
  | .inputOutput => some 5
  | .noChild => some 10
  | .zeroInPath => none
  | .zeroInData => none
  | .notText => none

/-- The wording of a refusal, with its number where the system has one. -/
def FileError.message (e : FileError) : Text :=
  match e.number? with
  | some n => e.reason ++ " (os error ".toList ++ Text.ofNat n ++ ")".toList
  | none => e.reason

/-- What stands at a path. -/
inductive Node where
  /-- A file with its bytes, which may be a program to run. -/
  | file (bytes : List UInt8) (executable : Bool)
  | directory
  /-- A symbolic link to a path. -/
  | link (target : Path)
  /-- The device that is always empty and forgets what is written to it. -/
  | void
deriving Repr, DecidableEq

/-- The names from the root to a node. -/
abbrev RealPath := List Path

/-- A file system: the nodes at its real paths, the root excepted. -/
structure FileSystem where
  entries : List (RealPath × Node)
deriving Repr, DecidableEq

namespace FileSystem

/-- A file system with nothing in it. -/
def empty : FileSystem :=
  ⟨[]⟩

/-- The node at a real path. -/
def node? (fs : FileSystem) : RealPath → Option Node
  | [] => some .directory
  | name :: rest => fs.entries.lookup (name :: rest)

/-- The names in a directory. -/
def names (fs : FileSystem) (dir : RealPath) : List Path :=
  fs.entries.filterMap fun (p, _) =>
    match p.getLast? with
    | some name => if p.dropLast = dir then some name else none
    | none => none

/-- The file system with directories at every beginning of a path that has no node. -/
def withParents (fs : FileSystem) (p : RealPath) : FileSystem :=
  (List.range p.length).foldl (fun fs n =>
    match fs.node? (p.take n) with
    | none => ⟨fs.entries ++ [(p.take n, .directory)]⟩
    | some _ => fs) fs

/-- The file system with a node at a path, and the directories above it. -/
def add (fs : FileSystem) (p : RealPath) (node : Node) : FileSystem :=
  let above := fs.withParents p
  ⟨above.entries.filter (·.1 ≠ p) ++ [(p, node)]⟩

/-! ### Following paths -/

/-- The names along a path.  A separator at the end stands for a last `.`: what is before it
has to be a directory. -/
def steps (p : Path) : List Path :=
  let names := (Text.pieces Path.slash p).filter (· ≠ [])
  if p.getLast? = some Path.slash then names ++ [Path.here] else names

/-- A name has at most this many bytes. -/
def nameLimit : Nat := 255

/-- A path has fewer bytes than this. -/
def pathLimit : Nat := 4096

/-- At most this many links are followed. -/
def linkLimit : Nat := 40

/-- Follow names from a directory up to the first link, after which `follow` goes on.  Where nothing
stands at a name, `missing` decides. -/
def walkNames (fs : FileSystem) (missing follow : RealPath → List Path → Except FileError RealPath)
    (here : RealPath) : List Path → Except FileError RealPath
  | [] => .ok here
  | name :: rest =>
    if name = Path.here then walkNames fs missing follow here rest
    else if name = Path.above then walkNames fs missing follow here.dropLast rest
    else if nameLimit < name.length then .error .nameTooLong
    else match fs.node? (here ++ [name]) with
      | none => missing (here ++ [name]) rest
      | some .directory => walkNames fs missing follow (here ++ [name]) rest
      | some (.link target) =>
        follow (if Path.isAbsolute target then [] else here) (steps target ++ rest)
      | some _ => if rest = [] then .ok (here ++ [name]) else .error .notDirectory

/-- Follow names from a directory; at most `links` links may be met. -/
def walkWith (fs : FileSystem) (missing : RealPath → List Path → Except FileError RealPath) :
    (links : Nat) → RealPath → List Path → Except FileError RealPath
  | 0 => fs.walkNames missing fun _ _ => .error .tooManyLinks
  | links + 1 => fs.walkNames missing (fs.walkWith missing links)

/-- Follow names from a directory to something that is there. -/
def walk (fs : FileSystem) : Nat → RealPath → List Path → Except FileError RealPath :=
  fs.walkWith fun _ _ => .error .noEntry

/-- Follow names from a directory to a file that is there or can be made: the last name may
be missing.  What is made is a file, so nothing may stand after its name. -/
def walkNew (fs : FileSystem) : Nat → RealPath → List Path → Except FileError RealPath :=
  fs.walkWith fun place rest =>
    if rest = [] then .ok place
    else if rest = [Path.here] then .error .isDirectory
    else .error .noEntry

/-- The real path that a path leads to.  A relative path is followed from `base`. -/
def locate (fs : FileSystem) (base : RealPath) (p : Path) : Except FileError RealPath :=
  if p.contains 0 then .error .zeroInPath
  else if p = [] then .error .noEntry
  else if pathLimit ≤ p.length then .error .nameTooLong
  else walk fs linkLimit (if Path.isAbsolute p then [] else base) (steps p)

/-- The real path of a file that is there or can be made. -/
def place (fs : FileSystem) (base : RealPath) (p : Path) : Except FileError RealPath :=
  if p = [] then .error .noEntry
  else if pathLimit ≤ p.length then .error .nameTooLong
  else walkNew fs linkLimit (if Path.isAbsolute p then [] else base) (steps p)

/-- The file system with other bytes in the file at a real path, which is made if it is not
there. -/
def store (fs : FileSystem) (p : RealPath) (bytes : List UInt8) : FileSystem :=
  match fs.node? p with
  | some (.file _ executable) =>
    ⟨fs.entries.map fun (q, node) => if q = p then (q, .file bytes executable) else (q, node)⟩
  | some _ => fs
  | none => ⟨fs.entries ++ [(p, .file bytes false)]⟩

/-- A real path as a path from the root. -/
def pathTo (r : RealPath) : Path :=
  Path.slash :: Text.joinWith [Path.slash] r

/-- The path without links and steps `.` and `..` that leads to the same node.  A relative path has
none when the directory it is taken from is gone. -/
def canonicalize (fs : FileSystem) (base : RealPath) (p : Path) : Except FileError Path :=
  if p.contains 0 then .error .zeroInPath
  else if Path.isAbsolute p = false ∧ fs.node? base ≠ some .directory then .error .noEntry
  else (fs.locate base p).map pathTo

/-- The node that a path leads to. -/
def find? (fs : FileSystem) (base : RealPath) (p : Path) : Except FileError Node :=
  match fs.locate base p with
  | .error e => .error e
  | .ok r =>
    match fs.node? r with
    | some node => .ok node
    | none => .error .noEntry

/-- A path leads somewhere. -/
def pathExists (fs : FileSystem) (base : RealPath) (p : Path) : Bool :=
  match fs.find? base p with
  | .ok _ => true
  | .error _ => false

/-- A path leads to a directory. -/
def isDirectory (fs : FileSystem) (base : RealPath) (p : Path) : Bool :=
  match fs.find? base p with
  | .ok .directory => true
  | _ => false

/-- A path leads to a file. -/
def isFile (fs : FileSystem) (base : RealPath) (p : Path) : Bool :=
  match fs.find? base p with
  | .ok (.file _ _) => true
  | _ => false

/-- The bytes of the file that a path leads to. -/
def read (fs : FileSystem) (base : RealPath) (p : Path) : Except FileError (List UInt8) :=
  match fs.find? base p with
  | .error e => .error e
  | .ok (.file bytes _) => .ok bytes
  | .ok .void => .ok []
  | .ok _ => .error .isDirectory

/-- The text of the file that a path leads to. -/
def readText (fs : FileSystem) (base : RealPath) (p : Path) : Except FileError Text :=
  match fs.read base p with
  | .error e => .error e
  | .ok bytes =>
    match Utf8.decode? bytes with
    | some t => .ok t
    | none => .error .notText

end FileSystem

end CommandShell
