import CommandShell.Machine.Cat
import CommandShell.Machine.Interpreter
import CommandShell.Machine.Making
import CommandShell.Script.Start

/-!
# Starting programs

How a program is started on a file system: the directory of the session is entered, the
program is looked up from there, and a file that begins with `#!` is handed to the program
named after it.  The system has a few programs of its own: its shell, `cat`, and those that make
directories and links.

The shell starts programs too, so running a program has a fuel, which is more than a tree of
programs is deep that ends at all.
-/

namespace CommandShell.Machine

/-- A program of the system. -/
inductive SystemProgram where
  | shell
  | cat
  | mkdir
  | ln
deriving Repr, DecidableEq

/-- The programs of the system by their paths. -/
def systemPrograms : List (RealPath × SystemProgram) :=
  let inBin (name : String) : RealPath := ["bin", name].map Path.ofString
  [(inBin "sh", .shell), (inBin "cat", .cat), (inBin "mkdir", .mkdir),
    (inBin "ln", .ln)]

/-- The bytes that a program of the system begins with. -/
def binaryMark : List UInt8 := [0x7F, 0x45, 0x4C, 0x46]

/-- A file system with the programs of the system in it, and the empty device. -/
def withSystemPrograms (fs : FileSystem) : FileSystem :=
  systemPrograms.foldl (fun fs (p, _) => fs.add p (.file binaryMark true))
    (fs.add (["dev", "null"].map Path.ofString) .void)

/-! ### Programs behind scripts -/

/-- A program of the system, with its arguments. -/
structure Resolved where
  program : SystemProgram
  arguments : List Text
deriving Repr, DecidableEq

/-- The program that runs the file at a path.  A script is handed to its interpreter, which may
be a script too; the number bounds how often. -/
def resolve (files : FileSystem) (base : RealPath) :
    Nat → Text → List Text → Except FileError Resolved
  | 0, _, _ => .error .tooManyLinks
  | n + 1, path, arguments =>
    match files.locate base (toBytes path) with
    | .error e => .error e
    | .ok place =>
      match files.node? place with
      | some (.file bytes true) =>
        match systemPrograms.lookup place with
        | some program => .ok ⟨program, arguments⟩
        | none =>
          match interpreter? bytes with
          | none => .error .execFormat
          | some (program, argument) =>
            resolve files base n program
              (program :: argument.toList ++ path :: arguments.tail)
      | _ => .error .permissionDenied

/-- Scripts name scripts as their interpreters so often that this many files are opened. -/
def interpreterLimit : Nat := 6

/-- Run a program of the system. -/
def SystemProgram.run (spawn : Spawn) (start : Start) (s : System) :
    SystemProgram → Ending × System
  | .shell => Script.runShell spawn start s
  | .cat => Cat.run start s
  | .mkdir => makeDirectories start s
  | .ln => makeLink start s

/-- Run the program that a path leads to; the number bounds how deep programs start
programs. -/
def spawn : Nat → Spawn
  | 0, _, _, _ => .error .permissionDenied
  | n + 1, path, start, s =>
    match resolve s.files start.directory interpreterLimit path start.arguments with
    | .error e => .error e
    | .ok r => .ok (r.program.run (spawn n) { start with arguments := r.arguments } s)

/-- The number of programs that may run inside of each other. -/
def spawnFuel : Nat := 10000

/-! ### Launching -/

/-- Try the entries of a search path.  One without the program is passed over; a program that
must not run is remembered. -/
def searchAndRun (start : Start) (s : System) (name : Text) :
    FileError → List Text → Except FileError (Ending × System)
  | e, [] => .error e
  | e, entry :: rest =>
    let path := joinPaths entry name
    match spawn spawnFuel path start s with
    | .ok result => .ok result
    | .error .noEntry => searchAndRun start s name e rest
    | .error .notDirectory => searchAndRun start s name e rest
    | .error .permissionDenied => searchAndRun start s name .permissionDenied rest
    | .error .execFormat =>
      spawn spawnFuel Script.shellPath
        { start with arguments := Script.shellPath :: path :: start.arguments.tail } s
    | .error e' => .error e'

/-- A zero character cannot be handed to a program. -/
def hasZero (l : Launch) : Bool :=
  let zero (t : Text) : Bool := t.contains '\x00'
  l.program.contains 0 || l.arguments.any zero || l.directory.contains 0 ||
    l.vars.entries.any fun (n, v) => zero n || zero v

/-- What a program is started with that is launched in a directory. -/
def startOf (directory : RealPath) (l : Launch) : Start :=
  { arguments := ofBytes l.program :: l.arguments.map bytesOf
    vars := l.vars.entries.map fun (n, v) => (bytesOf n, bytesOf v)
    directory := directory
    descriptors := [(0, 0), (1, 1), (2, 2)] }

/-- Start a program.  A name without a separator is looked for once more, along the search
path that is handed to the program. -/
def launch (base : RealPath) (files : FileSystem) (l : Launch) : Except LaunchError Report :=
  if hasZero l then .error (.notStarted .zeroInData)
  else match files.locate base l.directory with
    | .error e => .error (.notStarted e)
    | .ok directory =>
      if files.node? directory ≠ some .directory then .error (.notStarted .notDirectory)
      else
        let program := ofBytes l.program
        let start := startOf directory l
        let s := System.start files (ofBytes l.input)
        let result := if l.program.contains Path.slash then spawn spawnFuel program start s
          else
            let search := (l.vars.get? "PATH".toList).getD "/bin:/usr/bin".toList
            searchAndRun start s program .noEntry (searchEntries (bytesOf search))
        match result with
        | .error e => .error (.notStarted e)
        | .ok (ending, s) =>
          .ok ⟨toBytes (s.written 1), toBytes (s.written 2), ending, s.files⟩

/-- The world of a file system on which the programs of the system run. -/
def world (files : FileSystem) (base : RealPath) : World where
  files := withSystemPrograms files
  base := base
  readDirectory files dir := .ok (files.names dir)
  launch := launch base

end CommandShell.Machine
