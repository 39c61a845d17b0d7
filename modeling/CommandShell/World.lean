import CommandShell.Environment
import CommandShell.FileSystem

/-!
# The world around a session

What a session finds outside of itself: a file system, the directory the shell was started
in, in which order directories hand out their names, and how programs behave when they are
started.  The commands of the shell do not change files, but the programs that it starts may:
each of them hands on the files as it left them.
-/

namespace CommandShell

/-- How a program ended. -/
inductive Ending where
  /-- By itself, with a code. -/
  | exited (code : Nat)
  /-- By a signal. -/
  | killed (signal : Nat)
  /-- In a way that is not told, except for whether its memory was saved. -/
  | untold (saved : Bool)
deriving Repr, DecidableEq

/-- What is handed to a program when it is started. -/
structure Launch where
  /-- The path of the program, as it was found. -/
  program : Path
  arguments : List Text
  vars : Variables
  directory : Path
  /-- What it can read. -/
  input : List UInt8
deriving Repr, DecidableEq

/-- What became of a program. -/
structure Report where
  output : List UInt8
  complaints : List UInt8
  ending : Ending
  /-- The files afterwards. -/
  files : FileSystem
deriving Repr, DecidableEq

/-- Why nothing can be told of a program.  One that was started may have changed files. -/
inductive LaunchError where
  /-- It could not be started. -/
  | notStarted (reason : FileError)
  /-- Its input could not be written. -/
  | notFed (reason : FileError) (files : FileSystem)
  /-- It could not be waited for. -/
  | notAwaited (reason : FileError) (files : FileSystem)
deriving Repr, DecidableEq

/-- The files after a program on them, as far as it came. -/
def filesAfter (files : FileSystem) : Except LaunchError Report → FileSystem
  | .ok report => report.files
  | .error (.notStarted _) => files
  | .error (.notFed _ after) => after
  | .error (.notAwaited _ after) => after

/-- The world around a session. -/
structure World where
  files : FileSystem
  /-- The directory the shell was started in. -/
  base : RealPath
  /-- Read a directory: the names in it, in the order in which the system has them. -/
  readDirectory : FileSystem → RealPath → Except FileError (List Path)
  /-- Start a program on files, give it its input, and wait for it. -/
  launch : FileSystem → Launch → Except LaunchError Report

namespace World

/-- A world of files only: every directory can be read, and no program can be started. -/
def ofFiles (files : FileSystem) : World where
  files := files
  base := []
  readDirectory files dir := .ok (files.names dir)
  launch _ _ := .error (.notStarted .noEntry)

/-! ### Finding programs -/

/-- The path itself, if it leads to a file. -/
def fileAt? (w : World) (p : Path) : Option Path :=
  if w.files.isFile w.base p then some p else none

/-- The first entry of a search path with a file of the given name in it. -/
def searchProgram? (w : World) (search name : Path) : Option Path :=
  (Path.searchEntries search).findSome? fun entry => w.fileAt? (Path.join entry name)

/-- The path of a program by its name.  An absolute path stands for itself.  A name of one part
is looked for along the search path, and any other path is taken from the directory of the
session; so is a name that begins with `./`, before the search. -/
def findProgram? (w : World) (search directory name : Path) : Option Path :=
  if Path.isAbsolute name then w.fileAt? name
  else
    let parts := Path.parts name
    let fromHere := w.fileAt? (Path.join directory name)
    let otherwise := match parts with
      | [] => none
      | [part] => w.searchProgram? search part.bytes
      | _ => fromHere
    if parts.head? = some .current then fromHere.or otherwise else otherwise

end World

end CommandShell
