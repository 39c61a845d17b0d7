import CommandShell.World

/-!
# What running programs share

Programs that run share the file system and the streams that are open: where input comes
from, where output goes, and files with a place in them.  A program knows its streams by
numbers, and two programs that were handed one number read on, or write on, where the other
stopped.

Here and in scripts a text stands for bytes: each of its characters is below 256.
-/

namespace CommandShell.Machine

/-! ### Bytes as texts -/

/-- A text with a character for each byte. -/
def ofBytes (bytes : List UInt8) : Text :=
  bytes.map fun b => Char.ofNat b.toNat

/-- The bytes that the characters of a text stand for. -/
def toBytes (t : Text) : List UInt8 :=
  t.map fun c => c.toNat.toUInt8

/-- The bytes of a text, as a text of bytes. -/
def bytesOf (t : Text) : Text :=
  ofBytes (Utf8.encode t)

/-! ### Paths as texts of bytes -/

/-- A path is absolute. -/
def isAbsolute (path : Text) : Bool :=
  Path.isAbsolute (toBytes path)

/-- A path taken relative to another. -/
def joinPaths (base path : Text) : Text :=
  ofBytes (Path.join (toBytes base) (toBytes path))

/-- The entries of a search path. -/
def searchEntries (search : Text) : List Text :=
  (Path.searchEntries (toBytes search)).map ofBytes

/-- A real path as a path from the root. -/
def pathTo (r : RealPath) : Text :=
  ofBytes (FileSystem.pathTo r)

/-- The directory that the last name of a path is in, and that name. -/
def cutLast (path : Path) : Path × Path :=
  let name := (path.reverse.takeWhile (· != Path.slash)).reverse
  let above := path.take (path.length - name.length)
  (if above.isEmpty then Path.here else above, name)

/-! ### Streams -/

/-- What a file was opened for. -/
structure Access where
  reading : Bool
  writing : Bool
  /-- Everything is written at the end. -/
  appending : Bool
deriving Repr, DecidableEq

/-- What is open under a number. -/
inductive Stream where
  /-- Input, of which this is left. -/
  | source (rest : Text)
  /-- Output, with what was written to it, the last first. -/
  | sink (written : List Text)
  /-- A file, with the position of the next byte. -/
  | file (place : RealPath) (position : Nat) (access : Access)
  | directory
  /-- The device that is always empty. -/
  | void
deriving Repr, DecidableEq

/-- What running programs share. -/
structure System where
  files : FileSystem
  streams : Array Stream
  /-- Signals by the process they were sent to, which has not noticed them yet. -/
  signals : List (Nat × Nat)
  /-- The number of the next process. -/
  nextProcess : Nat

namespace System

/-- Files, and streams of a program that is started: its input, and its two outputs. -/
def start (files : FileSystem) (input : Text) : System :=
  ⟨files, #[.source input, .sink [], .sink []], [], 1000⟩

/-- One more stream, and its number. -/
def add (s : System) (stream : Stream) : Nat × System :=
  (s.streams.size, { s with streams := s.streams.push stream })

/-- Put a stream in the place of another. -/
def setStream (s : System) (id : Nat) (stream : Stream) : System :=
  { s with streams := s.streams.setIfInBounds id stream }

/-- The bytes of the file at a real path. -/
def content (s : System) (place : RealPath) : Text :=
  match s.files.node? place with
  | some (.file bytes _) => ofBytes bytes
  | _ => []

/-- Why a stream cannot be read. -/
inductive ReadFault where
  | notReadable
  | isDirectory
deriving Repr, DecidableEq

/-- What is left to be read from a stream. -/
def remaining (s : System) (id : Nat) : Except ReadFault Text :=
  match s.streams[id]? with
  | some (.source rest) => .ok rest
  | some (.file place position access) =>
    if access.reading then .ok ((s.content place).drop position) else .error .notReadable
  | some .directory => .error .isDirectory
  | some .void => .ok []
  | some (.sink _) => .error .notReadable
  | none => .error .notReadable

/-- A number of bytes were read from a stream. -/
def advance (s : System) (id count : Nat) : System :=
  match s.streams[id]? with
  | some (.source rest) => s.setStream id (.source (rest.drop count))
  | some (.file place position access) =>
    s.setStream id (.file place (position + count) access)
  | _ => s

/-- Bytes with others written over them from a position on. -/
def overwrite (old : Text) (position : Nat) (t : Text) : Text :=
  let before := old.take position
  before ++ List.replicate (position - before.length) '\x00' ++ t ++
    old.drop (position + t.length)

/-- Write to a stream, if it can be written to. -/
def write? (s : System) (id : Nat) (t : Text) : Option System :=
  match s.streams[id]? with
  | some (.sink written) => some (s.setStream id (.sink (t :: written)))
  | some (.file place position access) =>
    if !access.writing then none
    else
      let old := s.content place
      let position := if access.appending then old.length else position
      let files := s.files.store place (toBytes (overwrite old position t))
      some ({ s with files := files }.setStream id
        (.file place (position + t.length) access))
  | some .void => some s
  | _ => none

/-- What was written to an output. -/
def written (s : System) (id : Nat) : Text :=
  match s.streams[id]? with
  | some (.sink written) => written.reverse.flatten
  | _ => []

/-! ### Opening files -/

/-- How a file is opened. -/
inductive Opening where
  | read
  /-- To be written anew. -/
  | write
  /-- To be written, if there is no such file yet. -/
  | create
  | append
  | readAndWrite
deriving Repr, DecidableEq

/-- What a file is opened for. -/
def Opening.access : Opening → Access
  | .read => ⟨true, false, false⟩
  | .write => ⟨false, true, false⟩
  | .create => ⟨false, true, false⟩
  | .append => ⟨false, true, true⟩
  | .readAndWrite => ⟨true, true, false⟩

/-- Open what a path leads to, for reading. -/
def openInput (s : System) (base : RealPath) (path : Text) : Except FileError (Nat × System) :=
  match s.files.locate base (toBytes path) with
  | .error e => .error e
  | .ok place =>
    match s.files.node? place with
    | some .directory => .ok (s.add .directory)
    | some .void => .ok (s.add .void)
    | some _ => .ok (s.add (.file place 0 Opening.read.access))
    | none => .error .noEntry

/-- Open what a path leads to, for writing.  A file that is not there is made. -/
def openOutput (s : System) (base : RealPath) (how : Opening) (path : Text) :
    Except FileError (Nat × System) :=
  match s.files.place base (toBytes path) with
  | .error e => .error e
  | .ok place =>
    let opened (s : System) : Nat × System := s.add (.file place 0 how.access)
    match s.files.node? place with
    | some .directory => .error .isDirectory
    | some .void => .ok (s.add .void)
    | some _ =>
      match how with
      | .create => .error .alreadyThere
      | .write => .ok (opened { s with files := s.files.store place [] })
      | _ => .ok (opened s)
    | none => .ok (opened { s with files := s.files.store place [] })

/-- Open a file. -/
def openFile (s : System) (base : RealPath) (how : Opening) (path : Text) :
    Except FileError (Nat × System) :=
  match how with
  | .read => s.openInput base path
  | how => s.openOutput base how path

end System

/-! ### Programs -/

/-- A program that is about to run. -/
structure Start where
  /-- Its arguments, of which the first is the name it was called by. -/
  arguments : List Text
  vars : List (Text × Text)
  directory : RealPath
  /-- The streams it knows, by its numbers for them. -/
  descriptors : List (Nat × Nat)
deriving Repr, DecidableEq

/-- Running a program that a path leads to: how it ended, and what it left behind. -/
abbrev Spawn := Text → Start → System → Except FileError (Ending × System)

end CommandShell.Machine
