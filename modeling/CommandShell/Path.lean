import CommandShell.Text.Utf8

/-!
# Paths

A path is a string of bytes whose parts are separated by `/`.  The bytes are mostly those of a
text, but a file system takes any name, so they need not be; such a path is shown with the
replacement character for what is no text (`Path.shown`).

Nothing here looks at a file system: joining never removes a part, and the parts of a path are
read off its bytes.  Repeated separators, a trailing one, and `.` parts other than a leading one do
not count as parts.
-/

namespace CommandShell

/-- A path is the list of its bytes. -/
abbrev Path := List UInt8

namespace Path

/-! ### Paths and texts -/

/-- The separator of parts, `/`. -/
def slash : UInt8 := 0x2F

/-- The character `.`. -/
def dot : UInt8 := 0x2E

/-- The separator of the entries of a search path, `:`. -/
def colon : UInt8 := 0x3A

/-- The path `/`. -/
def root : Path := [slash]

/-- The path `.`. -/
def here : Path := [dot]

/-- The path `..`. -/
def above : Path := [dot, dot]

@[simp] theorem dot_ne_slash : dot ≠ slash := by decide

@[simp] theorem here_ne_nil : here ≠ [] := by decide

@[simp] theorem above_ne_nil : above ≠ [] := by decide

@[simp] theorem above_ne_here : above ≠ here := by decide

/-- The path that a text stands for. -/
def ofText (t : Text) : Path :=
  Utf8.encode t

/-- The path that is written as a string. -/
def ofString (s : String) : Path :=
  ofText s.toList

/-- A path as a text.  What is no text in it is replaced. -/
def shown (p : Path) : Text :=
  Utf8.decodeLossy p

/-! ### Joining and cutting -/

/-- A path from the root of the file system. -/
def isAbsolute (p : Path) : Bool :=
  p.head? == some slash

/-- A path taken relative to another.  An absolute path stays as it is, and a path taken
relative to the empty path too. -/
def join (base p : Path) : Path :=
  if isAbsolute p then p
  else if base = [] then p
  else if base.getLast? = some slash then base ++ p
  else base ++ slash :: p

/-- A part of a path. -/
inductive Part where
  /-- The `/` an absolute path begins with. -/
  | root
  /-- A leading `.`. -/
  | current
  /-- A part `..`. -/
  | parent
  /-- A name. -/
  | name (bytes : Path)
deriving Repr, DecidableEq

/-- A part as it is written. -/
def Part.bytes : Part → Path
  | .root => [slash]
  | .current => here
  | .parent => above
  | .name bytes => bytes

/-- A piece between two separators as a part.  Empty pieces and `.` are none. -/
def Part.ofPiece? (piece : Path) : Option Part :=
  if piece = [] || piece = here then none
  else if piece = above then some .parent
  else some (.name piece)

/-- The parts of a path. -/
def parts (p : Path) : List Part :=
  let pieces := Text.pieces slash p
  let leading : List Part :=
    if isAbsolute p then [.root]
    else if pieces.head? = some here then [.current]
    else []
  leading ++ pieces.filterMap Part.ofPiece?

/-- The entries of a search path, which `:` separates. -/
def searchEntries (search : Path) : List Path :=
  Text.pieces colon search

end Path

end CommandShell
