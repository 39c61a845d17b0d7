import CommandShell.Invocation
import CommandShell.Pattern
import CommandShell.Text.Number
import CommandShell.Text.Utf8

/-!
# Searching

The lines of a source that match a pattern are printed with as many lines after each as the
search asks for.  Where windows overlap or touch they make one block; with context, `--`
stands between two blocks.  With several files every line has the name of its file before
it.
-/

namespace CommandShell.Grep

/-- The pattern of a search, between word boundaries if only whole words count. -/
def fullPattern (g : Grep) : Text :=
  if g.wholeWord then "\\b(".toList ++ g.pattern ++ ")\\b".toList else g.pattern

/-- Bytes cut after each line end. -/
def byteLines : List UInt8 → List (List UInt8)
  | [] => []
  | b :: rest =>
    if b = 10 then [b] :: byteLines rest
    else match byteLines rest with
      | [] => [[b]]
      | l :: ls => (b :: l) :: ls

/-- The lines of a source, read one by one. -/
def readLines (bytes : List UInt8) : Option (List Text) :=
  (byteLines bytes).mapM Utf8.decode?

/-- A line without the line ends after it. -/
def withoutEnd (line : Text) : Text :=
  (line.reverse.dropWhile (· == '\n')).reverse

/-- A sum that stays at the largest machine word. -/
def saturatingAdd (a b : Nat) : Nat :=
  min (a + b) (Text.wordLimit - 1)

/-- The index after the last line to be printed for a match at an index. -/
def windowEnd (afterContext total i : Nat) : Nat :=
  min (saturatingAdd (saturatingAdd i afterContext) 1) total

/-- The indices of the lines that match. -/
def matchIndices (isMatch : Text → Bool) (lines : List Text) : List Nat :=
  (lines.zipIdx.filter fun (l, _) => isMatch (withoutEnd l)).map (·.2)

/-- Set the flags from one index up to another. -/
def mark (first last : Nat) (flags : List Bool) : List Bool :=
  flags.mapIdx fun i flag => flag || (first ≤ i && i < last)

/-- A flag for each line that says whether it is printed.  The flags are set window by
window. -/
def printFlags (afterContext total : Nat) (ms : List Nat) : List Bool :=
  ms.foldl (fun flags m => mark m (windowEnd afterContext total m) flags)
    (List.replicate total false)

/-- Print the lines from an index on, given the index of the last line printed. -/
def printFrom (afterContext : Nat) (label : Text) :
    Option Nat → Nat → List (Text × Bool) → Text
  | _, _, [] => []
  | last, i, (l, printed) :: rest =>
    if printed then
      let separator :=
        if 0 < afterContext && last.any (fun k => k + 1 < i) then "--\n".toList else []
      separator ++ label ++ l ++ printFrom afterContext label (some i) (i + 1) rest
    else printFrom afterContext label last (i + 1) rest

/-- What a search prints of the lines of a source. -/
def printSource (isMatch : Text → Bool) (afterContext : Nat) (label : Text)
    (lines : List Text) : Text :=
  let flags := printFlags afterContext lines.length (matchIndices isMatch lines)
  printFrom afterContext label none 0 (lines.zip flags)

end CommandShell.Grep
