import CommandShell.Machine.System

/-!
# Scripts and their interpreters

A file that begins with `#!` is run by the program that its first line names, with the rest of
the line as one argument.  Only the first bytes of a file are looked at: a name that may go on
behind them is not used, and an argument is cut off there.
-/

namespace CommandShell.Machine

/-- The number of bytes at the beginning of a file that are looked at. -/
def headSize : Nat := 256

/-- A blank between a name and an argument. -/
def isGap (c : Char) : Bool :=
  c == ' ' || c == '\t'

/-- The end of a name: a blank, or a zero character. -/
def isNameEnd (c : Char) : Bool :=
  isGap c || c == '\x00'

/-- A text up to its first zero character. -/
def upToZero (t : Text) : Text :=
  t.takeWhile (· != '\x00')

/-- The program and the argument that the rest of a line names, after `#!`.  Blanks before the
name do not count. -/
def programAndArgument? (line : Text) : Option (Text × Option Text) :=
  let line := line.dropWhile isGap
  match line with
  | [] => none
  | _ =>
    let name := line.takeWhile (!isNameEnd ·)
    let rest := line.drop name.length
    let argument := match rest with
      | [] => none
      | '\x00' :: _ => none
      | rest => some (upToZero (rest.dropWhile isGap))
    some (name, argument)

/-- The program and the argument that the beginning of a file names. -/
def interpreter? (bytes : List UInt8) : Option (Text × Option Text) :=
  let head := ofBytes (bytes.take headSize)
  let head := head ++ List.replicate (headSize - head.length) '\x00'
  match head with
  | '#' :: '!' :: body =>
    let line := body.takeWhile fun c => c != '\n' && c != '\x00'
    if (body.drop line.length).head? == some '\n' then
      programAndArgument? ((line.reverse.dropWhile isGap).reverse)
    else
      -- Without a line end, the end of the name has to be among these bytes.
      let start := body.dropWhile isGap
      if start.isEmpty || !start.any isNameEnd then none
      else programAndArgument? ((body.dropLast.reverse.dropWhile isGap).reverse)
  | _ => none

end CommandShell.Machine
