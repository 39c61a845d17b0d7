import CommandShell.Machine
import CommandShell.Machine.Platform

/-!
# The program

The outer layer: it reads arguments, variables and lines, and writes what a line leads to as
soon as the line is read.  What is written is decided by `Console`.

A session runs on a tree of files of its own, which holds the programs of the system and
the directory that the session starts in.
-/

namespace CommandShell

/-- The variables that the program takes over. -/
def inheritedNames : List String :=
  ["HOME", "LANG", "PATH", "PWD", "RUST_LOG", "TERM", "USER"]

/-- The variables of the program. -/
def inheritedBindings : IO Bindings := do
  let entries ← inheritedNames.filterMapM fun name => do
    let value ← IO.getEnv name
    return value.map fun v => (name, v)
  return Bindings.ofStrings entries

/-- The directory that the program is started in. -/
def startDirectory : IO RealPath := do
  let name ← IO.getEnv "PWD"
  return FileSystem.steps (Path.ofString (name.getD "/"))

/-- A line of a stream with its end, or what is left of the stream. -/
partial def readLineBytes (stream : IO.FS.Stream) (line : List UInt8) : IO (List UInt8) := do
  let chunk ← stream.read 1
  match chunk.toList with
  | [] => return line.reverse
  | b :: _ => if b = 10 then return (b :: line).reverse else readLineBytes stream (b :: line)

/-- Write to a stream. -/
def writeText (stream : IO.FS.Stream) (t : Text) : IO Unit := do
  stream.putStr (String.ofList t)
  stream.flush

/-- Run the lines of the input until a line, or the end of the input, ends the session. -/
partial def converse (logger : Log.Logger) (prompt : Text) (n : Nat) (w : World)
    (env : Environment) : IO UInt32 := do
  let output ← IO.getStdout
  writeText output prompt
  let bytes ← readLineBytes (← IO.getStdin) []
  if bytes.isEmpty then return 0
  let t := Console.turn w env bytes
  writeText output t.output
  writeText (← IO.getStderr) (logger.written n t.events ++ t.complaints)
  match t.next with
  | .stop code => return code.toUInt32
  | .goOn env' files =>
    converse logger prompt (n + t.events.length) { w with files := files } env'

/-- Write what a run leaves behind, and end with its code. -/
def conclude (t : Console.Transcript) : IO UInt32 := do
  writeText (← IO.getStdout) t.output
  writeText (← IO.getStderr) t.complaints
  return t.code.toUInt32

end CommandShell

open CommandShell in
/-- Run the program. -/
def main (arguments : List String) : IO UInt32 := do
  let bindings ← inheritedBindings
  let place ← startDirectory
  let world := Machine.world (FileSystem.empty.add place .directory) place
  let directory := FileSystem.pathTo place
  match Console.task Machine.platform bindings (arguments.map String.toList) with
  | .answer t => conclude t
  | .command logger vars line => conclude (Console.runCommand logger world ⟨vars, directory⟩ line)
  | .session logger vars prompt => converse logger prompt 0 world ⟨vars, directory⟩
