import CommandShell.Builtin.Cause
import CommandShell.Builtin.Count
import CommandShell.Builtin.Search
import CommandShell.Slot
import CommandShell.World

/-!
# Running one command

A command sees the environment of the session, the slot it reads from and the slot it
writes to.  `Invocation.execute` says what status it ends with, or why it failed, and what
the environment, the output slot and the files hold afterwards.

Every command works out its whole result before it writes it, so a command that fails has
changed neither the environment nor its slot.  Only a program that was started changes files,
and what it changed stays when it fails.
-/

namespace CommandShell

/-- What a command ends with: zero, or the status that ends the session. -/
abbrev Status := Int

/-- The command succeeded. -/
def Status.success : Status := 0

/-- The session is to end. -/
def Status.terminate : Status := -1

/-- What became of a command. -/
structure Outcome where
  result : Except Cause Status
  environment : Environment
  output : Slot
  files : FileSystem

namespace Outcome

/-- The command failed, and left the environment and its slot as they were. -/
def failed (files : FileSystem) (env : Environment) (output : Slot) (cause : Cause) : Outcome :=
  ⟨.error cause, env, output, files⟩

/-- The command succeeded and wrote nothing. -/
def silent (files : FileSystem) (env : Environment) (output : Slot) : Outcome :=
  ⟨.ok Status.success, env, output, files⟩

/-- The command succeeded and wrote a text, or failed. -/
def written (files : FileSystem) (env : Environment) (output : Slot) :
    Except Cause Text → Outcome
  | .ok t => ⟨.ok Status.success, env, output.write t, files⟩
  | .error cause => failed files env output cause

end Outcome

namespace World

/-! ### Reading and counting -/

/-- The text of a file, by a path taken from the directory of the session. -/
def readFile (w : World) (env : Environment) (file : Text) : Except Cause Text :=
  (w.files.readText w.base (env.resolve file)).mapError (Cause.unreadable file)

/-- The texts of files one after the other. -/
def concatFiles (w : World) (env : Environment) : List Text → Except Cause Text
  | [] => .ok []
  | file :: rest =>
    match w.readFile env file with
    | .error e => .error e
    | .ok t =>
      match w.concatFiles env rest with
      | .error e => .error e
      | .ok ts => .ok (t ++ ts)

/-- A row of counts for each file. -/
def countFiles (w : World) (env : Environment) : List Text → Except Cause (List Text)
  | [] => .ok []
  | file :: rest =>
    match w.readFile env file with
    | .error e => .error e
    | .ok t =>
      match w.countFiles env rest with
      | .error e => .error e
      | .ok rows => .ok (((Count.ofText t).render ++ ' ' :: file) :: rows)

/-! ### Listing -/

/-- Put a text into its place in a list in ascending order. -/
def insertText (t : Text) : List Text → List Text
  | [] => [t]
  | u :: rest => if Text.le t u then t :: u :: rest else u :: insertText t rest

/-- Texts in ascending order. -/
def sortTexts : List Text → List Text
  | [] => []
  | t :: rest => insertText t (sortTexts rest)

/-- The names that were read from a directory, as they are listed. -/
def listNames (path : Text) : Except FileError (List Path) → Except Cause (List Text)
  | .error e => .error (.unlisted path e)
  | .ok names => .ok (sortTexts (names.map Path.shown))

/-- What is listed for a path: the names in a directory, or the path itself. -/
def entries (w : World) (env : Environment) (path : Text) : Except Cause (List Text) :=
  match w.files.locate w.base (env.resolve path) with
  | .error _ => .error (.nothingThere path)
  | .ok r =>
    match w.files.node? r with
    | none => .error (.nothingThere path)
    | some .directory => listNames path (w.readDirectory w.files r)
    | some _ => .ok [path]

/-- A block for each path, under a heading. -/
def listBlocks (w : World) (env : Environment) : List Text → Except Cause (List Text)
  | [] => .ok []
  | path :: rest =>
    match w.entries env path with
    | .error e => .error e
    | .ok names =>
      match w.listBlocks env rest with
      | .error e => .error e
      | .ok blocks => .ok ((path ++ ":\n".toList ++ Text.joinWith ['\n'] names) :: blocks)

/-- What `ls` prints: one path without a heading, and several with. -/
def listing (w : World) (env : Environment) : List Text → Except Cause Text
  | [] => (w.entries env ['.']).map (Text.joinWith ['\n'])
  | [path] => (w.entries env path).map (Text.joinWith ['\n'])
  | paths => (w.listBlocks env paths).map (Text.joinWith "\n\n".toList)

/-! ### Changing the directory -/

/-- The directory that `cd` goes to: the target, or the value of `HOME`. -/
def cdTarget (env : Environment) : Option Text → Except Cause Text
  | some (c :: target) => .ok (c :: target)
  | _ =>
    match env.vars.get? "HOME".toList with
    | some home => .ok home
    | none => .error .noTarget

/-- The directory after `cd`, without links in its path. -/
def changeDirectory (w : World) (env : Environment) (target : Option Text) :
    Except Cause Path :=
  match cdTarget env target with
  | .error e => .error e
  | .ok t =>
    let path := env.resolve t
    match w.files.canonicalize w.base path with
    | .error e => .error (.lost path e)
    | .ok canonical =>
      if w.files.isDirectory w.base canonical then .ok canonical
      else .error (.notDirectory t)

/-! ### Searching -/

/-- The lines of a file to be searched.  A directory can be opened, but not read. -/
def searchLines (w : World) (env : Environment) (file : Text) : Except Cause (List Text) :=
  match w.files.find? w.base (env.resolve file) with
  | .error e => .error (.unopened file e)
  | .ok (.file bytes _) =>
    match Grep.readLines bytes with
    | some lines => .ok lines
    | none => .error (.unsearchable file .notText)
  | .ok .void => .ok []
  | .ok _ => .error (.unsearchable file .isDirectory)

/-- What a search prints of files. -/
def searchFiles (w : World) (env : Environment) (isMatch : Text → Bool) (afterContext : Nat)
    (labelled : Bool) : List Text → Except Cause Text
  | [] => .ok []
  | file :: rest =>
    match w.searchLines env file with
    | .error e => .error e
    | .ok lines =>
      let label := if labelled then file ++ [':'] else []
      match w.searchFiles env isMatch afterContext labelled rest with
      | .error e => .error e
      | .ok t => .ok (Grep.printSource isMatch afterContext label lines ++ t)

/-- What a search prints.  It prints nothing when there is nothing to search. -/
def search (w : World) (env : Environment) (input : Slot) (g : Grep) :
    Except Cause (Option Text) :=
  match Pattern.compile g.ignoreCase g.fullPattern with
  | .error e => .error (.badPattern g.fullPattern e)
  | .ok e =>
    match g.files with
    | [] => .ok (input.content.map fun t =>
        Grep.printSource e.isMatch g.afterContext [] (Text.linesWithEnds t))
    | files =>
      (w.searchFiles env e.isMatch g.afterContext (1 < files.length) files).map some

/-! ### Programs -/

/-- The code of how a program ended.  A signal counts from 128 on, and an ending that is not
told has a code as well. -/
def endingCode : Ending → Int
  | .exited code => code
  | .killed signal => 128 + signal
  | .untold saved => if saved then 255 else -1

/-- A text without one line end at its end. -/
def dropLineEnd (t : Text) : Text :=
  if t.getLast? = some '\n' then t.dropLast else t

/-- What a program wrote.  A program that complains, or ends with another code than zero, has
failed. -/
def verdict (report : Report) : Except Cause Text :=
  if !report.complaints.isEmpty then
    .error (.complained (Text.trimEnd (Utf8.decodeLossy report.complaints)))
  else if endingCode report.ending ≠ 0 then .error (.exited (endingCode report.ending))
  else .ok (dropLineEnd (Utf8.decodeLossy report.output))

/-- What became of a program that was found at a path. -/
def launchResult (program : Path) : Except LaunchError Report → Except Cause Text
  | .ok report => verdict report
  | .error (.notStarted e) => .error (.notStarted program e)
  | .error (.notFed e _) => .error (.notFed e)
  | .error (.notAwaited e _) => .error (.notAwaited e)

/-- The program that a name stands for in a session. -/
def programOf? (w : World) (env : Environment) (name : Text) : Option Path :=
  w.findProgram? (Path.ofText (env.vars.get "PATH".toList)) env.directory (Path.ofText name)

/-- What a session hands to a program. -/
def launchOf (env : Environment) (input : Slot) (program : Path) (arguments : List Text) :
    Launch :=
  ⟨program, arguments, env.vars, env.directory, Utf8.encode input.text⟩

/-- What a program wrote, and the files afterwards. -/
def runProgram (w : World) (env : Environment) (input : Slot) (name : Text)
    (arguments : List Text) : Except Cause Text × FileSystem :=
  match w.programOf? env name with
  | none => (.error .notFound, w.files)
  | some program =>
    let launched := w.launch w.files (launchOf env input program arguments)
    (launchResult program launched, filesAfter w.files launched)

end World

/-! ### All commands -/

/-- Run a command. -/
def Invocation.execute (w : World) (env : Environment) (input output : Slot) :
    Invocation → Outcome
  | .assignment name value => .silent w.files (env.set name value) output
  | .echo arguments => .written w.files env output (.ok (Text.joinWith [' '] arguments))
  | .pwd => .written w.files env output (.ok (Path.shown env.directory))
  | .exit => ⟨.ok Status.terminate, env, output, w.files⟩
  | .cat [] =>
    match input.content with
    | none => .silent w.files env output
    | some t => .written w.files env output (.ok t)
  | .cat files => .written w.files env output (w.concatFiles env files)
  | .wc [] =>
    match input.content with
    | none => .silent w.files env output
    | some t => .written w.files env output (.ok (Count.ofText t).render)
  | .wc files => .written w.files env output ((w.countFiles env files).map (Text.joinWith ['\n']))
  | .ls paths => .written w.files env output (w.listing env paths)
  | .cd target =>
    match w.changeDirectory env target with
    | .error e => .failed w.files env output e
    | .ok directory => .silent w.files { env with directory := directory } output
  | .grep g =>
    match w.search env input g with
    | .error e => .failed w.files env output e
    | .ok none => .silent w.files env output
    | .ok (some t) => .written w.files env output (.ok t)
  | .external name arguments =>
    let (result, files) := w.runProgram env input name arguments
    .written files env output result

/-- A command that failed, by its name. -/
structure CommandError where
  command : Text
  cause : Cause
deriving Repr, DecidableEq

/-- The wording of a failure. -/
def CommandError.message (e : CommandError) : Text :=
  e.command ++ ": ".toList ++ e.cause.message

end CommandShell
