import CommandShell.Flags
import CommandShell.Log
import CommandShell.Unicode.Grapheme

/-!
# The console

The program reads its options, and then either runs the one line it was given or reads
lines from its input until the end of it, or until a line ends the session.  Output and
faults of lines go to where they belong, each with a line end after it; a fault never ends
a session.  What the log has written of a line goes to where the faults go, before its fault.

Two libraries have a say in what is written (`Platform`): the one that keeps the log, and the one
that reads lines, which may write a prompt even if its input is no terminal.
-/

namespace CommandShell.Console

/-- What a run of the program leaves behind. -/
structure Transcript where
  /-- The code it ends with. -/
  code : Nat
  output : Text
  complaints : Text
deriving Repr, DecidableEq

/-- More output and complaints before those of a transcript. -/
def Transcript.after (output complaints : Text) (t : Transcript) : Transcript :=
  { t with output := output ++ t.output, complaints := complaints ++ t.complaints }

/-! ### Options -/

/-- The options of the program. -/
structure Options where
  /-- The line to run. -/
  command : Option Text
  /-- The prompt of a session. -/
  prompt : Option Text
  /-- Log every step. -/
  verbose : Bool
deriving Repr, DecidableEq

/-- Nothing is asked for. -/
def Options.initial : Options :=
  ⟨none, none, false⟩

/-- The name of the program. -/
def programName : Text := "line_shell".toList

/-- The usage text of the program. -/
def usage : Text :=
  ("Usage: line_shell [-c <command>] [--prompt <prompt>] [-v]\n\n" ++
    "A line-oriented shell with pipelines and variables.\n\n" ++
    "Options:\n" ++
    "  -c, --command     run a single line and exit\n" ++
    "  --prompt          prompt shown in interactive mode\n" ++
    "  -v, --verbose     log every processing step to stderr\n" ++
    "  --help, help      display usage information\n").toList

/-- The options that the program takes; it takes no other arguments. -/
def grammar : Flags.Grammar Options where
  options :=
    let command : Flags.Action Options := .value fun o v =>
      (Flags.once o.command (.ok v)).map fun c => { o with command := c }
    let prompt : Flags.Action Options := .value fun o v =>
      (Flags.once o.prompt (.ok v)).map fun p => { o with prompt := p }
    let verbose : Flags.Action Options := .switch ({ · with verbose := true })
    [("--command".toList, command), ("-c".toList, command), ("--prompt".toList, prompt),
      ("--verbose".toList, verbose), ("-v".toList, verbose)]
  positional := fun _ _ => none
  usage := usage

/-- The prompt when no other is asked for. -/
def defaultPrompt : Text := "$ ".toList

/-! ### Lines of input -/

/-- A line without its end, which is `\n` or `\r\n`. -/
def withoutLineEnd (t : Text) : Text :=
  match t.reverse with
  | '\n' :: '\r' :: rest => rest.reverse
  | '\n' :: rest => rest.reverse
  | _ => t

/-- A text without the given number of bytes at its beginning, unless they end inside a
character. -/
def dropBytes? : Nat → Text → Option Text
  | 0, t => some t
  | _, [] => some []
  | n, c :: t => if n < c.utf8Size then none else dropBytes? (n - c.utf8Size) t

/-- The text after deletions, from its end to its beginning: each backspace takes away the
cluster before it.  The sizes of the clusters that are left are kept, the last first.  A size
is kept in one byte, so a deletion may take away less than a cluster; one that would end inside
a character is refused. -/
def applyBackspaces? : List Text → List Nat → Text → Option Text
  | [], _, t => some t
  | ['\x08'] :: rest, [], t => applyBackspaces? rest [] t
  | ['\x08'] :: rest, n :: sizes, t =>
    match dropBytes? n t with
    | none => none
    | some t => applyBackspaces? rest sizes t
  | cluster :: rest, sizes, t =>
    applyBackspaces? rest (Utf8.size cluster % 256 :: sizes) (cluster.reverse ++ t)

/-- A line of input as it is run, unless a deletion was refused. -/
def inputLine? (t : Text) : Option Text :=
  (applyBackspaces? (Unicode.clusters (withoutLineEnd t)) [] []).map List.reverse

/-! ### Running lines -/

/-- What a line leaves on the console: its output if there is any, or its fault. -/
def report (result : Except LineError (Status × Option Text)) : Text × Text :=
  match result with
  | .error e => ([], Text.line e.message)
  | .ok (_, some (c :: t)) => (Text.line (c :: t), [])
  | .ok _ => ([], [])

/-- The line ended the session. -/
def endsSession (result : Except LineError (Status × Option Text)) : Bool :=
  match result with
  | .ok (status, _) => status == Status.terminate
  | .error _ => false

/-- The complaint about input that is no text. -/
def inputFault : Text :=
  let reason := FileError.notText.message
  Text.line ("Error: ".toList ++ reason ++ "\n\nCaused by:\n    ".toList ++ reason)

/-- The complaint about a deletion that was refused. -/
def deletionFault : Text :=
  Text.line "Error: a deletion ends inside a character".toList

/-- The complaint about variables that are no texts. -/
def variableFault : Text :=
  Text.line "Error: the name or the value of a variable is no text".toList

/-- The code that the program ends with when it breaks off. -/
def breakCode : Nat := 101

/-- How a session goes on after a line. -/
inductive Next where
  /-- With this environment and these files. -/
  | goOn (env : Environment) (files : FileSystem)
  /-- Not at all: the program ends with a code. -/
  | stop (code : Nat)
deriving Repr, DecidableEq

/-- What one line of input leads to. -/
structure Turn where
  output : Text
  /-- What the log is told. -/
  events : List Log.Event
  complaints : Text
  next : Next
deriving Repr, DecidableEq

/-- Run one line of input, as bytes with its end. -/
def turn (w : World) (env : Environment) (bytes : List UInt8) : Turn :=
  match Utf8.decode? bytes with
  | none => ⟨[], [], inputFault, .stop 1⟩
  | some t =>
    match inputLine? t with
    | none => ⟨[], [], deletionFault, .stop breakCode⟩
    | some line =>
      if Text.isBlankText line then ⟨[], [], [], .goOn env w.files⟩
      else
        let finished := Session.runLine w env line
        let (output, complaints) := report finished.result
        ⟨output, Session.events w env line, complaints,
          if endsSession finished.result then .stop 0
          else .goOn finished.environment finished.files⟩

/-- A session over the lines of the input, with the number of events so far.  The prompt is written
before each line is read, and before the end of the input is seen. -/
def interact (logger : Log.Logger) (prompt : Text) :
    Nat → World → Environment → List (List UInt8) → Transcript
  | _, _, _, [] => ⟨0, prompt, []⟩
  | n, w, env, bytes :: rest =>
    let t := turn w env bytes
    let complaints := logger.written n t.events ++ t.complaints
    match t.next with
    | .stop code => ⟨code, prompt ++ t.output, complaints⟩
    | .goOn env' files =>
      (interact logger prompt (n + t.events.length) { w with files := files } env' rest).after
        (prompt ++ t.output) complaints

/-- Run the one line that the program was given. -/
def runCommand (logger : Log.Logger) (w : World) (env : Environment) (line : Text) :
    Transcript :=
  let finished := Session.runLine w env line
  let (output, complaints) := report finished.result
  let code := match finished.result with
    | .ok _ => 0
    | .error _ => 1
  ⟨code, output, logger.written 0 (Session.events w env line) ++ complaints⟩

/-! ### The program -/

/-- What the program relies on that is no part of it. -/
structure Platform where
  /-- The library that writes events. -/
  log : Log.Library
  /-- Under these variables, the prompt is written even though the input is no terminal. -/
  showsPrompt : Bindings → Bool

/-- What a refusal of the options leaves behind; a request for help is none. -/
def refusal : Flags.FlagError → Transcript
  | .help usage => ⟨0, Text.line usage, []⟩
  | e => ⟨1, [], Text.line e.message ++
      Text.line ("Run ".toList ++ programName ++ " --help for more information.".toList)⟩

/-- What the program is to do. -/
inductive Task where
  /-- Nothing more than this. -/
  | answer (t : Transcript)
  /-- To run one line. -/
  | command (logger : Log.Logger) (vars : Variables) (line : Text)
  /-- To run the lines of the input, with a prompt before each. -/
  | session (logger : Log.Logger) (vars : Variables) (prompt : Text)

/-- What the program is to do with its arguments, under the variables of its process. -/
def task (p : Platform) (bindings : Bindings) (arguments : List Text) : Task :=
  match Flags.read grammar Options.initial arguments with
  | .error e => .answer (refusal e)
  | .ok options =>
    match Variables.ofBindings? bindings with
    | none => .answer ⟨breakCode, [], variableFault⟩
    | some vars =>
      let logger := p.log.logger bindings options.verbose
      match options.command with
      | some line => .command logger vars line
      | none =>
        .session logger vars
          (if p.showsPrompt bindings then options.prompt.getD defaultPrompt else [])

/-- Run the program in a directory, with its arguments and its input. -/
def run (p : Platform) (w : World) (directory : Path) (bindings : Bindings)
    (arguments : List Text) (input : List UInt8) : Transcript :=
  match task p bindings arguments with
  | .answer t => t
  | .command logger vars line => runCommand logger w ⟨vars, directory⟩ line
  | .session logger vars prompt =>
    interact logger prompt 0 w ⟨vars, directory⟩ (Grep.byteLines input)

end CommandShell.Console
