import CommandShell.Flags
import CommandShell.Line
import CommandShell.Text.Number

/-!
# Invocations

An invocation is a command with its arguments understood, ready to run: one of the
commands the shell has built in, an assignment, or a program outside of it.  A built-in
command sees its words with the quotes removed; a program gets them as written.

Only two built-in commands can refuse their arguments: `cd`, which takes one at most, and
`grep`, whose flags `Grep.grammar` describes.
-/

namespace CommandShell

/-- A search for the lines of texts that match a pattern. -/
structure Grep where
  pattern : Text
  files : List Text
  /-- Match only whole words. -/
  wholeWord : Bool
  /-- Do not tell capital and small letters apart. -/
  ignoreCase : Bool
  /-- How many lines to print after one that matches. -/
  afterContext : Nat
deriving Repr, DecidableEq

/-- A command that is ready to run. -/
inductive Invocation where
  | assignment (name value : Text)
  | cat (files : List Text)
  | echo (arguments : List Text)
  | exit
  | pwd
  | wc (files : List Text)
  | grep (search : Grep)
  | cd (target : Option Text)
  | ls (paths : List Text)
  /-- A program that is not built in. -/
  | external (name : Text) (arguments : List Text)
deriving Repr, DecidableEq

/-- The name that a fault of the invocation is reported under. -/
def Invocation.name : Invocation → Text
  | .assignment _ _ => "assignment".toList
  | .cat _ => "cat".toList
  | .echo _ => "echo".toList
  | .exit => "exit".toList
  | .pwd => "pwd".toList
  | .wc _ => "wc".toList
  | .grep _ => "grep".toList
  | .cd _ => "cd".toList
  | .ls _ => "ls".toList
  | .external name _ => name

/-- A command refused its arguments. -/
structure ArgumentError where
  command : Text
  reason : Text
deriving Repr, DecidableEq

/-- The wording of a refusal. -/
def ArgumentError.message (e : ArgumentError) : Text :=
  e.command ++ ": ".toList ++ e.reason

/-! ### The flags of a search -/

namespace Grep

/-- What has been read of the flags of a search. -/
structure Settings where
  pattern : Option Text
  /-- The files so far, the last one first. -/
  files : List Text
  wholeWord : Bool
  ignoreCase : Bool
  afterContext : Option Nat
deriving Repr, DecidableEq

/-- Nothing has been read. -/
def Settings.initial : Settings :=
  ⟨none, [], false, false, none⟩

/-- Take the number of lines to print after a match. -/
def Settings.setAfterContext (s : Settings) (v : Text) : Except Text Settings :=
  (Flags.once s.afterContext ((Text.readWord v).mapError NumberError.message)).map
    fun n => { s with afterContext := n }

/-- The first positional argument is the pattern.  The others are files, and the first file
ends the options. -/
def Settings.positional (s : Settings) (a : Text) : Option (Settings × Bool) :=
  match s.pattern with
  | none => some ({ s with pattern := some a }, false)
  | some _ => some ({ s with files := a :: s.files }, true)

/-- The usage text of a search. -/
def usage : Text :=
  ("Usage: grep [-w] [-i] [-A <after-context>] [--] <pattern> [files...]\n\n" ++
    "print lines matching a pattern\n\n" ++
    "Positional Arguments:\n" ++
    "  pattern           the pattern to search for (a regular expression)\n\n" ++
    "Options:\n" ++
    "  -w, --word-regexp match only whole words (using non-word characters as\n" ++
    "                    boundaries)\n" ++
    "  -i, --ignore-case ignore case distinctions\n" ++
    "  -A, --after-context\n" ++
    "                    print NUM lines of trailing context after matching lines\n" ++
    "  --help, help      display usage information\n").toList

/-- The flags of a search. -/
def grammar : Flags.Grammar Settings where
  options :=
    let wholeWord : Flags.Action Settings := .switch ({ · with wholeWord := true })
    let ignoreCase : Flags.Action Settings := .switch ({ · with ignoreCase := true })
    let afterContext : Flags.Action Settings := .value Settings.setAfterContext
    [("--word-regexp".toList, wholeWord), ("-w".toList, wholeWord),
      ("--ignore-case".toList, ignoreCase), ("-i".toList, ignoreCase),
      ("--after-context".toList, afterContext), ("-A".toList, afterContext)]
  positional := Settings.positional
  usage := usage

/-- The search that the settings describe; there has to be a pattern. -/
def ofSettings (s : Settings) : Except Flags.FlagError Grep :=
  match s.pattern with
  | none => .error (.missingPositionals ["pattern".toList])
  | some pattern =>
    .ok ⟨pattern, s.files.reverse, s.wholeWord, s.ignoreCase, s.afterContext.getD 0⟩

/-- Read a search from its arguments. -/
def ofArguments (arguments : List Text) : Except Flags.FlagError Grep :=
  match Flags.read grammar Settings.initial arguments with
  | .error e => .error e
  | .ok s => ofSettings s

end Grep

/-! ### From commands to invocations -/

namespace Invocation

/-- The built-in commands in their order, each with how it takes its arguments. -/
def builtins : List (Text × (List Text → Except ArgumentError Invocation)) :=
  [("cat".toList, fun files => .ok (.cat files)),
    ("echo".toList, fun arguments => .ok (.echo arguments)),
    ("exit".toList, fun _ => .ok .exit),
    ("pwd".toList, fun _ => .ok .pwd),
    ("wc".toList, fun files => .ok (.wc files)),
    ("grep".toList, fun arguments =>
      match Grep.ofArguments arguments with
      | .ok search => .ok (.grep search)
      | .error e => .error ⟨"grep".toList, Text.trimEnd e.message⟩),
    ("cd".toList, fun
      | [] => .ok (.cd none)
      | [target] => .ok (.cd (some target))
      | _ => .error ⟨"cd".toList, "too many arguments".toList⟩),
    ("ls".toList, fun paths => .ok (.ls paths))]

/-- The names of the built-in commands. -/
def builtinNames : List Text :=
  builtins.map (·.1)

/-- The invocation of a command by its name and words. -/
def ofCommand (name : Text) (arguments : List Word) : Except ArgumentError Invocation :=
  match builtins.lookup name with
  | some create => create (arguments.map Word.content)
  | none => .ok (.external name (arguments.map Word.verbatim))

/-- The invocations of commands in their order.  The first refusal counts. -/
def ofCommands : List Command → Except ArgumentError (List Invocation)
  | [] => .ok []
  | c :: rest =>
    match ofCommand c.name c.arguments with
    | .error e => .error e
    | .ok i =>
      match ofCommands rest with
      | .error e => .error e
      | .ok is => .ok (i :: is)

/-- The invocations of a line in the order they run. -/
def ofLine : Line → Except ArgumentError (List Invocation)
  | .assignment name value => .ok [.assignment name value.content]
  | .pipeline commands => ofCommands commands

end Invocation

end CommandShell
