import CommandShell.Text.Basic

/-!
# The language of scripts

A script is a sequence of commands.  The words of a command are lists of parts: characters,
quotation marks, and what is put in when the word is expanded.  Parts hold commands, and
commands hold words, so all of them are defined together.

A character that was quoted stands for itself and nothing else; quotation marks are kept
because empty quotes make a word.
-/

namespace CommandShell.Script

/-- What is done with the value of a parameter. -/
inductive Operator where
  /-- The value. -/
  | value
  /-- The length of the value. -/
  | length
  /-- Another text where the parameter has no value. -/
  | default
  /-- Another text where the parameter has a value. -/
  | alternative
  /-- A complaint where the parameter has no value. -/
  | demand
  /-- A value for a parameter that has none. -/
  | assign
  /-- The value without its shortest, or longest, beginning that matches a pattern. -/
  | dropStart (longest : Bool)
  /-- The value without its shortest, or longest, end that matches a pattern. -/
  | dropEnd (longest : Bool)
  /-- None: the expansion has no meaning. -/
  | meaningless
deriving Repr, DecidableEq

/-- How a file is redirected to. -/
inductive Direction where
  | input
  | output
  /-- Output that replaces a file also where that was ruled out. -/
  | replacing
  | appending
  | both
deriving Repr, DecidableEq

mutual

/-- A part of a word. -/
inductive Part where
  | char (c : Char) (quoted : Bool)
  /-- A quotation mark, at the beginning or the end of a quotation. -/
  | quote
  /-- The value of a parameter.  The flag says that an empty value counts as none. -/
  | parameter (name : Text) (operator : Operator) (orEmpty : Bool) (word : List Part)
  /-- What a command writes. -/
  | command (body : Option Command)
  /-- The value of an arithmetic expression. -/
  | arithmetic (expression : List Part)

/-- Where a descriptor of a command leads. -/
inductive Redirection where
  | file (descriptor : Nat) (direction : Direction) (name : List Part)
  /-- To where another descriptor leads, or nowhere. -/
  | copy (descriptor : Nat) (source : Option Nat)
  /-- The same, where the other descriptor is worked out first. -/
  | copyWord (descriptor : Nat) (source : List Part)
  /-- To a text that stands in the script, by its number. -/
  | document (descriptor : Nat) (id : Nat)

/-- A command. -/
inductive Command where
  | simple (line : Nat) (assignments words : List (List Part))
      (redirections : List Redirection)
  | pipeline (commands : List Command) (background : Bool)
  | redirected (line : Nat) (body : Command) (redirections : List Redirection)
  | subshell (line : Nat) (body : Command) (redirections : List Redirection)
  | background (line : Nat) (body : Command) (redirections : List Redirection)
  | both (first second : Command)
  | either (first second : Command)
  | sequence (first second : Command)
  | negation (body : Command)
  | conditional (test body : Command) (otherwise : Option Command)
  /-- A loop, as long as a test succeeds, or until it does. -/
  | loop (untilTrue : Bool) (test body : Command)
  | forEach (line : Nat) (name : Text) (words : List (List Part)) (body : Command)
  | choice (line : Nat) (word : List Part) (cases : List (List (List Part) × Option Command))
  | define (name : Text) (line : Nat) (body : Command)

end

/-- A word of a command. -/
abbrev Word := List Part

namespace Word

/-- The text of a word that has neither quotes nor expansions. -/
def plain? (w : Word) : Option Text :=
  w.mapM fun
    | .char c false => some c
    | _ => none

/-- The text of a word, quoted or not, without its quotation marks.  Expansions are left
out. -/
def unquoted (w : Word) : Text :=
  w.filterMap fun
    | .char c _ => some c
    | _ => none

/-- The characters that stand for themselves at the beginning of a word. -/
def leading (w : Word) : Text :=
  (w.map fun
    | .char c false => some c
    | _ => none).takeWhile Option.isSome |>.filterMap id

/-- A text is the name of a variable. -/
def isName (t : Text) : Bool :=
  t.head?.any Text.isNameStart && t.all Text.isNameChar

/-- The word is an assignment: a name and `=` without quotes, and what follows. -/
def isAssignment (w : Word) : Bool :=
  let start := w.leading
  let name := start.takeWhile Text.isNameChar
  name.head?.any Text.isNameStart && (start.drop name.length).head? == some '='

end Word

/-- The text of a document in a script. -/
structure Document where
  body : Word
  /-- Nothing in it is expanded. -/
  literal : Bool

end CommandShell.Script
