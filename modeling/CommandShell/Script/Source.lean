import CommandShell.Script.Syntax

/-!
# The text of a script

A script is read character by character.  Texts of aliases are laid over the text of the
script and read first.  A backslash before a line end joins two lines, except where
characters stand for themselves.

The reader knows the line it is at, the token that was read last, and the documents whose
texts are still to come.
-/

namespace CommandShell.Script

/-! ### Tokens -/

/-- What a redirection begins with. -/
inductive Redirector where
  | file (descriptor : Nat) (direction : Direction)
  | copy (descriptor : Nat)
  /-- The document may be indented by tabs. -/
  | document (descriptor : Nat) (indented : Bool)
deriving Repr, DecidableEq

/-- The parts that a script is cut into. -/
inductive Token where
  | endOfInput
  | newline
  /-- An operator, or a word of the language. -/
  | mark (text : String)
  | redirection (r : Redirector)
  | word (w : Word) (quoted : Bool)

/-- The kinds of tokens. -/
inductive Kind where
  | endOfInput
  | newline
  | mark (text : String)
  | redirection
  | word
deriving Repr, DecidableEq

/-- The kind of a token. -/
def Token.kind : Token → Kind
  | .endOfInput => .endOfInput
  | .newline => .newline
  | .mark text => .mark text
  | .redirection _ => .redirection
  | .word _ _ => .word

/-- A kind of tokens as it is named in a complaint. -/
def Kind.name : Kind → Text
  | .endOfInput => "end of file".toList
  | .newline => "newline".toList
  | .mark text => ['"'] ++ text.toList ++ ['"']
  | .redirection => "redirection".toList
  | .word => "word".toList

/-- The words of the language. -/
def keywords : List String :=
  ["!", "case", "do", "done", "elif", "else", "esac", "fi", "for", "if", "in", "then", "until",
    "while", "\x7b", "\x7d"]

/-- The tokens before which a list of commands ends. -/
def endsList : Kind → Bool
  | .endOfInput => true
  | .mark text =>
    [")", ";;", "do", "done", "elif", "else", "esac", "fi", "then", "\x7d"].contains text
  | _ => false

/-! ### The reader -/

/-- A text that is read. -/
structure Layer where
  /-- The alias that it was put in for. -/
  origin : Option Text
  rest : Text
  /-- It ends with a blank. -/
  endsBlank : Bool

/-- A document whose text is still to come. -/
structure Expected where
  id : Nat
  /-- The line that ends it. -/
  delimiter : Text
  indented : Bool
  literal : Bool

/-- A script that is being read. -/
structure Source where
  /-- The texts that are read, the innermost first. -/
  layers : List Layer
  line : Nat
  /-- A token that was put back. -/
  pushed : Option Token
  /-- The kind of the token that was read last. -/
  last : Kind
  /-- The text of an alias ended with a blank, so the next word may be an alias too. -/
  afterAlias : Bool
  expected : List Expected
  /-- The documents that were read, by their numbers. -/
  documents : List (Nat × Document)
  /-- The number of the next document. -/
  nextDocument : Nat
  aliases : List (Text × Text)

/-- A script before its first character is read. -/
def Source.ofText (t : Text) : Source :=
  ⟨[⟨none, t, false⟩], 1, none, .newline, false, [], [], 0, []⟩

/-- A script that breaks the rules of the language, at a line. -/
structure SyntaxFault where
  line : Nat
  reason : Text
deriving Repr, DecidableEq

/-- Reading a script. -/
abbrev Reading := EStateM SyntaxFault Source

/-- The script breaks a rule. -/
def fault {α : Type} (reason : Text) : Reading α := do
  throw ⟨(← get).line, reason⟩

/-- The last token must not stand here. -/
def unexpected {α : Type} (wanted : Option Kind) : Reading α := do
  let start := (← get).last.name ++ " unexpected".toList
  match wanted with
  | some k => fault (start ++ " (expecting ".toList ++ k.name ++ ")".toList)
  | none => fault start

/-! ### Characters -/

/-- A text without the joints of lines at its beginning, and how many there were. -/
def dropJoints : Text → Nat × Text
  | '\\' :: '\n' :: rest =>
    let (count, t) := dropJoints rest
    (count + 1, t)
  | t => (0, t)

/-- The next character of layers.  Layers that have ended are left, but the last. -/
def Source.pull (joining : Bool) (s : Source) : List Layer → Option Char × Source
  | [] => (none, { s with layers := [] })
  | l :: outer =>
    let (joints, rest) := if joining then dropJoints l.rest else (0, l.rest)
    let s := { s with line := s.line + joints }
    match rest, outer with
    | c :: rest, _ => (some c, { s with layers := { l with rest := rest } :: outer })
    | [], [] => (none, { s with layers := [{ l with rest := [] }] })
    | [], _ :: _ => Source.pull joining { s with afterAlias := s.afterAlias || l.endsBlank } outer

/-- The next character. -/
def nextChar : Reading (Option Char) := do
  let s ← get
  let (c, s') := s.pull false s.layers
  set s'
  return c

/-- The next character that is no joint of lines. -/
def nextJoined : Reading (Option Char) := do
  let s ← get
  let (c, s') := s.pull true s.layers
  set s'
  return c

/-- Put a character back. -/
def unread : Option Char → Reading Unit
  | none => return
  | some c => modify fun s =>
    match s.layers with
    | l :: outer => { s with layers := { l with rest := c :: l.rest } :: outer }
    | [] => { s with layers := [⟨none, [c], false⟩] }

/-- One more line was read. -/
def countLine : Reading Unit :=
  modify fun s => { s with line := s.line + 1 }

/-- Put back a token. -/
def pushBack (t : Token) : Reading Unit :=
  modify fun s => { s with pushed := some t }

/-- Lay the text of an alias over the text that is read. -/
def pushAlias (name text : Text) : Reading Unit :=
  modify fun s =>
    { s with layers :=
        ⟨some name, text, text.getLast?.any fun c => c == ' ' || c == '\t'⟩ :: s.layers }

/-- The text of an alias that is not being read already. -/
def aliasText? (name : Text) : Reading (Option Text) := do
  let s ← get
  if s.layers.any (·.origin == some name) then return none
  return s.aliases.lookup name

end CommandShell.Script
