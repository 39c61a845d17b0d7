import CommandShell.Script.Arithmetic
import CommandShell.Script.Field
import CommandShell.Script.Glob
import CommandShell.Script.Process

/-!
# Expansion of words

The parts of a word are replaced by what they stand for: values of parameters, what commands
write, and the values of arithmetic expressions.  The result is a list of segments, which is
then cut into fields, matched against the paths of the file system, or taken as one text or
one pattern.

How a command is run is not known here; it is handed in.
-/

namespace CommandShell.Script

/-- Running a command, with what it writes as the result. -/
abbrev RunExpanded := Option Command → Act Text

/-- What a word is expanded for. -/
structure Purpose where
  /-- It is cut into fields. -/
  fields : Bool
  /-- A home directory may stand at its beginning. -/
  home : Bool
  /-- It is an assignment, where a home directory may stand after `=` and `:`. -/
  assignment : Bool
deriving Repr, DecidableEq

/-- An argument of a command. -/
def Purpose.argument : Purpose := ⟨true, true, false⟩

/-- A text, such as the name of a file. -/
def Purpose.text : Purpose := ⟨false, true, false⟩

/-- An assignment. -/
def Purpose.assign : Purpose := ⟨false, false, true⟩

/-- The text of a document. -/
def Purpose.document : Purpose := ⟨false, false, false⟩

/-! ### Parameters -/

/-- Text joined by a character, or by nothing. -/
def joinBy (separator : Option Char) (ts : List Text) : Text :=
  Text.joinWith separator.toList ts

/-- What a parameter stands for: a text, or all arguments with boundaries between them. -/
structure Value where
  text : Text
  /-- The text has all arguments, which are cut where one ends. -/
  arguments : Bool

/-- All arguments as one text.  Where they are to be separate fields they have boundaries
between them. -/
def Process.joined (p : Process) (quoted fields : Bool) : Text :=
  let separator := p.value? "IFS".toList
  if !quoted && fields then
    joinBy (some (if separator.isSome then Glob.boundary else ' ')) p.arguments
  else
    joinBy (match separator with
      | some s => s.head?
      | none => some ' ') p.arguments

/-- The value of a parameter, if it has one. -/
def Process.parameter? (p : Process) (quoted fields : Bool) (name : Text) : Option Value :=
  let plain (t : Text) : Option Value := some ⟨t, false⟩
  match name with
  | ['$'] => plain (Text.ofNat p.rootId)
  | ['?'] => plain (Text.ofNat p.status)
  | ['#'] => plain (Text.ofNat p.arguments.length)
  | ['!'] => p.lastBackground.bind fun id => plain (Text.ofNat id)
  | ['-'] => plain p.flags
  | ['@'] =>
    if quoted && fields then some ⟨joinBy (some Glob.boundary) p.arguments, true⟩
    else plain (p.joined quoted fields)
  | ['*'] => plain (p.joined quoted fields)
  | c :: _ =>
    if Text.isDigit c then
      match digitsValue 10 name with
      | 0 => plain p.name
      | n + 1 => (p.arguments[n]?).bind plain
    else (p.value? name).bind plain
  | [] => none

/-- A value as it is put into a word. -/
def Process.segments (p : Process) (quoted : Bool) (v : Value) : List Segment :=
  if v.arguments then
    if p.arguments.isEmpty then [] else [.region true (v.text.map (.char · true))]
  else if quoted then [.quoted v.text]
  else [.unquoted v.text]

/-! ### Home directories -/

/-- The name of a user after a tilde, and the number of parts it takes.  Quotes and expansions
make it none. -/
def userName? (assignment : Bool) : List Part → Option Text
  | [] => some []
  | .char c false :: rest =>
    if c == '/' || (assignment && c == ':') then some []
    else (userName? assignment rest).map (c :: ·)
  | _ => none

/-- The home directory of a user; that of nobody is the one in the variables. -/
def Process.home? (p : Process) (user : Text) : Option Text :=
  match user with
  | [] => p.value? "HOME".toList
  | user => if user = "root".toList then some "/root".toList else none

/-! ### Segments as texts -/

/-- The pieces of segments. -/
def piecesOf (segments : List Segment) : Field :=
  segments.flatMap Segment.pieces

/-- The text of segments. -/
def textOf (segments : List Segment) : Text :=
  Field.text (piecesOf segments)

/-- Complain about a parameter without a value. -/
def failUnset {α : Type} (name : Text) (reason : Text) : Act α :=
  fail (name ++ ": ".toList ++ reason)

/-- The value of an arithmetic expression. -/
def evaluate (t : Text) : Act Int := do
  let p ← process
  let (result, assigned) := Arithmetic.evaluate p.value? t
  assigned.forM fun (name, n) => setVariable name (Text.ofInt n)
  let complainAbout (reason : Text) : Act Int :=
    fail ("arithmetic expression: ".toList ++ reason ++ ": \"".toList ++ t ++ ['"'])
  match result with
  | .ok n => return n
  | .error (.malformed reason) => complainAbout reason.toList
  | .error .divisionByZero => complainAbout "division by zero".toList
  | .error (.badNumber t) => failNumber t
  | .error .overflow => throw (.killed 8)

/-- What a command writes, as it is put into a word: without zero characters, and without the
line ends at its end. -/
def commandValue (t : Text) : Text :=
  ((t.filter (· != '\x00')).reverse.dropWhile (· == '\n')).reverse

mutual

/-- Expand parts.  `quoted` says that double quotes are around all of them, `inner` that they
stand in an expansion, so what is not quoted among them is cut; `atHome` that a home directory
may stand here, `isOpen` that a quotation is open, and `passed` counts the parts of a home
directory that was put in. -/
def expandParts (run : RunExpanded) (purpose : Purpose) (quoted inner : Bool) :
    Bool → Bool → Nat → List Part → Act (List Segment)
  | _, _, _, [] => return []
  | atHome, isOpen, passed + 1, _ :: rest =>
    expandParts run purpose quoted inner atHome isOpen passed rest
  | atHome, isOpen, 0, part :: rest => do
    match part with
    | .char c isQuoted =>
      let home? ← if atHome && c == '~' && !isQuoted then
          match userName? purpose.assignment rest with
          | some user => do
            match (← process).home? user with
            | some home => pure (some (home, user.length))
            | none => pure none
          | none => pure none
        else pure none
      match home? with
      | some (home, count) =>
        let more ← expandParts run purpose quoted inner false isOpen count rest
        return .quoted home :: more
      | none =>
        let again := purpose.assignment && !isQuoted && (c == '=' || c == ':')
        let more ← expandParts run purpose quoted inner again isOpen 0 rest
        if isQuoted || quoted || isOpen then return .together [.char c true] :: more
        else if inner then return .loose c :: more
        else return .together [.char c false] :: more
    | .quote =>
      -- The arguments between double quotes make no word when there are none.
      match isOpen, rest with
      | false, .parameter ['@'] .value false [] :: .quote :: _ =>
        let p ← process
        let first := match p.parameter? true purpose.fields ['@'] with
          | some v => p.segments true v
          | none => []
        let more ← expandParts run purpose quoted inner false false 2 rest
        return first ++ more
      | _, _ =>
        let more ← expandParts run purpose quoted inner false (!isOpen) 0 rest
        return .together [.quote] :: more
    | other =>
      let first ← expandPart run purpose (quoted || isOpen) other
      let more ← expandParts run purpose quoted inner false isOpen 0 rest
      return first ++ more

/-- Expand a part that is no character. -/
def expandPart (run : RunExpanded) (purpose : Purpose) (quoted : Bool) :
    Part → Act (List Segment)
  | .char c _ => return [.together [.char c true]]
  | .quote => return [.together [.quote]]
  | .command body => do
    let t := commandValue (← run body)
    return [if quoted then .quoted t else .unquoted t]
  | .arithmetic expression => do
    let inside ← expandParts run .document false false false false 0 expression
    let t := Text.ofInt (← evaluate (textOf inside))
    return [if quoted then .quoted t else .unquoted t]
  | .parameter name operator orEmpty word => do
    let p ← process
    let fields := purpose.fields
    let found := p.parameter? quoted fields name
    let value? := match found with
      | some v => if orEmpty && v.text.isEmpty then none else some v
      | none => none
    let whole (v : Value) : Act (List Segment) := return p.segments quoted v
    let number (n : Nat) : List Segment :=
      [if quoted then .quoted (Text.ofNat n) else .unquoted (Text.ofNat n)]
    let other : Act (List Segment) :=
      expandParts run { purpose with home := true } quoted true true false 0 word
    let withText (t : Text) (v : Value) : Act (List Segment) :=
      return p.segments quoted { v with text := t }
    match operator, value? with
    | .meaningless, _ => fail "Bad substitution".toList
    | .default, some v => whole v
    | .default, none => other
    | .alternative, some _ => other
    | .alternative, none => return []
    | .assign, some v => whole v
    | .assign, none => do
      let inside ← expandParts run .text false false true false 0 word
      let t := textOf inside
      setNamed name t
      return [if quoted then .quoted t else .unquoted t]
    | .demand, some v => whole v
    | .demand, none => do
      let inside ← expandParts run .text false false true false 0 word
      if word.isEmpty then
        failUnset name (if orEmpty then "parameter not set or null".toList
          else "parameter not set".toList)
      else failUnset name (textOf inside)
    | .value, some v => whole v
    | .length, some v => return number v.text.length
    | .dropStart longest, some v => do
      let inside ← expandParts run .text false false true false 0 word
      withText (Glob.dropStart longest (Field.pattern (piecesOf inside)) v.text) v
    | .dropEnd longest, some v => do
      let inside ← expandParts run .text false false true false 0 word
      withText (Glob.dropEnd longest (Field.pattern (piecesOf inside)) v.text) v
    | operator, none =>
      if found.isNone && p.has 'u' then failUnset name "parameter not set".toList
      else if operator = .length then return number 0
      else return []

end

/-! ### Words -/

/-- The segments of a word. -/
def expandWord (run : RunExpanded) (purpose : Purpose) (w : Word) : Act (List Segment) :=
  expandParts run purpose false false purpose.home false 0 w

/-- A word as one text. -/
def expandText (run : RunExpanded) (w : Word) : Act Text := do
  return textOf (← expandWord run .text w)

/-- A word as a pattern. -/
def expandPattern (run : RunExpanded) (w : Word) : Act Text := do
  return Field.pattern (piecesOf (← expandWord run .text w))

/-- An assignment as one text. -/
def expandAssignment (run : RunExpanded) (w : Word) : Act Text := do
  return textOf (← expandWord run .assign w)

/-- The paths that a field matches, or the field itself. -/
def State.matching (s : State) (f : Field) : List Text :=
  let paths := if s.process.has 'f' then []
    else Glob.paths s.system.files s.process.directory (Field.pattern f)
  if paths.isEmpty then [Field.text f] else paths

/-- A word as arguments of a command. -/
def expandFields (run : RunExpanded) (w : Word) : Act (List Text) := do
  let segments ← expandWord run .argument w
  let s ← get
  let fields := splitFields s.process.separators none segments
  return fields.flatMap s.matching

/-- The text of a document. -/
def expandDocument (run : RunExpanded) (d : Document) : Act Text := do
  if d.literal then return Word.unquoted d.body
  return textOf (← expandParts run .document true false false false 0 d.body)

end CommandShell.Script
