import CommandShell.Pattern.ClassReader
import CommandShell.Text.Number
import CommandShell.Unicode.Letter

/-!
# Reading patterns

A pattern is read from left to right with a stack of what is still open: a group with what
stands before it, or an alternation with the branches before the current one.  Every step
reads at least one character, so as many steps as there are characters are enough.
-/

namespace CommandShell.Pattern

/-- The parts read so far of the current branch. -/
structure PartList where
  start : Nat
  parts : List Tree
deriving Repr

/-- The parts as one tree, which ends at a place. -/
def PartList.toTree (l : PartList) (stop : Nat) : Tree :=
  match l.parts with
  | [] => .empty ⟨l.start, stop⟩
  | [part] => part
  | parts => .concat ⟨l.start, stop⟩ parts

/-- What is still open in a pattern. -/
inductive Frame where
  /-- A group, with what stands before it, the span of its parenthesis, whether it captures,
  its flags, and whether blanks counted before it. -/
  | group (before : PartList) (span : Span) (capturing : Bool) (flags : Flags) (verbose : Bool)
  /-- The branches before the current one. -/
  | alternation (start : Nat) (branches : List Tree)
deriving Repr

/-- Where the reading of a pattern stands. -/
structure ParseState where
  stack : List Frame
  parts : PartList
  reader : Reader
  /-- The names of groups, with where they stand. -/
  names : List (Text × Span)
deriving Repr

namespace ParseState

/-- One more part, read up to a place. -/
def push (s : ParseState) (part : Tree) (r : Reader) : ParseState :=
  { s with parts := { s.parts with parts := s.parts.parts ++ [part] }, reader := r }

/-! ### Flags and groups -/

/-- The flag of a letter. -/
def flagOf? : Char → Option Flag
  | 'i' => some .ignoreCase
  | 'm' => some .multiLine
  | 's' => some .dotAll
  | 'U' => some .swapGreed
  | 'u' => some .unicode
  | 'R' => some .carriageReturn
  | 'x' => some .verbose
  | _ => none

/-- The letters between `(?` and `)` or `:`, with where the hyphen stands. -/
structure FlagState where
  flags : List (Flag × Bool × Span)
  hyphen : Option Span
  /-- The hyphen is the last thing read. -/
  dangling : Bool
deriving Repr

/-- Read flags up to `)` or `:`, of which the reader is left in front. -/
def readFlags : Nat → FlagState → Reader → Except Fault (Flags × Reader)
  | 0, _, r => .error (.here .flagUnexpectedEnd r.span)
  | n + 1, s, r =>
    match r.rest with
    | [] => .error (.here .flagUnexpectedEnd r.span)
    | c :: _ =>
      if c = ':' || c = ')' then
        match s.dangling, s.hyphen with
        | true, some span => .error (.here .flagDanglingNegation span)
        | _, _ => .ok (s.flags.map fun (f, on, _) => (f, on), r)
      else if c = '-' then
        match s.hyphen with
        | some span => .error ⟨.flagRepeatedNegation, r.charSpan, some span⟩
        | none => readFlags n { s with hyphen := some r.charSpan, dangling := true } r.next
      else match flagOf? c with
        | none => .error (.here .flagUnrecognized r.charSpan)
        | some f =>
          match s.flags.find? (·.1 = f) with
          | some (_, _, span) => .error ⟨.flagDuplicate, r.charSpan, some span⟩
          | none =>
            let flags := s.flags ++ [(f, s.hyphen.isNone, r.charSpan)]
            readFlags n { s with flags := flags, dangling := false } r.next

/-- A character of the name of a group; the first may be only a letter or `_`. -/
def isGroupNameChar (isFirst : Bool) (c : Char) : Bool :=
  c == '_' || Unicode.isLetter c ||
    (!isFirst && (Unicode.isNumber c || c == '.' || c == '[' || c == ']'))

/-- Over the name of a group, up to `>`.  A character that cannot be in a name is a fault. -/
def groupName : Bool → Reader → Text → Except Fault Text
  | _, _, [] => .ok []
  | isFirst, r, c :: rest =>
    if c = '>' then .ok []
    else if !isGroupNameChar isFirst c then .error (.here .groupNameInvalid r.charSpan)
    else (groupName false r.next rest).map (c :: ·)

/-- Open a group. -/
def openGroup (s : ParseState) (opened : Span) (capturing : Bool) (flags : Flags) (r : Reader) :
    ParseState :=
  let verbose := (flags.lookup .verbose).getD r.verbose
  { s with
    stack := .group s.parts opened capturing flags s.reader.verbose :: s.stack
    parts := ⟨r.position, []⟩
    reader := { r with verbose := verbose } }

/-- A group with a name.  The reader is after the `<`. -/
def namedGroup (s : ParseState) (opened : Span) (r : Reader) : Except Fault ParseState :=
  if r.atEnd then .error (.here .groupNameUnexpectedEnd r.span)
  else match groupName true r r.rest with
    | .error e => .error e
    | .ok name =>
      let r₁ := r.skip name.length
      if r₁.atEnd then .error (.here .groupNameUnexpectedEnd r₁.span)
      else if name.isEmpty then .error (.here .groupNameEmpty r.span)
      else
        let span := r₁.spanFrom r.position
        match s.names.lookup name with
        | some earlier => .error ⟨.groupNameDuplicate, span, some earlier⟩
        | none => .ok ((openGroup s opened true [] r₁.next) |> fun s' =>
            { s' with names := s'.names ++ [(name, span)] })

/-- A group with flags, or a directive.  The reader is after the `?`, and `inner` is where
the parenthesis ends. -/
def flagGroup (s : ParseState) (opened : Span) (inner : Nat) (r : Reader) :
    Except Fault ParseState :=
  if r.atEnd then .error (.here .groupUnclosed opened)
  else match readFlags (r.rest.length + 1) ⟨[], none, false⟩ r with
    | .error e => .error e
    | .ok (flags, r₁) =>
      let r₂ := r₁.next
      if r₁.peek? = some ')' then
        if flags.isEmpty then .error (.here .repetitionMissing (Span.point inner))
        else
          let verbose := (flags.lookup .verbose).getD r₂.verbose
          .ok (s.push (.directive (r₂.spanFrom opened.start) flags) { r₂ with verbose := verbose })
      else .ok (openGroup s opened false flags r₂)

/-- An opening parenthesis. -/
def openParenthesis (s : ParseState) : Except Fault ParseState :=
  let opened := s.reader.charSpan
  let r := s.reader.nextSpaced
  let look := (r.skipText? "?=").or ((r.skipText? "?!").or
    ((r.skipText? "?<=").or (r.skipText? "?<!")))
  match look, (r.skipText? "?P<").or (r.skipText? "?<"), r.skipText? "?" with
  | some r', _, _ => .error (.here .lookAround (r'.spanFrom opened.start))
  | none, some r', _ => namedGroup s opened r'
  | none, none, some r' => flagGroup s opened r.position r'
  | none, none, none => .ok (openGroup s opened true [] r)

/-- A closing parenthesis: the innermost group is a part of what stands before it. -/
def closeParenthesis (s : ParseState) : Except Fault ParseState :=
  let stop := s.reader.position
  let r := s.reader.next
  let close (before : PartList) (span : Span) (capturing : Bool) (flags : Flags)
      (verbose : Bool) (rest : List Frame) (body : Tree) : ParseState :=
    { s with
      stack := rest
      parts := { before with
        parts := before.parts ++ [.group ⟨span.start, r.position⟩ capturing flags body] }
      reader := { r with verbose := verbose } }
  match s.stack with
  | .group before span capturing flags verbose :: rest =>
    .ok (close before span capturing flags verbose rest (s.parts.toTree stop))
  | .alternation start branches :: .group before span capturing flags verbose :: rest =>
    .ok (close before span capturing flags verbose rest
      (.alternation ⟨start, stop⟩ (branches ++ [s.parts.toTree stop])))
  | _ => .error (.here .groupUnopened s.reader.charSpan)

/-- A bar: the current branch is done. -/
def bar (s : ParseState) : ParseState :=
  let stop := s.reader.position
  let r := s.reader.next
  let branch := s.parts.toTree stop
  let stack : List Frame := match s.stack with
    | .alternation start branches :: rest => .alternation start (branches ++ [branch]) :: rest
    | stack => .alternation s.parts.start [branch] :: stack
  { s with stack := stack, parts := ⟨r.position, []⟩, reader := r }

/-! ### Repetitions -/

/-- The last part, which a repetition applies to, and the parts before it. -/
def repeated (s : ParseState) : Except Fault (PartList × Tree) :=
  match s.parts.parts.reverse with
  | [] => .error (.here .repetitionMissing s.reader.span)
  | .empty _ :: _ => .error (.here .repetitionMissing s.reader.span)
  | .directive _ _ :: _ => .error (.here .repetitionMissing s.reader.span)
  | part :: before => .ok ({ s.parts with parts := before.reverse }, part)

/-- Repeat a part, in place of it. -/
def pushRepetition (s : ParseState) (before : PartList) (part : Tree) (least : Nat)
    (most : Option Nat) (greedy : Bool) (r : Reader) : ParseState :=
  let span : Span := ⟨part.span.start, r.position⟩
  { s with
    parts := { before with parts := before.parts ++ [.repetition span least most greedy part] }
    reader := r }

/-- `?`, `*` or `+`, and a `?` after it. -/
def operator (least : Nat) (most : Option Nat) (s : ParseState) : Except Fault ParseState :=
  match s.repeated with
  | .error e => .error e
  | .ok (before, part) =>
    let r := s.reader.next
    let greedy := r.peek? ≠ some '?'
    .ok (pushRepetition s before part least most greedy (if greedy then r else r.next))

/-- Over blanks, whether they count or not. -/
def skipBlanks (r : Reader) : Reader :=
  r.skip (r.rest.takeWhile Text.isBlank).length

/-- A decimal number of 32 bits with blanks around it, and the place after it. -/
def decimal (r : Reader) : Except Fault Nat × Reader :=
  let r₁ := skipBlanks r
  let (digits, r₂) := r₁.collect Text.isDigit
  let span := r₂.spanFrom r₁.position
  let r₃ := (skipBlanks r₂).skipSpace
  let value := digits.foldl (fun n c => 10 * n + Text.digitValue c) 0
  if digits.isEmpty then (.error (.here .repetitionCountDecimalEmpty span), r₃)
  else if 4294967296 ≤ value then (.error (.here .decimalInvalid span), r₃)
  else (.ok value, r₃)

/-- The closing brace of a count, and a `?` after it. -/
def closeCount (s : ParseState) (before : PartList) (part : Tree) (least : Nat)
    (most : Option Nat) (r : Reader) : Except Fault ParseState :=
  let start := s.reader.position
  if r.peek? ≠ some '\x7d' then .error (.here .repetitionCountUnclosed (r.spanFrom start))
  else
    let r₁ := r.nextSpaced
    let greedy := r₁.peek? ≠ some '?'
    let r₂ := if greedy then r₁ else r₁.next
    if most.any (· < least) then
      .error (.here .repetitionCountInvalid (r₂.spanFrom start))
    else .ok (pushRepetition s before part least most greedy r₂)

/-- A count in braces. -/
def count (s : ParseState) : Except Fault ParseState :=
  let start := s.reader.position
  let unclosed (r : Reader) : Except Fault ParseState :=
    .error (.here .repetitionCountUnclosed (r.spanFrom start))
  match s.repeated with
  | .error e => .error e
  | .ok (before, part) =>
    let r₁ := s.reader.nextSpaced
    if r₁.atEnd then unclosed r₁
    else
      let (least, r₂) := decimal r₁
      if r₂.atEnd then unclosed r₂
      else if r₂.peek? ≠ some ',' then
        match least with
        | .error e => .error e
        | .ok least => closeCount s before part least (some least) r₂
      else
        let r₃ := r₂.nextSpaced
        if r₃.atEnd then unclosed r₃
        else match least with
          | .error e => .error e
          | .ok least =>
            if r₃.peek? = some '\x7d' then closeCount s before part least none r₃
            else match decimal r₃ with
              | (.error e, _) => .error e
              | (.ok most, r₄) => closeCount s before part least (some most) r₄

/-! ### The whole pattern -/

/-- A part that is none of the above. -/
def atom (s : ParseState) (c : Char) : Except Fault ParseState :=
  let r := s.reader
  if c = '\\' then
    match r.escape with
    | .error e => .error e
    | .ok (a, r') => .ok (s.push a.toTree r')
  else
    let a : Atom :=
      if c = '.' then .dot r.charSpan
      else if c = '^' then .assertion r.charSpan .startLine
      else if c = '$' then .assertion r.charSpan .endLine
      else .literal ⟨r.charSpan, c, false⟩
    .ok (s.push a.toTree r.next)

/-- One step of reading a pattern that is not at its end. -/
def step (s : ParseState) (c : Char) : Except Fault ParseState :=
  if c = '(' then s.openParenthesis
  else if c = ')' then s.closeParenthesis
  else if c = '|' then .ok s.bar
  else if c = '[' then
    match s.reader.bracketed with
    | .error e => .error e
    | .ok (tree, r) => .ok (s.push tree r)
  else if c = '?' then s.operator 0 (some 1)
  else if c = '*' then s.operator 0 none
  else if c = '+' then s.operator 1 none
  else if c = '\x7b' then s.count
  else s.atom c

/-- The tree of a pattern that has been read to its end. -/
def finish (s : ParseState) : Except Fault Tree :=
  let stop := s.reader.position
  match s.stack with
  | [] => .ok (s.parts.toTree stop)
  | [.alternation start branches] =>
    .ok (.alternation ⟨start, stop⟩ (branches ++ [s.parts.toTree stop]))
  | .group _ span _ _ _ :: _ => .error (.here .groupUnclosed span)
  | .alternation _ _ :: .group _ span _ _ _ :: _ => .error (.here .groupUnclosed span)
  | .alternation _ _ :: .alternation _ _ :: _ => .error (.here .groupUnclosed s.reader.span)

/-- Read on for at most the given number of steps. -/
def run : Nat → ParseState → Except Fault Tree
  | 0, s => s.finish
  | n + 1, s =>
    let s := { s with reader := s.reader.skipSpace }
    match s.reader.peek? with
    | none => s.finish
    | some c =>
      match s.step c with
      | .error e => .error e
      | .ok s' => run n s'

end ParseState

/-! ### Depth -/

/-- Patterns are nested at most this deep. -/
def nestLimit : Nat := 250

mutual

/-- The first set in a class that lies too deep, below the given depth. -/
def ClassSet.tooDeep? (depth : Nat) : ClassSet → Option Span
  | .bracketed span _ set =>
    if nestLimit ≤ depth then some span else set.tooDeep? (depth + 1)
  | .union span items =>
    if nestLimit ≤ depth then some span else ClassSet.anyTooDeep? (depth + 1) items
  | .operation span _ left right =>
    if nestLimit ≤ depth then some span
    else (left.tooDeep? (depth + 1)).or (right.tooDeep? (depth + 1))
  | _ => none

/-- The first set of a list that lies too deep. -/
def ClassSet.anyTooDeep? (depth : Nat) : List ClassSet → Option Span
  | [] => none
  | item :: rest => (item.tooDeep? depth).or (ClassSet.anyTooDeep? depth rest)

end

mutual

/-- The first node of a tree that lies too deep, below the given depth. -/
def Tree.tooDeep? (depth : Nat) : Tree → Option Span
  | .bracketed span _ set =>
    if nestLimit ≤ depth then some span else set.tooDeep? (depth + 1)
  | .repetition span _ _ _ body =>
    if nestLimit ≤ depth then some span else body.tooDeep? (depth + 1)
  | .group span _ _ body =>
    if nestLimit ≤ depth then some span else body.tooDeep? (depth + 1)
  | .alternation span branches =>
    if nestLimit ≤ depth then some span else Tree.anyTooDeep? (depth + 1) branches
  | .concat span parts =>
    if nestLimit ≤ depth then some span else Tree.anyTooDeep? (depth + 1) parts
  | _ => none

/-- The first node of a list of trees that lies too deep. -/
def Tree.anyTooDeep? (depth : Nat) : List Tree → Option Span
  | [] => none
  | t :: rest => (t.tooDeep? depth).or (Tree.anyTooDeep? depth rest)

end

/-- Read a pattern. -/
def parse (pattern : Text) : Except Fault Tree :=
  match ParseState.run (pattern.length + 1) ⟨[], ⟨0, []⟩, ⟨0, pattern, false⟩, []⟩ with
  | .error e => .error e
  | .ok tree =>
    match tree.tooDeep? 0 with
    | some span => .error (.here (.nestLimitExceeded nestLimit) span)
    | none => .ok tree

end CommandShell.Pattern
