import CommandShell.Pattern.Syntax

/-!
# Faults of patterns

A fault has a kind and the span of the text it was found in; a few point at an earlier
place as well.  `Fault.message` shows the pattern with the spans marked by `^` below them.
A pattern of several lines is shown between two rules, with the lines numbered.
-/

namespace CommandShell.Pattern

/-- What is wrong with a pattern. -/
inductive FaultKind where
  | classEscapeInvalid
  | classRangeInvalid
  | classRangeLiteral
  | classUnclosed
  | decimalEmpty
  | decimalInvalid
  | escapeHexEmpty
  | escapeHexInvalid
  | escapeHexInvalidDigit
  | escapeUnexpectedEnd
  | escapeUnrecognized
  | flagDanglingNegation
  | flagDuplicate
  | flagRepeatedNegation
  | flagUnexpectedEnd
  | flagUnrecognized
  | groupNameDuplicate
  | groupNameEmpty
  | groupNameInvalid
  | groupNameUnexpectedEnd
  | groupUnclosed
  | groupUnopened
  | nestLimitExceeded (limit : Nat)
  | repetitionCountInvalid
  | repetitionCountDecimalEmpty
  | repetitionCountUnclosed
  | repetitionMissing
  | wordBoundaryUnclosed
  | wordBoundaryUnrecognized
  | wordBoundaryUnexpectedEnd
  | propertyInvalid
  | backreference
  | lookAround
  | unicodeNotAllowed
  | invalidUtf8
  | propertyNotFound
  | propertyValueNotFound
deriving Repr, DecidableEq

/-- The wording of a kind of fault. -/
def FaultKind.message : FaultKind → String
  | .classEscapeInvalid => "invalid escape sequence found in character class"
  | .classRangeInvalid => "invalid character class range, the start must be <= the end"
  | .classRangeLiteral => "invalid range boundary, must be a literal"
  | .classUnclosed => "unclosed character class"
  | .decimalEmpty => "decimal literal empty"
  | .decimalInvalid => "decimal literal invalid"
  | .escapeHexEmpty => "hexadecimal literal empty"
  | .escapeHexInvalid => "hexadecimal literal is not a Unicode scalar value"
  | .escapeHexInvalidDigit => "invalid hexadecimal digit"
  | .escapeUnexpectedEnd => "incomplete escape sequence, reached end of pattern prematurely"
  | .escapeUnrecognized => "unrecognized escape sequence"
  | .flagDanglingNegation => "dangling flag negation operator"
  | .flagDuplicate => "duplicate flag"
  | .flagRepeatedNegation => "flag negation operator repeated"
  | .flagUnexpectedEnd => "expected flag but got end of regex"
  | .flagUnrecognized => "unrecognized flag"
  | .groupNameDuplicate => "duplicate capture group name"
  | .groupNameEmpty => "empty capture group name"
  | .groupNameInvalid => "invalid capture group character"
  | .groupNameUnexpectedEnd => "unclosed capture group name"
  | .groupUnclosed => "unclosed group"
  | .groupUnopened => "unopened group"
  | .nestLimitExceeded limit =>
    "exceed the maximum number of nested parentheses/brackets (" ++
      String.ofList (Text.ofNat limit) ++ ")"
  | .repetitionCountInvalid =>
    "invalid repetition count range, the start must be <= the end"
  | .repetitionCountDecimalEmpty => "repetition quantifier expects a valid decimal"
  | .repetitionCountUnclosed => "unclosed counted repetition"
  | .repetitionMissing => "repetition operator missing expression"
  | .wordBoundaryUnclosed =>
    "special word boundary assertion is either unclosed or contains an invalid character"
  | .wordBoundaryUnrecognized =>
    "unrecognized special word boundary assertion, valid choices are: start, end, " ++
      "start-half or end-half"
  | .wordBoundaryUnexpectedEnd =>
    "found either the beginning of a special word boundary or a bounded repetition on a \\b " ++
      "with an opening brace, but no closing brace"
  | .propertyInvalid => "invalid Unicode character class"
  | .backreference => "backreferences are not supported"
  | .lookAround => "look-around, including look-ahead and look-behind, is not supported"
  | .unicodeNotAllowed => "Unicode not allowed here"
  | .invalidUtf8 => "pattern can match invalid UTF-8"
  | .propertyNotFound => "Unicode property not found"
  | .propertyValueNotFound => "Unicode property value not found"

/-- A fault of a pattern, and where it is. -/
structure Fault where
  kind : FaultKind
  span : Span
  /-- The earlier place that the fault is about as well. -/
  earlier : Option Span
deriving Repr, DecidableEq

/-- A fault at one place. -/
def Fault.here (kind : FaultKind) (span : Span) : Fault :=
  ⟨kind, span, none⟩

/-! ### Lines and columns -/

/-- A place of a pattern by its line and column, both counted from one. -/
structure Place where
  line : Nat
  column : Nat
deriving Repr, DecidableEq

/-- The place after the given number of characters. -/
def Place.of (pattern : Text) (n : Nat) : Place :=
  let before := pattern.take n
  ⟨before.count '\n' + 1, (before.reverse.takeWhile (· != '\n')).length + 1⟩

/-- The lines of a text without their ends, which are `\n` or `\r\n`. -/
def displayLines (t : Text) : List Text :=
  (Text.linesWithEnds t).map fun l =>
    match l.reverse with
    | '\n' :: '\r' :: rest => rest.reverse
    | '\n' :: rest => rest.reverse
    | _ => l

/-! ### The display of a fault -/

/-- A span by places. -/
structure Mark where
  start : Place
  stop : Place
deriving Repr, DecidableEq

/-- The mark is on one line. -/
def Mark.isOneLine (m : Mark) : Bool :=
  m.start.line == m.stop.line

/-- The marks of a fault in the order of their spans. -/
def Fault.marks (pattern : Text) (f : Fault) : List Mark :=
  let mark (s : Span) : Mark := ⟨Place.of pattern s.start, Place.of pattern s.stop⟩
  match f.earlier with
  | none => [mark f.span]
  | some e =>
    if e.start < f.span.start || (e.start = f.span.start && e.stop ≤ f.span.stop) then
      [mark e, mark f.span]
    else [mark f.span, mark e]

/-- The carets of marks on one line, after `done` columns of it. -/
def carets : Nat → List Mark → Text
  | _, [] => []
  | done, m :: rest =>
    let blanks := m.start.column - 1 - done
    let width := max 1 (m.stop.column - m.start.column)
    List.replicate blanks ' ' ++ List.replicate width '^' ++
      carets (done + blanks + width) rest

/-- The number of digits that line numbers take; none for a pattern of one line. -/
def lineNumberWidth (pattern : Text) : Nat :=
  let count := (displayLines pattern).length + (if pattern.getLast? = some '\n' then 1 else 0)
  if count ≤ 1 then 0 else (Text.ofNat count).length

/-- The lines of the pattern, each with the carets that belong below it. -/
def notate (pattern : Text) (marks : List Mark) : Text :=
  let width := lineNumberWidth pattern
  let margin := if width = 0 then 4 else width + 2
  (displayLines pattern).zipIdx.flatMap fun (l, i) =>
    let number := Text.ofNat (i + 1)
    let head := if width = 0 then List.replicate 4 ' '
      else List.replicate (width - number.length) ' ' ++ number ++ ": ".toList
    let notes := marks.filter fun m => m.isOneLine && m.start.line = i + 1
    Text.line (head ++ l) ++
      (if notes.isEmpty then [] else Text.line (List.replicate margin ' ' ++ carets 0 notes))

/-- A mark over several lines in words. -/
def Mark.inWords (m : Mark) : Text :=
  "on line ".toList ++ Text.ofNat m.start.line ++ " (column ".toList ++
    Text.ofNat m.start.column ++ ") through line ".toList ++ Text.ofNat m.stop.line ++
    " (column ".toList ++ Text.ofNat (m.stop.column - 1) ++ ")".toList

/-- The wording of a fault of a pattern. -/
def Fault.message (pattern : Text) (f : Fault) : Text :=
  let marks := f.marks pattern
  let wide := marks.filter (!·.isOneLine)
  let rule := Text.line (List.replicate 79 '~')
  let shown := notate pattern marks
  let body :=
    if pattern.contains '\n' then
      rule ++ shown ++ rule ++
        (if wide.isEmpty then [] else Text.line (Text.joinWith ['\n'] (wide.map Mark.inWords)))
    else shown
  Text.line "regex parse error:".toList ++ body ++ "error: ".toList ++ f.kind.message.toList

end CommandShell.Pattern
