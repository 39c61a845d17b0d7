import CommandShell.Pattern.Reader

/-!
# Escapes

What a backslash begins: a character written by its code, a class of characters, a place
such as a word boundary, or a character with its special meaning taken away.
-/

namespace CommandShell.Pattern

/-- The smallest parts of a pattern. -/
inductive Atom where
  | literal (literal : Literal)
  | dot (span : Span)
  | assertion (span : Span) (kind : Assertion)
  | letter (span : Span) (negated : Bool) (name : LetterClass)
  | property (span : Span) (negated : Bool) (query : Unicode.Query)
deriving Repr, DecidableEq

namespace Atom

/-- The text an atom was read from. -/
def span : Atom → Span
  | literal l => l.span
  | dot span => span
  | assertion span _ => span
  | letter span _ _ => span
  | property span _ _ => span

/-- An atom as a pattern. -/
def toTree : Atom → Tree
  | literal l => .literal l
  | dot span => .dot span
  | assertion span kind => .assertion span kind
  | letter span negated name => .letter span negated name
  | property span negated query => .property span negated query

/-- An atom as an item of a class; places have no meaning there. -/
def toClassItem : Atom → Except Fault ClassSet
  | literal l => .ok (.literal l)
  | letter span negated name => .ok (.letter span negated name)
  | property span negated query => .ok (.property span negated query)
  | a => .error (.here .classEscapeInvalid a.span)

/-- An atom as an end of a range, which has to be a character. -/
def toRangeEnd : Atom → Except Fault Literal
  | literal l => .ok l
  | a => .error (.here .classRangeLiteral a.span)

end Atom

namespace Reader

/-! ### Characters by their code -/

/-- A hexadecimal digit. -/
def isHex (c : Char) : Bool :=
  Text.isDigit c || ('a' ≤ c && c ≤ 'f') || ('A' ≤ c && c ≤ 'F')

/-- The character of a code, if it is a scalar value. -/
def charOfCode? (n : Nat) : Option Char :=
  if n < 0xD800 || (0xDFFF < n && n ≤ 0x10FFFF) then some (Char.ofNat n) else none

/-- The given number of hexadecimal digits, the first of which is the next character. -/
def hexDigits : Nat → Reader → Except Fault (Text × Reader)
  | 0, r => .ok ([], r)
  | n + 1, r =>
    match r.rest with
    | [] => .error (.here .escapeUnexpectedEnd r.span)
    | c :: _ =>
      if !isHex c then .error (.here .escapeHexInvalidDigit r.charSpan)
      else match hexDigits n r.nextSpaced with
        | .error e => .error e
        | .ok (t, r') => .ok (c :: t, r')

/-- The character of a fixed number of digits.  The escape began at `start`. -/
def hexFixed (start digits : Nat) (r : Reader) : Except Fault (Atom × Reader) :=
  match hexDigits digits r with
  | .error e => .error e
  | .ok (t, r') =>
    match charOfCode? (Unicode.CodeSet.hexNumber t) with
    | none => .error (.here .escapeHexInvalid (r'.spanFrom r.position))
    | some c => .ok (.literal ⟨r'.spanFrom start, c, digits = 2⟩, r')

/-- The character whose digits stand in braces.  The reader is at the opening brace. -/
def hexBraced (start : Nat) (r : Reader) : Except Fault (Atom × Reader) :=
  let (digits, r₁) := r.nextSpaced.collect isHex
  match r₁.rest with
  | [] => .error (.here .escapeUnexpectedEnd (r₁.spanFrom r.position))
  | c :: _ =>
    if c ≠ '}' then .error (.here .escapeHexInvalidDigit r₁.charSpan)
    else
      let r₂ := r₁.nextSpaced
      if digits.isEmpty then .error (.here .escapeHexEmpty (r₂.spanFrom r.position))
      else match charOfCode? (Unicode.CodeSet.hexNumber digits) with
        | none => .error (.here .escapeHexInvalid ⟨r.position + 1, r₁.position⟩)
        | some c => .ok (.literal ⟨r₂.spanFrom start, c, false⟩, r₂)

/-- A character by its code.  The reader is at the letter that says how many digits there
are. -/
def hexEscape (start digits : Nat) (r : Reader) : Except Fault (Atom × Reader) :=
  let r₁ := r.nextSpaced
  match r₁.rest with
  | [] => .error (.here .escapeUnexpectedEnd r₁.span)
  | c :: _ => if c = '\x7b' then hexBraced start r₁ else hexFixed start digits r₁

/-! ### Properties -/

/-- A text cut in two at the first occurrence of another. -/
def cutAt? (mark : Text) : Text → Option (Text × Text)
  | [] => none
  | c :: rest =>
    if mark.isPrefixOf (c :: rest) then some ([], (c :: rest).drop mark.length)
    else (cutAt? mark rest).map fun (a, b) => (c :: a, b)

/-- What the text in the braces of a property asks for, and whether it asks for the characters
that do not have the value, which it does with `!=`. -/
def queryOfText (t : Text) : Unicode.Query × Bool :=
  match cutAt? ['!', '='] t with
  | some (name, value) => (.valued name value, true)
  | none =>
    match (cutAt? [':'] t).or (cutAt? ['='] t) with
    | some (name, value) => (.valued name value, false)
    | none => (.named t, false)

/-- A class by a property.  The reader is at the letter `p` or `P`. -/
def propertyEscape (start : Nat) (negated : Bool) (r : Reader) :
    Except Fault (Atom × Reader) :=
  let r₁ := r.nextSpaced
  match r₁.rest with
  | [] => .error (.here .escapeUnexpectedEnd r₁.span)
  | c :: _ =>
    if c = '\x7b' then
      let (t, r₂) := r₁.nextSpaced.collect (· != '\x7d')
      if r₂.atEnd then .error (.here .escapeUnexpectedEnd r₂.span)
      else
        let r₃ := r₂.next
        let (query, differs) := queryOfText t
        .ok (.property (r₃.spanFrom start) (negated != differs) query, r₃)
    else if c = '\\' then .error (.here .propertyInvalid r₁.charSpan)
    else
      let r₂ := r₁.nextSpaced
      .ok (.property (r₂.spanFrom start) negated (.named [c]), r₂)

/-! ### Word boundaries -/

/-- The characters in the name of a word boundary. -/
def isBoundaryChar (c : Char) : Bool :=
  Text.isLetter c || c == '-'

/-- The word boundary of a name. -/
def boundaryOfName? (name : Text) : Option Assertion :=
  match String.ofList name with
  | "start" => some .wordStart
  | "end" => some .wordEnd
  | "start-half" => some .wordStartHalf
  | "end-half" => some .wordEndHalf
  | _ => none

/-- A name in braces after `\b`.  Anything but a name there is left for a repetition. -/
def boundaryName (start : Nat) (r : Reader) : Except Fault (Option Assertion × Reader) :=
  let r₁ := r.nextSpaced
  match r₁.rest with
  | [] => .error (.here .wordBoundaryUnexpectedEnd (r₁.spanFrom start))
  | c :: _ =>
    if !isBoundaryChar c then .ok (none, r)
    else
      let (name, r₂) := r₁.collect isBoundaryChar
      if r₂.peek? ≠ some '\x7d' then
        .error (.here .wordBoundaryUnclosed (r₂.spanFrom r.position))
      else match boundaryOfName? name with
        | none => .error (.here .wordBoundaryUnrecognized (r₂.spanFrom r₁.position))
        | some kind => .ok (some kind, r₂.next)

/-! ### All escapes -/

/-- The characters that have a special meaning somewhere in a pattern. -/
def isMeta (c : Char) : Bool :=
  "\\.+*?()|[]\x7b\x7d^$#&-~".toList.contains c

/-- The characters that may follow a backslash to stand for themselves. -/
def isEscapable (c : Char) : Bool :=
  isMeta c ||
    (c.toNat < 128 && !Text.isLetter c && !Text.isDigit c && c != '<' && c != '>')

/-- The character that a letter after a backslash stands for. -/
def specialChar? : Char → Option Char
  | 'a' => some '\x07'
  | 'f' => some '\x0c'
  | 't' => some '\t'
  | 'n' => some '\n'
  | 'r' => some '\r'
  | 'v' => some '\x0b'
  | _ => none

/-- The place that a character after a backslash stands for, the word boundary excepted. -/
def placeEscape? : Char → Option Assertion
  | 'A' => some .startText
  | 'z' => some .endText
  | 'B' => some .notWordBoundary
  | '<' => some .wordStart
  | '>' => some .wordEnd
  | _ => none

/-- The class that a letter after a backslash stands for, and whether it is negated. -/
def letterEscape? : Char → Option (Bool × LetterClass)
  | 'd' => some (false, .digit)
  | 's' => some (false, .space)
  | 'w' => some (false, .word)
  | 'D' => some (true, .digit)
  | 'S' => some (true, .space)
  | 'W' => some (true, .word)
  | _ => none

/-- Read an escape.  The reader is at the backslash. -/
def escape (r : Reader) : Except Fault (Atom × Reader) :=
  let start := r.position
  let r₁ := r.next
  match r₁.rest with
  | [] => .error (.here .escapeUnexpectedEnd (r₁.spanFrom start))
  | c :: _ =>
    let r₂ := r₁.next
    let span := r₂.spanFrom start
    if Text.isDigit c then .error (.here .backreference span)
    else if c = 'x' then hexEscape start 2 r₁
    else if c = 'u' then hexEscape start 4 r₁
    else if c = 'U' then hexEscape start 8 r₁
    else if c = 'p' then propertyEscape start false r₁
    else if c = 'P' then propertyEscape start true r₁
    else if isEscapable c then .ok (.literal ⟨span, c, false⟩, r₂)
    else if c = 'b' then
      if r₂.peek? = some '\x7b' then
        match boundaryName start r₂ with
        | .error e => .error e
        | .ok (some kind, r₃) => .ok (.assertion (r₃.spanFrom start) kind, r₃)
        | .ok (none, _) => .ok (.assertion span .wordBoundary, r₂)
      else .ok (.assertion span .wordBoundary, r₂)
    else match letterEscape? c, specialChar? c, placeEscape? c with
      | some (negated, name), _, _ => .ok (.letter span negated name, r₂)
      | _, some d, _ => .ok (.literal ⟨span, d, false⟩, r₂)
      | _, _, some kind => .ok (.assertion span kind, r₂)
      | _, _, _ => .error (.here .escapeUnrecognized span)

end Reader

end CommandShell.Pattern
