import CommandShell.Pattern.Parser
import CommandShell.Unicode.Fold

/-!
# Expressions

The meaning of a pattern is built from sets of characters, conditions on places, sequence,
choice and repetition.  `Tree.toExpr` works out what the flags make of each part: which
characters a class holds, whether case counts, and whether `^` and `$` stand for lines.

Without the flag `unicode` a pattern is about bytes.  As it is matched against text only,
a part that could match a byte that is no character is refused.
-/

namespace CommandShell.Pattern

open Unicode (CodeSet)

/-- How the characters before and after a place are related, as characters of words. -/
inductive WordRelation where
  /-- Exactly one of them is in a word. -/
  | boundary
  /-- Both are in a word, or none is. -/
  | noBoundary
  | wordStart
  | wordEnd
  /-- The one before is in no word. -/
  | startHalf
  /-- The one after is in no word. -/
  | endHalf
deriving Repr, DecidableEq

/-- The relation holds, when the two flags say which characters are in a word. -/
def WordRelation.holds (before after : Bool) : WordRelation → Bool
  | boundary => before != after
  | noBoundary => before == after
  | wordStart => !before && after
  | wordEnd => before && !after
  | startHalf => !before
  | endHalf => !after

/-- A condition on a place between two characters. -/
inductive Look where
  /-- The beginning of the text. -/
  | start
  /-- The end of the text. -/
  | stop
  /-- The beginning of a line, which `\n` ends, or `\r` and `\r\n` too. -/
  | lineStart (carriageReturn : Bool)
  /-- The end of a line. -/
  | lineStop (carriageReturn : Bool)
  /-- A relation between the characters before and after: each is one of a word or not.  The
  flag says that words of all scripts count. -/
  | word (unicode : Bool) (relation : WordRelation)
deriving Repr, DecidableEq

/-- What a pattern matches. -/
inductive Expr where
  /-- Nothing, at any place. -/
  | empty
  /-- A character of a set.  The flag says that the set was written as one of bytes; its
  characters are then those of one byte. -/
  | set (bytes : Bool) (s : CodeSet)
  /-- Nothing, at a place with a condition. -/
  | look (l : Look)
  /-- One after the other. -/
  | concat (a b : Expr)
  /-- One or the other. -/
  | either (a b : Expr)
  /-- From `least` to `most` times, or without a bound.  The flag says which of several matches
  is preferred; whether there is one does not depend on it. -/
  | repeated (least : Nat) (most : Option Nat) (greedy : Bool) (body : Expr)
  /-- A group that keeps what it matches, told apart from others by where it begins. -/
  | capture (start : Nat) (body : Expr)

/-- The flags in force at a place of a pattern. -/
structure Mode where
  ignoreCase : Bool
  multiLine : Bool
  dotAll : Bool
  unicode : Bool
  carriageReturn : Bool
  swapGreed : Bool
deriving Repr, DecidableEq

namespace Mode

/-- The flags at the beginning of a pattern. -/
def initial (ignoreCase : Bool) : Mode :=
  ⟨ignoreCase, false, false, true, false, false⟩

/-- One flag set. -/
def set (m : Mode) (f : Flag) (on : Bool) : Mode :=
  match f with
  | .ignoreCase => { m with ignoreCase := on }
  | .multiLine => { m with multiLine := on }
  | .dotAll => { m with dotAll := on }
  | .unicode => { m with unicode := on }
  | .carriageReturn => { m with carriageReturn := on }
  | .swapGreed => { m with swapGreed := on }
  | .verbose => m

/-- Several flags set. -/
def setAll (m : Mode) (flags : Flags) : Mode :=
  flags.foldl (fun m (f, on) => m.set f on) m

/-! ### Sets -/

/-- The set with the cases that do not count added. -/
def fold (m : Mode) (s : CodeSet) : CodeSet :=
  if !m.ignoreCase then s else if m.unicode then s.fold else s.foldAscii

/-- What is not in the set, among the characters or the bytes. -/
def negate (m : Mode) (s : CodeSet) : CodeSet :=
  if m.unicode then s.complement else s.complementWithin 0xFF

/-- A set, unless it holds a byte that is no character. -/
def checked (m : Mode) (span : Span) (s : CodeSet) : Except Fault CodeSet :=
  if !m.unicode && !s.isAscii then .error (.here .invalidUtf8 span) else .ok s

/-- A set with cases added first and then negated. -/
def foldAndNegate (m : Mode) (span : Span) (negated : Bool) (s : CodeSet) :
    Except Fault CodeSet :=
  let folded := m.fold s
  m.checked span (if negated then m.negate folded else folded)

/-- The characters of a class by its letter. -/
def letterClass (m : Mode) (span : Span) (negated : Bool) (name : LetterClass) :
    Except Fault CodeSet :=
  let s : CodeSet := match m.unicode, name with
    | true, .digit => Unicode.digits
    | true, .space => Unicode.spaces
    | true, .word => Unicode.wordCharacters
    | false, .digit => ⟨NamedClass.digit.ranges⟩
    | false, .space => ⟨NamedClass.space.ranges⟩
    | false, .word => ⟨NamedClass.word.ranges⟩
  m.checked span (if negated then m.negate s else s)

/-- The characters of a property. -/
def propertyClass (m : Mode) (span : Span) (negated : Bool) (query : Unicode.Query) :
    Except Fault CodeSet :=
  if !m.unicode then .error (.here .unicodeNotAllowed span)
  else match query.find with
    | .error .noProperty => .error (.here .propertyNotFound span)
    | .error .noValue => .error (.here .propertyValueNotFound span)
    | .ok s => m.foldAndNegate span negated s

/-- The code of a character that is written in a class. -/
def classCode (m : Mode) (l : Literal) : Except Fault Nat :=
  if m.unicode || l.char.toNat < 128 then .ok l.char.toNat
  else if l.isByte then .error (.here .invalidUtf8 l.span)
  else .error (.here .unicodeNotAllowed l.span)

/-- Two sets combined. -/
def operate (kind : SetOperation) (a b : CodeSet) : CodeSet :=
  match kind with
  | .intersection => a.intersection b
  | .difference => a.difference b
  | .symmetricDifference => a.symmetricDifference b

end Mode

mutual

/-- The characters of what stands in a class. -/
def ClassSet.toSet (m : Mode) : ClassSet → Except Fault CodeSet
  | .empty _ => .ok .empty
  | .literal l => do
    let n ← m.classCode l
    .ok (.single n)
  | .range _ first last => do
    let a ← m.classCode first
    let b ← m.classCode last
    .ok (.range a b)
  | .named span negated name => m.foldAndNegate span negated ⟨name.ranges⟩
  | .letter span negated name => m.letterClass span negated name
  | .property span negated query => m.propertyClass span negated query
  | .bracketed span negated set => do
    let s ← set.toSet m
    m.foldAndNegate span negated s
  | .union _ items => ClassSet.toSets m items
  | .operation _ kind left right => do
    let a ← left.toSet m
    let b ← right.toSet m
    .ok (Mode.operate kind (m.fold a) (m.fold b))

/-- The characters of several items of a class. -/
def ClassSet.toSets (m : Mode) : List ClassSet → Except Fault CodeSet
  | [] => .ok .empty
  | item :: rest => do
    let s ← item.toSet m
    let t ← ClassSet.toSets m rest
    .ok (s.union t)

end

namespace Mode

/-- A set as an expression. -/
def charSet (m : Mode) (s : CodeSet) : Expr :=
  .set (!m.unicode) s

/-- A character of a pattern. -/
def literal (m : Mode) (l : Literal) : Except Fault Expr :=
  if !m.unicode && l.isByte && 127 < l.char.toNat then .error (.here .invalidUtf8 l.span)
  else .ok (m.charSet (m.fold (.single l.char.toNat)))

/-- The character `.`. -/
def dot (m : Mode) (span : Span) : Except Fault Expr :=
  if !m.unicode then .error (.here .invalidUtf8 span)
  else
    let excluded : CodeSet :=
      if m.dotAll then .empty
      else if m.carriageReturn then (CodeSet.single 10).union (.single 13)
      else .single 10
    .ok (m.charSet excluded.complement)

/-- A condition on a place. -/
def look (m : Mode) : Assertion → Look
  | .startLine => if m.multiLine then .lineStart m.carriageReturn else .start
  | .endLine => if m.multiLine then .lineStop m.carriageReturn else .stop
  | .startText => .start
  | .endText => .stop
  | .wordBoundary => .word m.unicode .boundary
  | .notWordBoundary => .word m.unicode .noBoundary
  | .wordStart => .word m.unicode .wordStart
  | .wordEnd => .word m.unicode .wordEnd
  | .wordStartHalf => .word m.unicode .startHalf
  | .wordEndHalf => .word m.unicode .endHalf

end Mode

mutual

/-- What a tree matches under the flags in force, and the flags in force after it. -/
def Tree.toExpr (m : Mode) : Tree → Except Fault (Expr × Mode)
  | .empty _ => .ok (.empty, m)
  | .directive _ flags => .ok (.empty, m.setAll flags)
  | .literal l => do
    let e ← m.literal l
    .ok (e, m)
  | .dot span => do
    let e ← m.dot span
    .ok (e, m)
  | .assertion _ kind => .ok (.look (m.look kind), m)
  | .letter span negated name => do
    let s ← m.letterClass span negated name
    .ok (m.charSet s, m)
  | .property span negated query => do
    let s ← m.propertyClass span negated query
    .ok (m.charSet s, m)
  | .bracketed span negated set => do
    let s ← set.toSet m
    let t ← m.foldAndNegate span negated s
    .ok (m.charSet t, m)
  | .repetition _ least most greedy body => do
    let (e, m') ← body.toExpr m
    .ok (.repeated least most (greedy != m'.swapGreed) e, m')
  | .group span capturing flags body => do
    -- The flags of a group, and the directives in it, end with the group.
    let (e, _) ← body.toExpr (m.setAll flags)
    .ok (if capturing then .capture span.start e else e, m)
  | .alternation _ branches => Tree.branchesToExpr m branches
  | .concat _ parts => Tree.partsToExpr m parts

/-- The parts of a sequence, one after the other. -/
def Tree.partsToExpr (m : Mode) : List Tree → Except Fault (Expr × Mode)
  | [] => .ok (.empty, m)
  | part :: rest => do
    let (e, m₁) ← part.toExpr m
    let (f, m₂) ← Tree.partsToExpr m₁ rest
    .ok (.concat e f, m₂)

/-- The branches of a choice.  A directive in one holds in the later ones too.  After the last
branch stands an expression that matches nothing. -/
def Tree.branchesToExpr (m : Mode) : List Tree → Except Fault (Expr × Mode)
  | [] => .ok (.set false .empty, m)
  | branch :: rest => do
    let (e, m₁) ← branch.toExpr m
    let (f, m₂) ← Tree.branchesToExpr m₁ rest
    .ok (.either e f, m₂)

end

end CommandShell.Pattern
