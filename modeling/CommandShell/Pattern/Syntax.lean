import CommandShell.Unicode.Property

/-!
# The syntax of patterns

A pattern is written as a regular expression.  Its syntax tree keeps, with every node, the
span of the text it was read from, because a fault that is found later still has to point
at the place.
-/

namespace CommandShell.Pattern

/-- A part of the text of a pattern: the number of characters before it and up to its end. -/
structure Span where
  start : Nat
  stop : Nat
deriving Repr, DecidableEq

/-- The empty span at a place. -/
def Span.point (n : Nat) : Span :=
  ⟨n, n⟩

/-- What a group or a directive can switch on and off. -/
inductive Flag where
  | ignoreCase
  | multiLine
  | dotAll
  | swapGreed
  | unicode
  | carriageReturn
  | verbose
deriving Repr, DecidableEq

/-- The flags that are set, each with whether it is switched on. -/
abbrev Flags := List (Flag × Bool)

/-- A condition on a place between two characters. -/
inductive Assertion where
  | startLine
  | endLine
  | startText
  | endText
  | wordBoundary
  | notWordBoundary
  | wordStart
  | wordEnd
  | wordStartHalf
  | wordEndHalf
deriving Repr, DecidableEq

/-- The classes `\d`, `\s` and `\w`. -/
inductive LetterClass where
  | digit
  | space
  | word
deriving Repr, DecidableEq

/-- The classes `[:name:]`. -/
inductive NamedClass where
  | alnum
  | alpha
  | ascii
  | blank
  | cntrl
  | digit
  | graph
  | lower
  | print
  | punct
  | space
  | upper
  | word
  | xdigit
deriving Repr, DecidableEq

/-- The class of a name. -/
def NamedClass.ofName? (name : Text) : Option NamedClass :=
  match String.ofList name with
  | "alnum" => some .alnum
  | "alpha" => some .alpha
  | "ascii" => some .ascii
  | "blank" => some .blank
  | "cntrl" => some .cntrl
  | "digit" => some .digit
  | "graph" => some .graph
  | "lower" => some .lower
  | "print" => some .print
  | "punct" => some .punct
  | "space" => some .space
  | "upper" => some .upper
  | "word" => some .word
  | "xdigit" => some .xdigit
  | _ => none

/-- The ranges of a named class. -/
def NamedClass.ranges : NamedClass → List (Nat × Nat)
  | .alnum => [(0x30, 0x39), (0x41, 0x5A), (0x61, 0x7A)]
  | .alpha => [(0x41, 0x5A), (0x61, 0x7A)]
  | .ascii => [(0, 0x7F)]
  | .blank => [(0x09, 0x09), (0x20, 0x20)]
  | .cntrl => [(0, 0x1F), (0x7F, 0x7F)]
  | .digit => [(0x30, 0x39)]
  | .graph => [(0x21, 0x7E)]
  | .lower => [(0x61, 0x7A)]
  | .print => [(0x20, 0x7E)]
  | .punct => [(0x21, 0x2F), (0x3A, 0x40), (0x5B, 0x60), (0x7B, 0x7E)]
  | .space => [(0x09, 0x0D), (0x20, 0x20)]
  | .upper => [(0x41, 0x5A)]
  | .word => [(0x30, 0x39), (0x41, 0x5A), (0x5F, 0x5F), (0x61, 0x7A)]
  | .xdigit => [(0x30, 0x39), (0x41, 0x46), (0x61, 0x66)]

/-- A character that stands for itself, however it is written. -/
structure Literal where
  span : Span
  char : Char
  /-- It is written as `\x` with two digits, which can stand for a byte. -/
  isByte : Bool
deriving Repr, DecidableEq

/-- How two sets in a class are combined. -/
inductive SetOperation where
  | intersection
  | difference
  | symmetricDifference
deriving Repr, DecidableEq

/-- What stands between the brackets of a class. -/
inductive ClassSet where
  | empty (span : Span)
  | literal (literal : Literal)
  | range (span : Span) (first last : Literal)
  | named (span : Span) (negated : Bool) (name : NamedClass)
  | letter (span : Span) (negated : Bool) (name : LetterClass)
  | property (span : Span) (negated : Bool) (query : Unicode.Query)
  | bracketed (span : Span) (negated : Bool) (set : ClassSet)
  | union (span : Span) (items : List ClassSet)
  | operation (span : Span) (kind : SetOperation) (left right : ClassSet)
deriving Repr

/-- The text a set was read from. -/
def ClassSet.span : ClassSet → Span
  | .empty span => span
  | .literal l => l.span
  | .range span _ _ => span
  | .named span _ _ => span
  | .letter span _ _ => span
  | .property span _ _ => span
  | .bracketed span _ _ => span
  | .union span _ => span
  | .operation span _ _ _ => span

/-- The syntax tree of a pattern. -/
inductive Tree where
  | empty (span : Span)
  /-- A directive `(?flags)`, which holds up to the end of its group. -/
  | directive (span : Span) (flags : Flags)
  | literal (literal : Literal)
  | dot (span : Span)
  | assertion (span : Span) (kind : Assertion)
  | letter (span : Span) (negated : Bool) (name : LetterClass)
  | property (span : Span) (negated : Bool) (query : Unicode.Query)
  | bracketed (span : Span) (negated : Bool) (set : ClassSet)
  /-- From `least` to `most` times, or without a bound.  A greedy one prefers more times. -/
  | repetition (span : Span) (least : Nat) (most : Option Nat) (greedy : Bool) (body : Tree)
  /-- A group.  A capturing one keeps what it matches. -/
  | group (span : Span) (capturing : Bool) (flags : Flags) (body : Tree)
  | alternation (span : Span) (branches : List Tree)
  | concat (span : Span) (parts : List Tree)
deriving Repr

/-- The text a tree was read from. -/
def Tree.span : Tree → Span
  | .empty span => span
  | .directive span _ => span
  | .literal l => l.span
  | .dot span => span
  | .assertion span _ => span
  | .letter span _ _ => span
  | .property span _ _ => span
  | .bracketed span _ _ => span
  | .repetition span _ _ _ _ => span
  | .group span _ _ _ => span
  | .alternation span _ => span
  | .concat span _ => span

end CommandShell.Pattern
