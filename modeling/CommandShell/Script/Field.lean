import CommandShell.Script.Number

/-!
# Splitting into fields

A word that is expanded becomes a list of segments.  Most of it stays together; what came from
an expansion outside of quotes is a region, and is cut at the separators, the characters of the
variable `IFS`.  Blanks among them count once however many there are.  The arguments of a
script, put into a word between double quotes, are cut only where one ends.

A zero character inside of a region is the boundary between two arguments.
-/

namespace CommandShell.Script

/-- A character of an expanded word, or a quotation mark, which only shows that a word is
there. -/
inductive Piece where
  | char (c : Char) (quoted : Bool)
  | quote
deriving Repr, DecidableEq

/-- A part of an expanded word. -/
inductive Segment where
  /-- It stays together. -/
  | together (pieces : List Piece)
  /-- A single character that is cut at, with its neighbours of this kind. -/
  | loose (c : Char)
  /-- It is cut at separators, or only at the boundaries of arguments. -/
  | region (boundariesOnly : Bool) (pieces : List Piece)
deriving Repr, DecidableEq

/-- A field that is left after the cuts. -/
abbrev Field := List Piece

namespace Field

/-- The text of a field. -/
def text (f : Field) : Text :=
  f.filterMap fun
    | .char c _ => if c == '\x00' then none else some c
    | .quote => none

/-- A field as a pattern: a quoted character has a backslash before it, unless there is one
that was not quoted. -/
def patternFrom : Bool → Field → Text
  | _, [] => []
  | free, .quote :: rest => patternFrom free rest
  | free, .char c true :: rest =>
    if free then '\\' :: c :: patternFrom true rest else c :: patternFrom true rest
  | _, .char '\\' false :: rest => '\\' :: patternFrom false rest
  | _, .char c false :: rest => c :: patternFrom true rest

/-- A field as a pattern. -/
def pattern (f : Field) : Text :=
  patternFrom true f

end Field

namespace Segment

/-- A text that stays together. -/
def quoted (t : Text) : Segment :=
  .together (t.map (.char · true))

/-- A text outside of quotes. -/
def unquoted (t : Text) : Segment :=
  .region false (t.map (.char · false))

/-- The pieces of a segment. -/
def pieces : Segment → List Piece
  | .together ps => ps
  | .loose c => [.char c false]
  | .region _ ps => ps

/-- Single characters that follow each other make a region. -/
def join : List Segment → List Segment
  | [] => []
  | .loose c :: rest =>
    match rest, join rest with
    | .loose _ :: _, .region false ps :: more => .region false (.char c false :: ps) :: more
    | _, more => .region false [.char c false] :: more
  | s :: rest => s :: join rest

end Segment

/-- The blanks among the separators. -/
def isSeparatorBlank (c : Char) : Bool :=
  c == ' ' || c == '\t' || c == '\n'

/-- Fields that are being cut. -/
structure Cutting where
  /-- The fields so far, the last first. -/
  done : List Field
  /-- The pieces of the field that is being made, the last first. -/
  current : Field
  /-- The number of fields that may still be begun; none bounds nothing. -/
  left : Option Nat
  /-- The last cut was at a blank. -/
  afterBlank : Bool
  /-- The rest of the last field that may be left out begins here. -/
  tail : Option Field
  /-- The region before was cut at boundaries only. -/
  afterBoundaries : Bool

namespace Cutting

/-- A field ends. -/
def cut (s : Cutting) : Cutting :=
  { s with done := s.current.reverse :: s.done, current := [] }

/-- Pass over separators after a cut at a blank: more blanks, and one other separator. -/
def passOver (isSeparator : Char → Bool) : Bool → List Piece → Bool × List Piece
  | afterBlank, .char c q :: rest =>
    if !isSeparator c then (afterBlank, .char c q :: rest)
    else if isSeparatorBlank c || c == '\x00' then passOver isSeparator afterBlank rest
    else if afterBlank then passOver isSeparator false rest
    else (afterBlank, .char c q :: rest)
  | afterBlank, ps => (afterBlank, ps)

/-- Cut a region; the number bounds its length. -/
def region (isSeparator : Char → Bool) (boundariesOnly : Bool) : Nat → Cutting → List Piece → Cutting
  | 0, s, _ => s
  | _, s, [] => s
  | n + 1, s, p :: rest =>
    let keep := { s with current := p :: s.current }
    match p with
    | .quote => region isSeparator boundariesOnly n keep rest
    | .char c _ =>
      let separates := isSeparator c
      let isBlank := separates && (isSeparatorBlank c || c == '\x00')
      if s.left == some 0 then
        let s' := if isBlank then { keep with tail := some (s.tail.getD s.current) }
          else { keep with
            tail := if separates && s.afterBlank then s.tail else none
            afterBlank := false }
        region isSeparator boundariesOnly n s' rest
      else if !separates then
        region isSeparator boundariesOnly n { keep with afterBlank := false } rest
      else
        let s := if s.afterBoundaries || boundariesOnly then s else { s with afterBlank := isBlank }
        if s.current.isEmpty && s.afterBlank then
          region isSeparator boundariesOnly n { s with afterBlank := false } rest
        else if s.left == some 1 then
          region isSeparator boundariesOnly n
            { s with left := some 0, tail := some s.current, current := p :: s.current } rest
        else
          let s := { s.cut with left := s.left.map (· - 1) }
          if !s.afterBlank then region isSeparator boundariesOnly n s rest
          else
            let (afterBlank, rest) := passOver isSeparator s.afterBlank rest
            region isSeparator boundariesOnly n { s with afterBlank := afterBlank } rest

/-- Cut a segment. -/
def segment (separators : Text) (s : Cutting) : Segment → Cutting
  | .region boundariesOnly ps =>
    let isSeparator (c : Char) : Bool := c == '\x00' || (!boundariesOnly && separators.contains c)
    let s' := region isSeparator boundariesOnly (ps.length + 1) { s with afterBlank := false } ps
    { s' with afterBoundaries := boundariesOnly }
  | other =>
    { s with current := other.pieces.reverse ++ s.current }

end Cutting

/-- Cut segments at separators into at most a number of fields. -/
def splitFields (separators : Text) (limit : Option Nat) (segments : List Segment) : List Field :=
  let segments := Segment.join segments
  let s := segments.foldl (Cutting.segment separators) ⟨[], [], limit, false, none, false⟩
  let current := s.tail.getD s.current
  let done := if s.afterBoundaries || !current.isEmpty then current.reverse :: s.done else s.done
  done.reverse

end CommandShell.Script
