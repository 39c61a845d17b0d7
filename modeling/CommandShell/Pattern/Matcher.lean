import CommandShell.Pattern.Expr

/-!
# Matching

A spot is a place in a line: its index, the character before it, if there is one, and the
text after it.  An expression takes a set of spots to the set of spots where a match that begins at
one of them can end, so a line matches when that set is not empty for the set of all its
spots.

Sets of spots are lists in the order of the line.  The spots of one line are told apart by
their indices, which is how two sets are merged and compared.
-/

namespace CommandShell.Pattern

/-- A place in a line. -/
structure Spot where
  /-- How many characters stand before it. -/
  index : Nat
  before : Option Char
  after : Text
deriving Repr, DecidableEq

namespace Spot

/-- The spots of a line from a spot on. -/
def onward (index : Nat) (before : Option Char) : Text → List Spot
  | [] => [⟨index, before, []⟩]
  | c :: rest => ⟨index, before, c :: rest⟩ :: onward (index + 1) (some c) rest

/-- All spots of a line. -/
def all (line : Text) : List Spot :=
  onward 0 none line

/-- The spot after a character of a set, if one comes next. -/
def step? (s : Unicode.CodeSet) (p : Spot) : Option Spot :=
  match p.after with
  | [] => none
  | c :: rest => if s.contains c.toNat then some ⟨p.index + 1, some c, rest⟩ else none

/-- A character of a word, of all scripts or of the first block only. -/
def isWord (unicode : Bool) (c : Char) : Bool :=
  if unicode then Unicode.isWordCharacter c else Text.isNameChar c

/-- A condition holds at a spot. -/
def satisfies (p : Spot) : Look → Bool
  | .start => p.before.isNone
  | .stop => p.after.isEmpty
  | .lineStart false => p.before.isNone || p.before == some '\n'
  | .lineStart true =>
    p.before.isNone || p.before == some '\n' ||
      (p.before == some '\r' && p.after.head? != some '\n')
  | .lineStop false => p.after.isEmpty || p.after.head? == some '\n'
  | .lineStop true =>
    p.after.isEmpty || p.after.head? == some '\r' ||
      (p.after.head? == some '\n' && p.before != some '\r')
  | .word unicode relation =>
    relation.holds (p.before.any (isWord unicode)) (p.after.head?.any (isWord unicode))

/-- The spots of two sets, each once. -/
def merge : List Spot → List Spot → List Spot
  | [], qs => qs
  | ps, [] => ps
  | p :: ps, q :: qs =>
    if p.index = q.index then p :: merge ps qs
    else if p.index < q.index then p :: merge ps (q :: qs)
    else q :: merge (p :: ps) qs

/-- Two sets hold the same spots of a line. -/
def sameSpots (ps qs : List Spot) : Bool :=
  ps.map index == qs.map index

end Spot

namespace Expr

/-- A step taken the given number of times.  A set that a step leaves alone stays. -/
def iterate (f : List Spot → List Spot) : Nat → List Spot → List Spot
  | 0, ps => ps
  | n + 1, ps =>
    let qs := f ps
    if Spot.sameSpots ps qs then ps else iterate f n qs

/-- The spots that at most the given number of steps reach. -/
def reach (f : List Spot → List Spot) : Nat → List Spot → List Spot
  | 0, ps => ps
  | n + 1, ps =>
    let qs := Spot.merge ps (f ps)
    if Spot.sameSpots ps qs then ps else reach f n qs

/-- The spots where a match that begins at one of the given spots can end.  A line has at
most `bound` spots, so no more repetitions than that reach a new one. -/
def ends (bound : Nat) : Expr → List Spot → List Spot
  | empty, ps => ps
  | set _ s, ps => ps.filterMap (Spot.step? s)
  | look l, ps => ps.filter (·.satisfies l)
  | concat a b, ps => b.ends bound (a.ends bound ps)
  | either a b, ps => Spot.merge (a.ends bound ps) (b.ends bound ps)
  | repeated least most _ body, ps =>
    let further := match most with
      | none => bound
      | some most => most - least
    reach (body.ends bound) further (iterate (body.ends bound) least ps)
  | capture _ body, ps => body.ends bound ps

/-- Some part of a line matches. -/
def isMatch (e : Expr) (line : Text) : Bool :=
  !(e.ends (line.length + 1) (Spot.all line)).isEmpty

end Expr

end CommandShell.Pattern
