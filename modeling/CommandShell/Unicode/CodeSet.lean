import CommandShell.Text.Basic

/-!
# Sets of code points

A set of code points is a list of closed ranges in ascending order, with at least one code
point between each two.  Union merges two such lists; the other operations of sets come
from union and complement.
-/

namespace CommandShell.Unicode

/-- A set of code points. -/
structure CodeSet where
  /-- Closed ranges in ascending order that do not touch. -/
  ranges : List (Nat × Nat)
deriving Repr, DecidableEq

namespace CodeSet

/-- The last code point. -/
def last : Nat := 0x10FFFF

/-- No code points. -/
def empty : CodeSet :=
  ⟨[]⟩

/-- The code points from one to another. -/
def range (low high : Nat) : CodeSet :=
  if low ≤ high then ⟨[(low, high)]⟩ else empty

/-- One code point. -/
def single (n : Nat) : CodeSet :=
  ⟨[(n, n)]⟩

/-- A number lies in one of the ranges.  A range that begins above it ends the search. -/
def containsIn (n : Nat) : List (Nat × Nat) → Bool
  | [] => false
  | (low, high) :: rest => if n < low then false else n ≤ high || containsIn n rest

/-- A code point is in the set. -/
def contains (s : CodeSet) (n : Nat) : Bool :=
  containsIn n s.ranges

/-! ### Union -/

/-- Two lists of ranges in the order of where they begin. -/
def merge : List (Nat × Nat) → List (Nat × Nat) → List (Nat × Nat)
  | [], bs => bs
  | as, [] => as
  | a :: as, b :: bs =>
    if a.1 ≤ b.1 then a :: merge as (b :: bs) else b :: merge (a :: as) bs

/-- Ranges in the order of where they begin, with those that touch joined to one.  The first
range is the one being joined to. -/
def coalesceFrom (low high : Nat) : List (Nat × Nat) → List (Nat × Nat)
  | [] => [(low, high)]
  | (l, h) :: rest =>
    if l ≤ high + 1 then coalesceFrom low (max high h) rest
    else (low, high) :: coalesceFrom l h rest

/-- Ranges in the order of where they begin, with those that touch joined to one. -/
def coalesce : List (Nat × Nat) → List (Nat × Nat)
  | [] => []
  | (low, high) :: rest => coalesceFrom low high rest

/-- The code points of either set. -/
def union (a b : CodeSet) : CodeSet :=
  ⟨coalesce (merge a.ranges b.ranges)⟩

/-- The code points of any of the sets, which are joined two by two. -/
def unions : List CodeSet → CodeSet
  | [] => empty
  | s :: rest => s.union (unions rest)

/-! ### Complement -/

/-- What lies between `next` and `limit` outside of the ranges. -/
def complementFrom (limit : Nat) : Nat → List (Nat × Nat) → List (Nat × Nat)
  | next, [] => if next ≤ limit then [(next, limit)] else []
  | next, (low, high) :: rest =>
    if next < low then (next, low - 1) :: complementFrom limit (high + 1) rest
    else complementFrom limit (high + 1) rest

/-- The code points up to `limit` that are not in the set. -/
def complementWithin (limit : Nat) (s : CodeSet) : CodeSet :=
  ⟨complementFrom limit 0 s.ranges⟩

/-- The code points that are not in the set. -/
def complement (s : CodeSet) : CodeSet :=
  s.complementWithin last

/-- The code points of both sets. -/
def intersection (a b : CodeSet) : CodeSet :=
  (a.complement.union b.complement).complement

/-- The code points of the first set that are not in the second. -/
def difference (a b : CodeSet) : CodeSet :=
  a.intersection b.complement

/-- The code points of exactly one of the sets. -/
def symmetricDifference (a b : CodeSet) : CodeSet :=
  (a.union b).difference (a.intersection b)

/-- Every code point of the set lies below 128. -/
def isAscii (s : CodeSet) : Bool :=
  s.ranges.all (·.2 < 128)

/-! ### Tables -/

/-- The value of a hexadecimal digit. -/
def hexValue (c : Char) : Nat :=
  if Text.isDigit c then c.toNat - '0'.toNat
  else if 'a' ≤ c && c ≤ 'f' then c.toNat - 'a'.toNat + 10
  else c.toNat - 'A'.toNat + 10

/-- The value of hexadecimal digits. -/
def hexNumber (digits : Text) : Nat :=
  digits.foldl (fun n c => 16 * n + hexValue c) 0

/-- A range written as two hexadecimal numbers with `-` between them, or as one number. -/
def rangeOfText (t : Text) : Nat × Nat :=
  match Text.pieces '-' t with
  | [low, high] => (hexNumber low, hexNumber high)
  | _ => (hexNumber t, hexNumber t)

/-- The set of a table: ranges in ascending order with blanks between each two. -/
def ofTable (table : String) : CodeSet :=
  ⟨(Text.words table.toList).map rangeOfText⟩

end CodeSet

end CommandShell.Unicode
