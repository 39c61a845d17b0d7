import CommandShell.Pattern.Expr
import CommandShell.Text.Utf8

/-!
# Plans

Before a pattern is laid out, its expression is put into a simpler form with the same matches:
characters that follow each other are joined to one text of bytes, sequences and choices in
one another are flattened, a choice between characters becomes a set, parts that all branches
of a choice begin with are taken out of it, and counts that say nothing are dropped.

`Plan.ofExpr` builds the form from the inside out.  Every constructor has a function beside it
(`concat`, `choice`, `repetition`, `characters`) that keeps the form.
-/

namespace CommandShell.Pattern

open Unicode (CodeSet)

/-- The simpler form of an expression. -/
inductive Plan where
  | empty
  /-- These bytes, of which there is at least one. -/
  | literal (bytes : List UInt8)
  /-- A character of a set that is not just one character. -/
  | set (bytes : Bool) (s : CodeSet)
  | look (l : Look)
  | repeated (least : Nat) (most : Option Nat) (greedy : Bool) (body : Plan)
  | capture (start : Nat) (body : Plan)
  /-- At least two parts, of which none is empty or a sequence, and no two neighbours are
  texts. -/
  | concat (parts : List Plan)
  /-- At least two branches, of which none is a choice. -/
  | choice (branches : List Plan)
deriving Repr, BEq

namespace Plan

/-! ### Lengths -/

mutual

/-- The number of bytes that a match has at least, if there is one. -/
def leastLength? : Plan → Option Nat
  | .empty => some 0
  | .literal bytes => some bytes.length
  | .set _ s => s.ranges.head?.map fun (low, _) => (Char.ofNat low).utf8Size
  | .look _ => some 0
  | .repeated least _ _ body => body.leastLength?.map (least * ·)
  | .capture _ body => body.leastLength?
  | .concat parts => sumOfLengths? parts
  | .choice branches => leastOfLengths? branches

/-- The sum of the least lengths. -/
def sumOfLengths? : List Plan → Option Nat
  | [] => some 0
  | p :: rest => do
    let n ← p.leastLength?
    let m ← sumOfLengths? rest
    return n + m

/-- The least of the least lengths. -/
def leastOfLengths? : List Plan → Option Nat
  | [] => none
  | [p] => p.leastLength?
  | p :: q :: rest => do
    let n ← p.leastLength?
    let m ← leastOfLengths? (q :: rest)
    return min n m

end

/-- Every match has a character. -/
def hasWidth (p : Plan) : Bool :=
  p.leastLength?.any (0 < ·)

mutual

/-- Every match is empty. -/
def isWidthless : Plan → Bool
  | .empty => true
  | .literal bytes => bytes.isEmpty
  | .set _ _ => false
  | .look _ => true
  | .repeated _ most _ body => most.isSome && body.isWidthless
  | .capture _ body => body.isWidthless
  | .concat parts => areWidthless parts
  | .choice branches => areWidthless branches

/-- Every match of every one is empty. -/
def areWidthless : List Plan → Bool
  | [] => true
  | p :: rest => p.isWidthless && areWidthless rest

end

/-! ### Sequences -/

/-- The parts of a sequence. -/
def parts : Plan → List Plan
  | .empty => []
  | .concat parts => parts
  | p => [p]

/-- Parts with neighbours that are texts joined to one. -/
def joinLiterals : List Plan → List Plan
  | [] => []
  | p :: rest =>
    match p, joinLiterals rest with
    | .literal a, .literal b :: others => .literal (a ++ b) :: others
    | _, others => p :: others

/-- One after the other. -/
def concat' (ps : List Plan) : Plan :=
  match joinLiterals (ps.flatMap parts) with
  | [] => .empty
  | [p] => p
  | ps => .concat ps

/-! ### Sets -/

/-- The bytes of a character by its code. -/
def bytesOfCode (n : Nat) : List UInt8 :=
  String.utf8EncodeChar (Char.ofNat n)

/-- What matches nothing. -/
def fail : Plan :=
  .set true .empty

/-- A character of a set. -/
def characters (bytes : Bool) (s : CodeSet) : Plan :=
  match s.ranges with
  | [] => fail
  | [(low, high)] => if low = high then .literal (bytesOfCode low) else .set bytes s
  | _ => .set bytes s

/-! ### Repetition -/

/-- From `least` to `most` times.  What matches only the empty text is not repeated. -/
def repetition (least : Nat) (most : Option Nat) (greedy : Bool) (body : Plan) : Plan :=
  let (least, most) :=
    if body.isWidthless then (min least 1, some (min (most.getD 1) 1)) else (least, most)
  if least = 0 && most == some 0 then .empty
  else if least = 1 && most == some 1 then body
  else .repeated least most greedy body

/-! ### Choices -/

/-- The branches of a choice. -/
def branches : Plan → List Plan
  | .choice branches => branches
  | p => [p]

/-- The character that a plan matches, if it is one character. -/
def singleCharacter? : Plan → Option Nat
  | .literal bytes =>
    match Utf8.decode? bytes with
    | some [c] => some c.toNat
    | _ => none
  | _ => none

/-- The set of a plan that is one. -/
def characterSet? : Plan → Option CodeSet
  | .set _ s => some s
  | _ => none

/-- The parts that two sequences begin with. -/
def commonParts : List Plan → List Plan → List Plan
  | p :: ps, q :: qs => if p == q then p :: commonParts ps qs else []
  | _, _ => []

/-- The parts of a plan that is a sequence of several. -/
def sequence? : Plan → Option (List Plan)
  | .concat parts => some parts
  | _ => none

/-- The parts that all branches begin with, if each is a sequence. -/
def commonPrefix (branches : List Plan) : List Plan :=
  match branches.mapM sequence? with
  | some (first :: rest) => rest.foldl commonParts first
  | _ => []

mutual

/-- The number of nodes of a plan. -/
def nodes : Plan → Nat
  | .repeated _ _ _ body => body.nodes + 1
  | .capture _ body => body.nodes + 1
  | .concat parts => nodesOf parts + 1
  | .choice branches => nodesOf branches + 1
  | _ => 1

/-- The number of nodes of several plans. -/
def nodesOf : List Plan → Nat
  | [] => 0
  | p :: rest => p.nodes + nodesOf rest

end

/-- One of several.  Taking out what all branches begin with leaves a choice of fewer nodes, and
the number bounds how often that is done. -/
def choiceFrom : Nat → List Plan → Plan
  | 0, ps => .choice ps
  | n + 1, ps =>
    let flat := ps.flatMap branches
    match flat with
    | [] => fail
    | [p] => p
    | _ =>
      match flat.mapM singleCharacter?, flat.mapM characterSet? with
      | some codes, _ => characters false (CodeSet.unions (codes.map CodeSet.single))
      | none, some sets => characters false (CodeSet.unions sets)
      | none, none =>
        match commonPrefix flat with
        | [] => .choice flat
        | shared =>
          let rests := flat.map fun p => concat' (p.parts.drop shared.length)
          concat' (shared ++ [choiceFrom n rests])

/-- One of several. -/
def choice' (ps : List Plan) : Plan :=
  choiceFrom (nodesOf ps + 1) ps

end Plan

namespace Expr

mutual

/-- The simpler form of an expression. -/
def toPlan : Expr → Plan
  | empty => .empty
  | set bytes s => Plan.characters bytes s
  | look l => .look l
  | concat a b => Plan.concat' [a.toPlan, b.toPlan]
  | either a b => Plan.choice' (a.toPlan :: b.laterBranches)
  | repeated least most greedy body => Plan.repetition least most greedy body.toPlan
  | capture start body => .capture start body.toPlan

/-- The branches of a choice after its first.  What stands last matches nothing. -/
def laterBranches : Expr → List Plan
  | either a b => a.toPlan :: b.laterBranches
  | _ => []

end

end Expr

end CommandShell.Pattern
