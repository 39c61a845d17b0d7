import CommandShell.Pattern.Plan
import Std.Data.HashMap

/-!
# The size of patterns

A plan is laid out as an automaton that reads the bytes of a text, once from left to right and
once from right to left.  A part that is repeated is laid out once for each time, so a pattern
with large counts takes much room.  The room is counted in bytes: a state takes 32, an arrow
that reads a byte within a state 8, and an arrow of a choice 4.  A pattern that would take more
than `sizeLimit` in one of the directions is refused before anything is searched.

A set of characters becomes the sequences of bytes of its characters.  Sequences whose bytes
differ only within ranges count as one (`byteSequences`).  From left to right, states with the
same arrows are shared, and from right to left, states that read the same bytes towards the
same state; what was laid out is looked up in a table with a fixed number of places, so an
older state may be forgotten and laid out once more.
-/

namespace CommandShell.Pattern

open Unicode (CodeSet)

/-- The size that a pattern may have: ten times a binary million. -/
def sizeLimit : Nat := 10485760

/-! ### Counting room -/

/-- The room that is taken so far. -/
structure Meter where
  /-- The number of states, which is the number of the next one. -/
  states : Nat
  /-- The bytes of the arrows. -/
  arrows : Nat
deriving Repr, DecidableEq

namespace Meter

/-- Nothing is laid out. -/
def zero : Meter :=
  ⟨0, 0⟩

/-- The size of a state. -/
def stateSize : Nat := 32

/-- The size of an arrow that reads a byte. -/
def byteArrowSize : Nat := 8

/-- The size of an arrow of a choice. -/
def choiceArrowSize : Nat := 4

/-- The bytes taken. -/
def size (m : Meter) : Nat :=
  stateSize * m.states + m.arrows

/-- The room as it is, unless it is too much. -/
def checked (m : Meter) : Option Meter :=
  if sizeLimit < m.size then none else some m

/-- One more state, with room for arrows. -/
def addState (arrows : Nat) (m : Meter) : Option Meter :=
  checked ⟨m.states + 1, m.arrows + arrows⟩

/-- One more arrow of a choice. -/
def addChoiceArrow (m : Meter) : Option Meter :=
  checked ⟨m.states, m.arrows + choiceArrowSize⟩

/-- An arrow that leaves what was laid out.  It takes room only where that ends with a
choice. -/
def leave (endsWithChoice : Bool) (m : Meter) : Option Meter :=
  if endsWithChoice then m.addChoiceArrow else some m

/-- The given number of states. -/
def addStates : Nat → Meter → Option Meter
  | 0, m => some m
  | n + 1, m =>
    match m.addState 0 with
    | none => none
    | some m => addStates n m

end Meter

/-! ### Sequences of bytes -/

/-- A range of bytes for each place of a sequence of bytes. -/
abbrev ByteSequence := List (Nat × Nat)

/-- The numbers from `low` to `high`, as ranges for the digits to the base 64, of which the
given number follow the first.  A digit is written as a byte: the first with `mark` added, the
others as bytes that continue a character. -/
def digitSequences (mark : Nat) : Nat → Nat → Nat → List ByteSequence
  | 0, low, high => [[(mark + low, mark + high)]]
  | k + 1, low, high =>
    let unit := Nat.pow 64 (k + 1)
    let first := low / unit
    let last := high / unit
    let under (d : Nat) (rest : List ByteSequence) : List ByteSequence :=
      rest.map ((mark + d, mark + d) :: ·)
    if first = last then under first (digitSequences 0x80 k (low % unit) (high % unit))
    else
      -- A first digit that is used in part only, the digits used in full, and a last one.
      let (opening, from_) := if low % unit = 0 then ([], first)
        else (under first (digitSequences 0x80 k (low % unit) (unit - 1)), first + 1)
      let (closing, upTo) := if high % unit = unit - 1 then ([], last)
        else (under last (digitSequences 0x80 k 0 (high % unit)), last - 1)
      let middle := if from_ ≤ upTo
        then [(mark + from_, mark + upTo) :: List.replicate (k + 1) (0x80, 0xBF)] else []
      opening ++ middle ++ closing

/-- A block of code points whose characters have the same number of bytes. -/
structure ByteBlock where
  first : Nat
  last : Nat
  /-- The number of bytes after the first. -/
  more : Nat
  /-- What the first byte has besides its digit. -/
  mark : Nat

/-- The blocks of code points.  There are no characters from `0xD800` to `0xDFFF`. -/
def byteBlocks : List ByteBlock :=
  [⟨0, 0x7F, 0, 0⟩, ⟨0x80, 0x7FF, 1, 0xC0⟩, ⟨0x800, 0xD7FF, 2, 0xE0⟩,
    ⟨0xE000, 0xFFFF, 2, 0xE0⟩, ⟨0x10000, CodeSet.last, 3, 0xF0⟩]

/-- The byte sequences of the characters of a set, in ascending order. -/
def byteSequences (s : CodeSet) : List ByteSequence :=
  s.ranges.flatMap fun (low, high) =>
    byteBlocks.flatMap fun block =>
      let low := max low block.first
      let high := min high block.last
      if low ≤ high then digitSequences block.mark block.more low high else []

/-! ### Tables of what was laid out -/

/-- A table of states by what they are, with a fixed number of places.  Two of them that fall
into one place displace each other. -/
structure StateTable (κ : Type) where
  places : Nat
  entries : Std.HashMap Nat (κ × Nat)

namespace StateTable

variable {κ : Type} [DecidableEq κ]

/-- A table in which nothing is entered. -/
def empty (places : Nat) : StateTable κ :=
  ⟨places, {}⟩

/-- The state entered for a key at a place, unless it was displaced. -/
def find? (t : StateTable κ) (place : Nat) (key : κ) : Option Nat :=
  match t.entries[place]? with
  | some (k, state) => if k = key then some state else none
  | none => none

/-- Enter a state for a key at a place. -/
def enter (t : StateTable κ) (place : Nat) (key : κ) (state : Nat) : StateTable κ :=
  { t with entries := t.entries.insert place (key, state) }

end StateTable

/-- The place of numbers in a table: each number is mixed into the one before by exclusive or,
and spread by a multiplication of 64 bits. -/
def placeOf (places : Nat) (numbers : List Nat) : Nat :=
  let spread (h : UInt64) (n : Nat) : UInt64 := (h ^^^ n.toUInt64) * 1099511628211
  (numbers.foldl spread 14695981039346656037).toNat % places

/-! ### Sets from left to right -/

/-- An arrow that reads a byte of a range and leads to a state. -/
structure ByteArrow where
  low : Nat
  high : Nat
  target : Nat
deriving Repr, DecidableEq

/-- A state that is not laid out yet: its arrows so far, the last first, and the range of one
more arrow whose target is not known yet. -/
structure OpenState where
  arrows : List ByteArrow
  pending : Option (Nat × Nat)
deriving Repr, DecidableEq

/-- The state with the target of its pending arrow known. -/
def OpenState.settle (target : Nat) (s : OpenState) : OpenState :=
  match s.pending with
  | some (low, high) => ⟨⟨low, high, target⟩ :: s.arrows, none⟩
  | none => s

/-- The layout of a set from left to right: the states that are open along the sequence read
last, the deepest first. -/
structure SetLayout where
  meter : Meter
  table : StateTable (List ByteArrow)
  /-- The state where every sequence ends. -/
  target : Nat
  opened : List OpenState

namespace SetLayout

/-- The number of places of the table. -/
def places : Nat := 10000

/-- Lay out a state with the given arrows, the last first, unless there is one. -/
def close (l : SetLayout) (arrows : List ByteArrow) : Option (SetLayout × Nat) :=
  let place := placeOf places (arrows.reverse.flatMap fun a => [a.low, a.high, a.target])
  match l.table.find? place arrows with
  | some state => some (l, state)
  | none =>
    match l.meter.addState (Meter.byteArrowSize * arrows.length) with
    | none => none
    | some m =>
      some ({ l with meter := m, table := l.table.enter place arrows l.meter.states },
        l.meter.states)

/-- Lay out the open states until the given number is left, of which the deepest leads to what
was laid out. -/
def closeDownTo (keep : Nat) : Nat → Nat → SetLayout → Option SetLayout
  | 0, _, l => some l
  | n + 1, next, l =>
    match l.opened with
    | [] => some l
    | s :: rest =>
      if keep < l.opened.length then
        match close { l with opened := rest } (s.settle next).arrows with
        | none => none
        | some (l, state) => closeDownTo keep n state l
      else some { l with opened := s.settle next :: rest }

/-- The number of ranges that a sequence shares with the pending arrows, the first one
first. -/
def sharedLength : ByteSequence → List OpenState → Nat
  | range :: ranges, s :: states =>
    if s.pending = some range then sharedLength ranges states + 1 else 0
  | _, _ => 0

/-- Open the states for the rest of a sequence. -/
def openRest (ranges : ByteSequence) (opened : List OpenState) : List OpenState :=
  match ranges, opened with
  | range :: ranges, s :: rest =>
    ranges.foldl (fun states r => ⟨[], some r⟩ :: states) ({ s with pending := some range } :: rest)
  | _, opened => opened

/-- Lay out one more sequence. -/
def add (l : SetLayout) (ranges : ByteSequence) : Option SetLayout :=
  let shared := sharedLength ranges l.opened.reverse
  match closeDownTo (shared + 1) l.opened.length l.target l with
  | none => none
  | some l => some { l with opened := openRest (ranges.drop shared) l.opened }

/-- Lay out sequences. -/
def addAll : List ByteSequence → SetLayout → Option SetLayout
  | [], l => some l
  | ranges :: rest, l =>
    match l.add ranges with
    | none => none
    | some l => addAll rest l

/-- The room after a set of characters that are not all of one byte. -/
def forward (s : CodeSet) (m : Meter) : Option Meter :=
  match m.addState 0 with
  | none => none
  | some m' =>
    let first : SetLayout := ⟨m', .empty places, m.states, [⟨[], none⟩]⟩
    match addAll (byteSequences s) first with
    | none => none
    | some l =>
      match closeDownTo 1 l.opened.length l.target l with
      | none => none
      | some l =>
        match l.opened with
        | [] => some l.meter
        | root :: _ => (close l root.arrows).map fun (l, _) => l.meter

end SetLayout

/-! ### Sets from right to left -/

/-- The layout of a set from right to left. -/
structure SuffixLayout where
  meter : Meter
  table : StateTable (Nat × Nat × Nat)

namespace SuffixLayout

/-- The number of places of the table. -/
def places : Nat := 1000

/-- Lay out the ranges of a sequence, each of which leads to the one before. -/
def add : ByteSequence → Nat → SuffixLayout → Option SuffixLayout
  | [], _, l => some l
  | (low, high) :: rest, next, l =>
    let place := placeOf places [next, low, high]
    match l.table.find? place (next, low, high) with
    | some state => add rest state l
    | none =>
      match l.meter.addState 0 with
      | none => none
      | some m => add rest l.meter.states
          ⟨m, l.table.enter place (next, low, high) l.meter.states⟩

/-- Lay out sequences, each with an arrow of the choice to it. -/
def addAll (target : Nat) : List ByteSequence → SuffixLayout → Option SuffixLayout
  | [], l => some l
  | ranges :: rest, l =>
    match l.add ranges target with
    | none => none
    | some l =>
      match l.meter.addChoiceArrow with
      | none => none
      | some m => addAll target rest { l with meter := m }

/-- The room after a set of characters that are not all of one byte. -/
def backward (s : CodeSet) (m : Meter) : Option Meter :=
  match m.addStates 2 with
  | none => none
  | some m' =>
    (addAll (m.states + 1) (byteSequences s) ⟨m', .empty places⟩).map (·.meter)

end SuffixLayout

/-- The room after a set of characters. -/
def addSet (fromRight : Bool) (s : CodeSet) (m : Meter) : Option Meter :=
  if s.isAscii then
    match m.addState 0 with
    | none => none
    | some m => m.addState (Meter.byteArrowSize * s.ranges.length)
  else if fromRight then SuffixLayout.backward s m
  else SetLayout.forward s m

/-! ### Choices between texts -/

/-- Texts as a tree: where a text ends in the tree, later texts go to a new row of arrows. -/
inductive TextTree where
  /-- The rows of arrows, the last first, each arrow with its byte in ascending order. -/
  | node (rows : List (List (UInt8 × TextTree)))

namespace TextTree

/-- A tree without texts. -/
def empty : TextTree :=
  .node [[]]

/-- No arrow leads out of the tree. -/
def isLeaf : TextTree → Bool
  | .node rows => rows.all List.isEmpty

/-- The tree of one text. -/
def ofText : List UInt8 → TextTree
  | [] => .node [[], []]
  | b :: rest => .node [[(b, ofText rest)]]

/-- A row of arrows with one arrow changed, or entered in its place. -/
def enter (b : UInt8) (change : TextTree → TextTree) (new : TextTree) :
    List (UInt8 × TextTree) → List (UInt8 × TextTree)
  | [] => [(b, new)]
  | (c, t) :: rest =>
    if c = b then (c, change t) :: rest
    else if b < c then (b, new) :: (c, t) :: rest
    else (c, t) :: enter b change new rest

/-- The tree with one more text. -/
def add : List UInt8 → TextTree → TextTree
  | [], .node rows =>
    -- A leaf that a text already ends in needs no further row.
    if rows.all List.isEmpty && 1 < rows.length then .node rows else .node ([] :: rows)
  | b :: rest, .node rows =>
    match rows with
    | [] => .node [[(b, ofText rest)]]
    | row :: others => .node (enter b (add rest) (ofText rest) row :: others)

mutual

/-- The room after a tree whose texts are laid out below its own state. -/
def lay (m : Meter) : TextTree → Option Meter
  | .node rows =>
    match layRows m rows with
    | none => none
    | some m =>
      let arrows := (rows.filter (!·.isEmpty)).length + (rows.length - 1)
      m.addState (Meter.choiceArrowSize * arrows)

/-- The room after rows, the last of which comes first. -/
def layRows (m : Meter) : List (List (UInt8 × TextTree)) → Option Meter
  | [] => some m
  | row :: earlier =>
    match layRows m earlier with
    | none => none
    | some m =>
      match layRow m row with
      | none => none
      | some m =>
        match row with
        | [] => some m
        | [_] => m.addState 0
        | _ => m.addState (Meter.byteArrowSize * row.length)

/-- The room after what the arrows of a row lead to. -/
def layRow (m : Meter) : List (UInt8 × TextTree) → Option Meter
  | [] => some m
  | (_, t) :: rest =>
    if t.isLeaf then layRow m rest
    else match lay m t with
      | none => none
      | some m => layRow m rest

end

end TextTree

/-- The bytes of a plan that is a text. -/
def Plan.text? : Plan → Option (List UInt8)
  | .literal bytes => some bytes
  | _ => none

/-- The room after a choice between texts. -/
def addTexts (fromRight : Bool) (texts : List (List UInt8)) (m : Meter) : Option Meter :=
  let texts := if fromRight then texts.map List.reverse else texts
  let tree := texts.foldl (fun t text => t.add text) TextTree.empty
  match m.addState 0 with
  | none => none
  | some m => tree.lay m

/-! ### Plans -/

/-- Do something the given number of times, each time after leaving what was laid out before.
The flag says whether that ends with a choice; it is none before the first time. -/
def layTimes (act : Meter → Option (Meter × Bool)) :
    Nat → Option Bool → Meter → Option (Meter × Option Bool)
  | 0, before, m => some (m, before)
  | n + 1, before, m =>
    match act m with
    | none => none
    | some (m, ends) =>
      match m.leave (before.getD false) with
      | none => none
      | some m => layTimes act n (some ends) m

/-- Exactly the given number of times.  Not at all is a state of its own. -/
def layExactly (act : Meter → Option (Meter × Bool)) (n : Nat) (m : Meter) :
    Option (Meter × Bool) :=
  match layTimes act n none m with
  | none => none
  | some (m, some ends) => some (m, ends)
  | some (m, none) => (m.addState 0).map fun m => (m, false)

/-- Up to the given number of times more, each behind a choice to stop. -/
def layOptional (act : Meter → Option (Meter × Bool)) :
    Nat → Bool → Meter → Option (Meter × Bool)
  | 0, before, m => some (m, before)
  | n + 1, before, m =>
    match m.addState (2 * Meter.choiceArrowSize) with
    | none => none
    | some m =>
      match act m with
      | none => none
      | some (m, ends) =>
        match m.leave before with
        | none => none
        | some m => layOptional act n ends m

/-- At least the given number of times. -/
def layAtLeast (act : Meter → Option (Meter × Bool)) (hasWidth : Bool) (least : Nat)
    (m : Meter) : Option (Meter × Bool) := do
  match least with
  | 0 =>
    if hasWidth then
      -- A choice between once more and going on; the arrow that goes on is counted when it
      -- leaves.
      let m ← m.addState Meter.choiceArrowSize
      let (m, ends) ← act m
      let m ← m.leave ends
      return (m, true)
    else
      let (m, ends) ← act m
      let m ← m.addState (2 * Meter.choiceArrowSize)
      let m ← m.leave ends
      let m ← m.addState (2 * Meter.choiceArrowSize)
      let m ← m.addState 0
      return (m, false)
  | n + 1 =>
    let (m, before) ← layTimes act n none m
    let (m, ends) ← act m
    let m ← m.addState Meter.choiceArrowSize
    let m ← m.leave (before.getD false)
    let m ← m.leave ends
    return (m, true)

/-- From `least` to `most` times. -/
def layRepeated (act : Meter → Option (Meter × Bool)) (hasWidth : Bool) (least : Nat)
    (most : Option Nat) (m : Meter) : Option (Meter × Bool) := do
  match most with
  | none => layAtLeast act hasWidth least m
  | some most =>
    if least = 0 && most = 1 then
      let m ← m.addState (2 * Meter.choiceArrowSize)
      let (m, ends) ← act m
      let m ← m.addState 0
      let m ← m.leave ends
      return (m, false)
    else
      let (m, ends) ← layExactly act least m
      if most = least then return (m, ends)
      else
        let m ← m.addState 0
        let (m, ends) ← layOptional act (most - least) ends m
        let m ← m.leave ends
        return (m, false)

namespace Plan

mutual

/-- The room after a plan, and whether it ends with a choice.  Groups keep what they match only
from left to right. -/
def lay (fromRight : Bool) (p : Plan) (m : Meter) : Option (Meter × Bool) :=
  match p with
  | .empty => (m.addState 0).map fun m => (m, false)
  | .look _ => (m.addState 0).map fun m => (m, false)
  | .literal bytes => (m.addStates bytes.length).map fun m => (m, false)
  | .set _ s => (addSet fromRight s m).map fun m => (m, false)
  | .repeated least most _ body =>
    layRepeated (body.lay fromRight) body.hasWidth least most m
  | .capture _ body =>
    if fromRight then body.lay fromRight m
    else do
      let m ← m.addState 0
      let (m, ends) ← body.lay fromRight m
      let m ← m.addState 0
      let m ← m.leave ends
      return (m, false)
  | .concat parts => do
    let (m, ends) ← layParts fromRight parts m
    return (m, ends.getD false)
  | .choice branches =>
    match branches.mapM text? with
    | some texts => (addTexts fromRight texts m).map fun m => (m, false)
    | none => (layBranches fromRight 0 branches m).map fun m => (m, false)

/-- The room after the parts of a sequence, the last of them first when they are laid out from
the right, and whether they end with a choice. -/
def layParts (fromRight : Bool) (parts : List Plan) (m : Meter) :
    Option (Meter × Option Bool) :=
  match parts with
  | [] => some (m, none)
  | p :: rest =>
    if fromRight then do
      let (m, before) ← layParts fromRight rest m
      let (m, ends) ← p.lay fromRight m
      let m ← m.leave (before.getD false)
      return (m, some ends)
    else do
      let (m, ends) ← p.lay fromRight m
      match rest with
      | [] => return (m, some ends)
      | _ =>
        let (m, last) ← layParts fromRight rest m
        let m ← m.leave ends
        return (m, last)

/-- The room after the branches of a choice, with an arrow to each.  The states where the choice
begins and ends come after the second branch; the number is that of the branches before. -/
def layBranches (fromRight : Bool) (index : Nat) (branches : List Plan) (m : Meter) :
    Option Meter :=
  match branches with
  | [] => some m
  | p :: rest => do
    let (m, ends) ← p.lay fromRight m
    let m ← m.leave ends
    let m ← m.addChoiceArrow
    let m ← if index = 1 then m.addStates 2 else some m
    layBranches fromRight (index + 1) rest m

end

/-! ### Anchors -/

mutual

/-- Every match begins, or from the right ends, where the text does. -/
def isAnchored (fromRight : Bool) : Plan → Bool
  | .look l => l == (if fromRight then .stop else .start)
  | .repeated least _ _ body => 0 < least && body.isAnchored fromRight
  | .capture _ body => body.isAnchored fromRight
  | .concat parts => (partsAnchored fromRight parts).1
  | .choice branches => branchesAnchored fromRight branches
  | _ => false

/-- One of the parts up to the first that can have a character is anchored, and none can have
one. -/
def partsAnchored (fromRight : Bool) : List Plan → Bool × Bool
  | [] => (false, true)
  | p :: rest =>
    let (later, widthless) := partsAnchored fromRight rest
    let here := p.isAnchored fromRight
    let anchored :=
      if fromRight then later || (widthless && here)
      else here || (p.isWidthless && later)
    (anchored, p.isWidthless && widthless)

/-- Every branch is anchored. -/
def branchesAnchored (fromRight : Bool) : List Plan → Bool
  | [] => true
  | p :: rest => p.isAnchored fromRight && branchesAnchored fromRight rest

end

/-- The room of a whole pattern in one direction.  Unless it is anchored, any bytes may come
before it; from left to right the whole match is kept like that of a group. -/
def room? (fromRight : Bool) (p : Plan) : Option Meter := do
  let m ← if p.isAnchored fromRight then Meter.zero.addState 0
    else do
      let m ← Meter.zero.addState (2 * Meter.choiceArrowSize)
      let m ← m.addState 0
      m.addState Meter.byteArrowSize
  let (m, ends) ← (Plan.capture 0 p).lay fromRight m
  let m ← m.addState 0
  m.leave ends

/-- The pattern takes too much room. -/
def isTooLarge (p : Plan) : Bool :=
  (p.room? false).isNone || (p.room? true).isNone

end Plan

end CommandShell.Pattern
