import CommandShell.Unicode.CodeSet
import CommandShell.Unicode.FoldTable

/-!
# Case folding of sets

A set is closed under simple case folding when it has, with a character, every character
that differs from it only in case.  `CodeSet.fold` adds what is missing.
-/

namespace CommandShell.Unicode

/-- A run of characters, each at the same distance from one that differs only in case. -/
structure FoldRun where
  first : Nat
  last : Nat
  step : Nat
  /-- What is added to get to the other character, before `down` is taken away. -/
  up : Nat
  down : Nat
deriving Repr, DecidableEq

/-- A run as the table writes it. -/
def FoldRun.ofText? (t : Text) : Option FoldRun :=
  match Text.pieces ',' t with
  | [first, last, step, '+' :: distance] =>
    some ⟨CodeSet.hexNumber first, CodeSet.hexNumber last, CodeSet.hexNumber step,
      CodeSet.hexNumber distance, 0⟩
  | [first, last, step, '-' :: distance] =>
    some ⟨CodeSet.hexNumber first, CodeSet.hexNumber last, CodeSet.hexNumber step,
      0, CodeSet.hexNumber distance⟩
  | _ => none

/-- The runs of the table. -/
def foldRuns : List FoldRun :=
  (Text.words foldTable.toList).filterMap FoldRun.ofText?

/-- The character that a character of the run stands for. -/
def FoldRun.shift (r : FoldRun) (n : Nat) : Nat :=
  n + r.up - r.down

/-- The characters that a range gets from a run. -/
def FoldRun.image (r : FoldRun) (low high : Nat) : CodeSet :=
  let low := max low r.first
  let high := min high r.last
  if high < low then CodeSet.empty
  else if r.step = 1 then CodeSet.range (r.shift low) (r.shift high)
  else
    ⟨(List.range (high - low + 1)).filterMap fun k =>
      if (low + k - r.first) % r.step = 0 then some (r.shift (low + k), r.shift (low + k))
      else none⟩

/-- The set with every character that differs from one of its own only in case. -/
def CodeSet.fold (s : CodeSet) : CodeSet :=
  foldRuns.foldl (fun acc r =>
    s.ranges.foldl (fun acc (low, high) =>
      let image := r.image low high
      if image.ranges.isEmpty then acc else acc.union image) acc) s

/-- The set with both cases of every letter `a` to `z` of it. -/
def CodeSet.foldAscii (s : CodeSet) : CodeSet :=
  let upper := s.intersection (CodeSet.range 0x41 0x5A)
  let lower := s.intersection (CodeSet.range 0x61 0x7A)
  let shiftUp : CodeSet := ⟨upper.ranges.map fun (low, high) => (low + 32, high + 32)⟩
  let shiftDown : CodeSet := ⟨lower.ranges.map fun (low, high) => (low - 32, high - 32)⟩
  (s.union shiftUp).union shiftDown

end CommandShell.Unicode
