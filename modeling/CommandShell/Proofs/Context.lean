import CommandShell.Builtin.Execute
import CommandShell.Proofs.Decoding
import Mathlib.Data.Nat.Basic

/-!
# The lines that a search prints

A search sets a flag for each line that it prints, window by window, with sums that stay at the
largest machine word; and then it goes through the lines with the index of the last one printed.
This file says what comes out without any of these.  A line is shown when a line that matches stands
at most `afterContext` lines before it (`Grep.IsShown`), and the lines that are shown are printed in
their order, with a separator before each one that begins a new block (`Grep.printout`).

As long as there are fewer lines than machine words, a window ends for the flags where it ends for
the unbounded sum (`Grep.lt_windowEnd_iff`).  The index that is carried is that of the last line
shown (`Grep.IsLastShown`), so the gap before a line is seen from it.

`Grep.printSource?` is the same search with every slice, index and sum checked.  It never refuses
(`Grep.printSource?_eq`).
-/

namespace CommandShell.Grep

/-! ## What is to be printed -/

section

variable (isMatch : Text → Bool) (afterContext : ℕ) (lines : List Text)

/-- The line at an index matches; its line end does not count. -/
def IsMatchAt (m : ℕ) : Prop :=
  ∃ l ∈ lines[m]?, isMatch (World.dropLineEnd l) = true

instance : DecidablePred (IsMatchAt isMatch lines) := fun m =>
  inferInstanceAs (Decidable (∃ l ∈ lines[m]?, isMatch (World.dropLineEnd l) = true))

/-- The line at an index is in the window of a line that matches. -/
def IsShown (i : ℕ) : Prop :=
  ∃ m, m ≤ i ∧ i ≤ m + afterContext ∧ IsMatchAt isMatch lines m

instance : DecidablePred (IsShown isMatch afterContext lines) := fun i =>
  decidable_of_iff (∃ m, m < i + 1 ∧ i ≤ m + afterContext ∧ IsMatchAt isMatch lines m)
    (exists_congr fun _ => and_congr Nat.lt_succ_iff Iff.rfl)

end

section

variable (afterContext : ℕ) (label : Text) (shown : ℕ → Prop) [DecidablePred shown]

/-- A line that is printed.  With context, a separator stands before a line that is not the first
one shown when the line before it is not shown. -/
def printLine (i : ℕ) (l : Text) : Text :=
  (if 0 < afterContext ∧ (∃ j, j < i ∧ shown j) ∧ ¬ shown (i - 1) then "--\n".toList else []) ++
    label ++ l

/-- The lines that are shown, in their order, of lines that are counted from an index on. -/
def printout (first : ℕ) (lines : List Text) : Text :=
  ((lines.zipIdx first).filter fun p => shown p.2).flatMap fun p =>
    printLine afterContext label shown p.2 p.1

end

/-! ## The flags -/

/-- Marking sets the flags of a window and keeps the others. -/
lemma mark_map_range (first last n : ℕ) (flag : ℕ → Bool) :
    mark first last ((List.range n).map flag) =
      (List.range n).map fun i => flag i || (first ≤ i && i < last) := by
  refine List.ext_getElem? fun i => ?_
  by_cases hi : i < n
  · simp [mark, hi]
  · simp [mark, hi]

/-- A line has its flag set when it is in the window of one of the matches. -/
lemma printFlags_eq (afterContext total : ℕ) (ms : List ℕ) :
    printFlags afterContext total ms = (List.range total).map fun i =>
      ms.any fun m => m ≤ i && i < windowEnd afterContext total m := by
  -- From any flags on, each match adds its window.
  have hfold : ∀ (ms : List ℕ) (flag : ℕ → Bool),
      ms.foldl (fun flags m => mark m (windowEnd afterContext total m) flags)
          ((List.range total).map flag) =
        (List.range total).map fun i =>
          flag i || ms.any fun m => m ≤ i && i < windowEnd afterContext total m := by
    intro ms
    induction ms with
    | nil => simp
    | cons m ms ih =>
      intro flag
      rw [List.foldl_cons, mark_map_range, ih]
      simp only [List.any_cons, Bool.or_assoc]
  have hstart : List.replicate total false = (List.range total).map fun _ => false := by
    simp [List.map_const']
  rw [printFlags, hstart, hfold]
  simp only [Bool.false_or]

/-- The sums that stay at the largest word end a window where the unbounded sum does. -/
lemma lt_windowEnd_iff {afterContext total m i : ℕ} (htotal : total < Text.wordLimit)
    (hi : i < total) : i < windowEnd afterContext total m ↔ i ≤ m + afterContext := by
  simp only [windowEnd, saturatingAdd, Text.wordLimit] at htotal ⊢
  omega

/-- The indices of the lines that match. -/
lemma mem_matchIndices {isMatch : Text → Bool} {lines : List Text} {m : ℕ} :
    m ∈ matchIndices isMatch lines ↔ ∃ l ∈ lines[m]?, isMatch (withoutEnd l) = true := by
  simp [matchIndices, List.mem_zipIdx_iff_getElem?]

/-! ## Lines and their ends -/

/-- A line of a text has a line end at most at its own end. -/
lemma exists_of_mem_linesWithEnds {t l : Text} (hl : l ∈ Text.linesWithEnds t) :
    ∃ body, '\n' ∉ body ∧ (l = body ++ ['\n'] ∨ l = body) := by
  induction t using induction_on_lines (e := '\n') with
  | last t ht =>
    by_cases hnil : t = []
    · rw [hnil] at hl
      cases hl
    · rw [Text.linesWithEnds_of_not_mem ht hnil, List.mem_singleton] at hl
      exact ⟨t, ht, .inr hl⟩
  | line t rest ht ih =>
    rw [Text.linesWithEnds_append ht] at hl
    rcases List.mem_cons.mp hl with hl | hl
    · exact ⟨t, ht, .inl hl⟩
    · exact ih hl

/-- Removing all line ends at the end of a line of a text removes the one it may have. -/
lemma withoutEnd_eq_dropLineEnd {t l : Text} (hl : l ∈ Text.linesWithEnds t) :
    withoutEnd l = World.dropLineEnd l := by
  obtain ⟨body, hbody, hl⟩ := exists_of_mem_linesWithEnds hl
  have hstop : body.reverse.dropWhile (· == '\n') = body.reverse := by
    cases hrev : body.reverse with
    | nil => rfl
    | cons c rest =>
      have hc : c ∈ body := List.mem_reverse.mp (hrev ▸ List.mem_cons_self ..)
      have hne : c ≠ '\n' := fun h => hbody (h ▸ hc)
      exact List.dropWhile_cons_of_neg (by simpa using hne)
  have hlast : body.getLast? ≠ some '\n' := fun h => hbody (List.mem_of_getLast? h)
  rcases hl with rfl | rfl
  · simp [withoutEnd, World.dropLineEnd, hstop]
  · simp [withoutEnd, World.dropLineEnd, hstop, hlast]

/-- The flag of a line of a text says whether it is shown. -/
lemma flag_eq_isShown {isMatch : Text → Bool} {afterContext i : ℕ} {t : Text}
    (htotal : (Text.linesWithEnds t).length < Text.wordLimit)
    (hi : i < (Text.linesWithEnds t).length) :
    ((matchIndices isMatch (Text.linesWithEnds t)).any fun m =>
        m ≤ i && i < windowEnd afterContext (Text.linesWithEnds t).length m) =
      decide (IsShown isMatch afterContext (Text.linesWithEnds t) i) := by
  have hmatch : ∀ m, m ∈ matchIndices isMatch (Text.linesWithEnds t) ↔
      IsMatchAt isMatch (Text.linesWithEnds t) m := by
    intro m
    rw [mem_matchIndices]
    refine exists_congr fun l => and_congr_right fun hl => ?_
    rw [withoutEnd_eq_dropLineEnd (List.mem_of_getElem? hl)]
  rw [Bool.eq_iff_iff, List.any_eq_true, decide_eq_true_iff]
  refine exists_congr fun m => ?_
  rw [hmatch, Bool.and_eq_true, decide_eq_true_iff, decide_eq_true_iff, lt_windowEnd_iff htotal hi]
  exact ⟨fun h => ⟨h.2.1, h.2.2, h.1⟩, fun h => ⟨h.2.2, h.1, h.2.1⟩⟩

/-! ## Going through the lines -/

/-- The index that is carried along: that of the last line shown before an index, if any is. -/
def IsLastShown (shown : ℕ → Prop) (i : ℕ) : Option ℕ → Prop
  | none => ∀ j < i, ¬ shown j
  | some k => k < i ∧ shown k ∧ ∀ j, k < j → j < i → ¬ shown j

section

variable {shown : ℕ → Prop} {i : ℕ} {last : Option ℕ}

/-- A gap between the last line shown and a line is seen from the line before it. -/
lemma IsLastShown.any_iff (h : IsLastShown shown i last) :
    last.any (fun k => k + 1 < i) = true ↔ (∃ j, j < i ∧ shown j) ∧ ¬ shown (i - 1) := by
  cases last with
  | none =>
    refine iff_of_false (by simp) ?_
    rintro ⟨⟨j, hj, hshown⟩, -⟩
    exact h j hj hshown
  | some k =>
    obtain ⟨hk, hshown, hgap⟩ := h
    rw [Option.any_some, decide_eq_true_iff]
    constructor
    · intro hlt
      exact ⟨⟨k, hk, hshown⟩, hgap (i - 1) (by omega) (by omega)⟩
    · rintro ⟨-, hnot⟩
      by_contra hle
      obtain rfl : k = i - 1 := by omega
      exact hnot hshown

/-- A line that is shown becomes the last one. -/
lemma IsLastShown.of_shown (hi : shown i) : IsLastShown shown (i + 1) (some i) :=
  ⟨Nat.lt_succ_self i, hi, fun j hij hj => absurd hj (by omega)⟩

/-- A line that is not shown leaves the last one what it was. -/
lemma IsLastShown.of_not_shown (h : IsLastShown shown i last) (hi : ¬ shown i) :
    IsLastShown shown (i + 1) last := by
  cases last with
  | none =>
    intro j hj
    rcases Nat.lt_succ_iff_lt_or_eq.mp hj with hj | rfl
    · exact h j hj
    · exact hi
  | some k =>
    obtain ⟨hk, hshown, hgap⟩ := h
    refine ⟨Nat.lt_succ_of_lt hk, hshown, fun j hkj hj => ?_⟩
    rcases Nat.lt_succ_iff_lt_or_eq.mp hj with hj | rfl
    · exact hgap j hkj hj
    · exact hi

/-- Going through the lines with the last index prints those that are shown. -/
lemma printFrom_eq_printout [DecidablePred shown] (afterContext : ℕ) (label : Text)
    (h : IsLastShown shown i last) (lines : List Text) :
    printFrom afterContext label last i
        ((lines.zipIdx i).map fun p => (p.1, decide (shown p.2))) =
      printout afterContext label shown i lines := by
  induction lines generalizing i last with
  | nil => rfl
  | cons l lines ih =>
    rw [printout, List.zipIdx_cons, List.map_cons, printFrom]
    by_cases hi : shown i
    · have hseparator : (0 < afterContext && last.any fun k => k + 1 < i) = true ↔
          0 < afterContext ∧ (∃ j, j < i ∧ shown j) ∧ ¬ shown (i - 1) := by
        rw [Bool.and_eq_true, decide_eq_true_iff, h.any_iff]
      rw [List.filter_cons_of_pos (by simpa using hi), List.flatMap_cons, ih (.of_shown hi),
        if_pos (decide_eq_true hi), if_congr hseparator rfl rfl]
      simp only [printLine, printout, List.append_assoc]
    · rw [List.filter_cons_of_neg (by simpa using hi), ih (h.of_not_shown hi),
        if_neg (by simpa using hi)]
      rfl

end

/-- A search of the lines of a text prints those that are shown. -/
lemma printSource_eq_printout (isMatch : Text → Bool) (afterContext : ℕ) (label : Text) {t : Text}
    (htotal : (Text.linesWithEnds t).length < Text.wordLimit) :
    printSource isMatch afterContext label (Text.linesWithEnds t) =
      printout afterContext label (IsShown isMatch afterContext (Text.linesWithEnds t)) 0
        (Text.linesWithEnds t) := by
  have hstart : IsLastShown (IsShown isMatch afterContext (Text.linesWithEnds t)) 0 none :=
    fun j hj => absurd hj (Nat.not_lt_zero j)
  rw [← printFrom_eq_printout afterContext label hstart, printSource, printFlags_eq,
    List.zip_map_right, List.range_eq_range', ← List.zipIdx_eq_zip_range']
  refine congrArg (printFrom afterContext label none 0) (List.map_congr_left fun p hp => ?_)
  have hp : p.2 < (Text.linesWithEnds t).length := by
    simpa using List.snd_lt_of_mem_zipIdx hp
  exact congrArg (Prod.mk p.1) (flag_eq_isShown htotal hp)

/-! ## Slices, indices and sums -/

/-- A sum, if it is a machine word. -/
def add? (a b : ℕ) : Option ℕ :=
  if a + b < Text.wordLimit then some (a + b) else none

/-- Set the flags of a slice, if the slice is one of the flags. -/
def mark? (first last : ℕ) (flags : List Bool) : Option (List Bool) :=
  if first ≤ last ∧ last ≤ flags.length then some (mark first last flags) else none

/-- The flags of lines, with each slice checked. -/
def printFlags? (afterContext total : ℕ) (ms : List ℕ) : Option (List Bool) :=
  ms.foldlM (fun flags m => mark? m (windowEnd afterContext total m) flags)
    (List.replicate total false)

/-- Print the lines from an index on, with each index and sum checked. -/
def printFrom? (afterContext : ℕ) (label : Text) (flags : List Bool) :
    Option ℕ → ℕ → List Text → Option Text
  | _, _, [] => some []
  | last, i, l :: rest =>
    match flags[i]? with
    | none => none
    | some false => printFrom? afterContext label flags last (i + 1) rest
    | some true =>
      match last.mapM fun k => add? k 1 with
      | none => none
      | some next =>
        let separator := if 0 < afterContext && next.any (· < i) then "--\n".toList else []
        (printFrom? afterContext label flags (some i) (i + 1) rest).map
          (separator ++ label ++ l ++ ·)

/-- What a search prints of the lines of a source, with each slice, index and sum checked. -/
def printSource? (isMatch : Text → Bool) (afterContext : ℕ) (label : Text) (lines : List Text) :
    Option Text :=
  match printFlags? afterContext lines.length (matchIndices isMatch lines) with
  | none => none
  | some flags => printFrom? afterContext label flags none 0 lines

/-- There is a flag for each line. -/
lemma length_mark (first last : ℕ) (flags : List Bool) :
    (mark first last flags).length = flags.length :=
  List.length_mapIdx

/-- The window of a match is a slice of the flags. -/
lemma printFlags?_eq {afterContext total : ℕ} {ms : List ℕ} (htotal : total < Text.wordLimit)
    (hms : ∀ m ∈ ms, m < total) :
    printFlags? afterContext total ms = some (printFlags afterContext total ms) := by
  have hfold : ∀ (ms : List ℕ) (flags : List Bool), (∀ m ∈ ms, m < total) →
      flags.length = total →
      ms.foldlM (fun flags m => mark? m (windowEnd afterContext total m) flags) flags =
        some (ms.foldl (fun flags m => mark m (windowEnd afterContext total m) flags) flags) := by
    intro ms
    induction ms with
    | nil => intro flags _ _; rfl
    | cons m ms ih =>
      intro flags hms hlength
      obtain ⟨hm, hms⟩ := List.forall_mem_cons.mp hms
      have hfirst : m < windowEnd afterContext total m :=
        (lt_windowEnd_iff htotal hm).mpr (Nat.le_add_right m afterContext)
      have hlast : windowEnd afterContext total m ≤ flags.length :=
        hlength ▸ Nat.min_le_right _ _
      have hmark : mark? m (windowEnd afterContext total m) flags =
          some (mark m (windowEnd afterContext total m) flags) :=
        if_pos ⟨Nat.le_of_lt hfirst, hlast⟩
      rw [List.foldlM_cons, hmark, List.foldl_cons]
      exact ih _ hms ((length_mark _ _ _).trans hlength)
  exact hfold ms _ hms (List.length_replicate ..)

/-- Each line has its flag, and the index after the last line printed is a machine word. -/
lemma printFrom?_eq (afterContext : ℕ) (label : Text) {flags : List Bool} {last : Option ℕ} {i : ℕ}
    {lines : List Text} (hflags : flags.length < Text.wordLimit)
    (hlines : i + lines.length = flags.length) (hlast : ∀ k ∈ last, k < i) :
    printFrom? afterContext label flags last i lines =
      some (printFrom afterContext label last i (lines.zip (flags.drop i))) := by
  induction lines generalizing i last with
  | nil => rfl
  | cons l lines ih =>
    rw [List.length_cons] at hlines
    have hi : i < flags.length := by omega
    have hnext : ∀ k ∈ last, k < i + 1 := fun k hk => Nat.lt_succ_of_lt (hlast k hk)
    have hadd : (last.mapM fun k => add? k 1) = some (last.map (· + 1)) := by
      cases last with
      | none => rfl
      | some k =>
        have hk : k + 1 < Text.wordLimit := by
          have := hlast k rfl
          omega
        simp [add?, hk]
    rw [printFrom?, List.drop_eq_getElem_cons hi, List.zip_cons_cons, printFrom,
      List.getElem?_eq_getElem hi]
    cases flags[i] with
    | false =>
      simp only [Bool.false_eq_true, if_false]
      exact ih (by omega) hnext
    | true =>
      simp only [hadd, if_true]
      rw [ih (by omega) (by simp)]
      simp [Option.any_map]

/-- No slice, index or sum of a search is out of range. -/
lemma printSource?_eq (isMatch : Text → Bool) (afterContext : ℕ) (label : Text) {lines : List Text}
    (htotal : lines.length < Text.wordLimit) :
    printSource? isMatch afterContext label lines =
      some (printSource isMatch afterContext label lines) := by
  have hms : ∀ m ∈ matchIndices isMatch lines, m < lines.length := by
    intro m hm
    obtain ⟨l, hl, -⟩ := mem_matchIndices.mp hm
    exact (List.getElem?_eq_some_iff.mp hl).1
  have hlength : (printFlags afterContext lines.length (matchIndices isMatch lines)).length =
      lines.length := by
    rw [printFlags_eq, List.length_map, List.length_range]
  rw [printSource?, printFlags?_eq htotal hms]
  exact printFrom?_eq afterContext label (by rwa [hlength]) (by simp [hlength]) (by simp)

/-! ## The whole search -/

/-- A source is read as the lines of its text.  Of these a search prints the ones in the window of a
match, each once and in their order, with the label before it; and with context a separator before
each that does not follow on the one printed last.  No slice, index or sum is out of range on the
way. -/
theorem printSource_prints_shown (isMatch : Text → Bool) (afterContext : ℕ) (label : Text)
    {t : Text} (htotal : (Text.linesWithEnds t).length < Text.wordLimit) :
    readLines (Utf8.encode t) = some (Text.linesWithEnds t) ∧
    printSource isMatch afterContext label (Text.linesWithEnds t) =
      printout afterContext label (IsShown isMatch afterContext (Text.linesWithEnds t)) 0
        (Text.linesWithEnds t) ∧
    printSource? isMatch afterContext label (Text.linesWithEnds t) =
      some (printSource isMatch afterContext label (Text.linesWithEnds t)) := by
  refine ⟨?_, printSource_eq_printout isMatch afterContext label htotal,
    printSource?_eq isMatch afterContext label htotal⟩
  rw [readLines_eq, Utf8.decode?_encode, Option.map_some]

/-- Windows that touch make one block, and one that runs past the end is cut there. -/
theorem printSource_prints_shown_touching :
    (Text.linesWithEnds "m\na\nb\nm\nm\nc\nm".toList).length < Text.wordLimit ∧
      printSource (· == ['m']) 1 ['f', ':']
          (Text.linesWithEnds "m\na\nb\nm\nm\nc\nm".toList) =
        "f:m\nf:a\n--\nf:m\nf:m\nf:c\nf:m".toList := by
  have htotal : (Text.linesWithEnds "m\na\nb\nm\nm\nc\nm".toList).length < Text.wordLimit := by
    decide
  refine ⟨htotal, ?_⟩
  rw [(printSource_prints_shown (· == ['m']) 1 ['f', ':'] htotal).2.1]
  decide +kernel

end CommandShell.Grep
