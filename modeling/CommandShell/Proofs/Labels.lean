import CommandShell.Proofs.Context
import CommandShell.Proofs.RealPaths
import CommandShell.Proofs.Sources
import Mathlib.Data.List.Basic

/-!
# The lines of several files

A search of several files prints each line that matches with the name of its file before it, and
with the line end that it has.  The last line of a file may have none; then the first line that is
printed of a later file stands on the same line.

`Text.cutLines` reads the lines of what was printed.  They are the lines that match, each under the
name of its file, exactly when no file whose last line matches without a line end comes before one
with a match (`Grep.EndsOpen`).  What decides is that lines with an end at most at their own end are
cut apart again exactly when all but the last of them have one (`Text.cutLines_flatten_eq_iff`).
-/

namespace CommandShell

/-! ## Cutting a text into lines -/

namespace Text

/-- The lines of a text without their ends: the pieces between line ends, where an empty piece after
the last line end is none. -/
def cutLines (t : Text) : List Text :=
  if (pieces '\n' t).getLast? = some [] then (pieces '\n' t).dropLast else pieces '\n' t

/-- Nothing has no lines. -/
lemma cutLines_nil : cutLines [] = [] := rfl

/-- A text without a line end is a line, unless it is empty. -/
lemma cutLines_of_not_mem {t : Text} (ht : '\n' ∉ t) (hne : t ≠ []) : cutLines t = [t] := by
  have hlast : [t].getLast? ≠ some [] := by simpa using hne
  rw [cutLines, pieces_of_not_mem ht, if_neg hlast]

/-- A text up to a line end is a line. -/
lemma cutLines_append {t : Text} (ht : '\n' ∉ t) (rest : Text) :
    cutLines (t ++ '\n' :: rest) = t :: cutLines rest := by
  have hne := pieces_ne_nil '\n' rest
  rw [cutLines, pieces_append ht, List.getLast?_cons_of_ne_nil hne,
    List.dropLast_cons_of_ne_nil hne, cutLines]
  split
  · rfl
  · rfl

/-- The lines of a text are its lines with their ends, without these. -/
lemma cutLines_eq (t : Text) : cutLines t = (linesWithEnds t).map World.dropLineEnd := by
  induction t using induction_on_lines (e := '\n') with
  | last t ht =>
    by_cases hne : t = []
    · rw [hne]
      rfl
    · have hlast : t.getLast? ≠ some '\n' := fun h => ht (List.mem_of_getLast? h)
      rw [cutLines_of_not_mem ht hne, linesWithEnds_of_not_mem ht hne, List.map_singleton,
        World.dropLineEnd, if_neg hlast]
  | line t rest ht ih =>
    have hline : World.dropLineEnd (t ++ ['\n']) = t := by simp [World.dropLineEnd]
    rw [cutLines_append ht, linesWithEnds_append ht, List.map_cons, hline, ih]

/-- A text with something in it has lines. -/
lemma cutLines_ne_nil {t : Text} (hne : t ≠ []) : cutLines t ≠ [] := by
  intro hnil
  rw [cutLines_eq, List.map_eq_nil_iff] at hnil
  have hflatten := flatten_linesWithEnds t
  rw [hnil] at hflatten
  exact hne hflatten.symm

/-- What stands before a text and has no line end makes at most a first line. -/
lemma length_cutLines_append_le {body : Text} (hbody : '\n' ∉ body) (t : Text) :
    (cutLines (body ++ t)).length ≤ max 1 (cutLines t).length := by
  by_cases hmem : '\n' ∈ t
  · obtain ⟨first, rest, rfl, hfirst⟩ := List.eq_append_cons_of_mem hmem
    have hjoined : '\n' ∉ body ++ first := by
      rw [List.mem_append, not_or]
      exact ⟨hbody, hfirst⟩
    rw [← List.append_assoc, cutLines_append hjoined, cutLines_append hfirst]
    exact le_max_right _ _
  · have hjoined : '\n' ∉ body ++ t := by
      rw [List.mem_append, not_or]
      exact ⟨hbody, hmem⟩
    refine le_trans ?_ (le_max_left _ _)
    by_cases hne : body ++ t = []
    · rw [hne, cutLines_nil]
      exact Nat.zero_le _
    · rw [cutLines_of_not_mem hjoined hne, List.length_singleton]

/-! ### Lines put together -/

/-- A text with a line end at most at its own end. -/
def IsLine (u : Text) : Prop :=
  ∃ body, '\n' ∉ body ∧ (u = body ++ ['\n'] ∨ u = body)

/-- Lines that are put together are not more lines than before. -/
lemma length_cutLines_flatten_le {us : List Text} (hus : ∀ u ∈ us, IsLine u) :
    (cutLines us.flatten).length ≤ us.length := by
  induction us with
  | nil => rw [List.flatten_nil, cutLines_nil]
  | cons u us ih =>
    obtain ⟨⟨body, hbody, hu⟩, hlines⟩ := List.forall_mem_cons.mp hus
    have hrest := ih hlines
    rcases hu with rfl | rfl
    · have hflatten : ((body ++ ['\n']) :: us).flatten = body ++ '\n' :: us.flatten := by simp
      rw [hflatten, cutLines_append hbody, List.length_cons, List.length_cons]
      exact Nat.succ_le_succ hrest
    · have hle := length_cutLines_append_le hbody us.flatten
      rw [List.flatten_cons, List.length_cons]
      omega

/-- Lines that are put together are cut apart again exactly when every line that another comes after
has a line end. -/
lemma cutLines_flatten_eq_iff {us : List Text} (hus : ∀ u ∈ us, IsLine u) (hne : ∀ u ∈ us, u ≠ []) :
    cutLines us.flatten = us.map World.dropLineEnd ↔
      us.Pairwise fun u _ => u.getLast? = some '\n' := by
  induction us with
  | nil => exact iff_of_true rfl .nil
  | cons u us ih =>
    obtain ⟨⟨body, hbody, hu⟩, hlines⟩ := List.forall_mem_cons.mp hus
    obtain ⟨hu_ne, hlines_ne⟩ := List.forall_mem_cons.mp hne
    rcases hu with rfl | rfl
    · have hflatten : ((body ++ ['\n']) :: us).flatten = body ++ '\n' :: us.flatten := by simp
      have hline : World.dropLineEnd (body ++ ['\n']) = body := by simp [World.dropLineEnd]
      rw [hflatten, cutLines_append hbody, List.map_cons, hline, List.cons_inj_right,
        ih hlines hlines_ne, List.pairwise_cons]
      exact ⟨fun h => ⟨fun _ _ => by simp, h⟩, And.right⟩
    · have hlast : u.getLast? ≠ some '\n' := fun h => hbody (List.mem_of_getLast? h)
      cases us with
      | nil =>
        refine iff_of_true ?_ (List.pairwise_singleton _ _)
        rw [List.flatten_singleton, cutLines_of_not_mem hbody hu_ne, List.map_singleton,
          World.dropLineEnd, if_neg hlast]
      | cons v us =>
        -- The line without an end is joined to the next one, so there is a line too few.
        refine iff_of_false (fun heq => ?_) fun h => ?_
        · have hlength := congrArg List.length heq
          have hle := length_cutLines_append_le hbody (v :: us).flatten
          have hrest := length_cutLines_flatten_le hlines
          rw [List.flatten_cons, List.length_map] at hlength
          simp only [List.length_cons] at hlength hrest
          omega
        · exact hlast ((List.pairwise_cons.mp h).1 v (List.mem_cons_self ..))

end Text

/-! ## What a search prints of one file -/

namespace Grep

variable {isMatch : Text → Bool}

/-- The lines of a source that match, each with the name of the source before it. -/
def labelledMatches (isMatch : Text → Bool) (s : Text × Text) : List Text :=
  ((Text.cutLines s.2).filter isMatch).map (s.1 ++ ':' :: ·)

/-- The last line of a text matches, and has no line end. -/
def EndsOpen (isMatch : Text → Bool) (t : Text) : Prop :=
  t.getLast? ≠ some '\n' ∧ ∃ l ∈ (Text.cutLines t).getLast?, isMatch l = true

/-- The lines that a search without context prints, with the ends that they have. -/
def printedLines (isMatch : Text → Bool) (label t : Text) : List Text :=
  ((Text.linesWithEnds t).filter fun l => isMatch (World.dropLineEnd l)).map (label ++ ·)

/-- Without context the lines that match are shown. -/
lemma isShown_zero_iff {lines : List Text} {i : ℕ} :
    IsShown isMatch 0 lines i ↔ IsMatchAt isMatch lines i := by
  constructor
  · rintro ⟨m, hle, hge, hm⟩
    obtain rfl : m = i := Nat.le_antisymm hle hge
    exact hm
  · intro h
    exact ⟨i, le_rfl, le_rfl, h⟩

/-- Without context a search prints the lines that match, one after the other. -/
lemma printSource_zero (isMatch : Text → Bool) (label : Text) {t : Text}
    (htotal : (Text.linesWithEnds t).length < Text.wordLimit) :
    printSource isMatch 0 label (Text.linesWithEnds t) =
      (printedLines isMatch label t).flatten := by
  rw [printSource_eq_printout isMatch 0 label htotal, printout, printedLines]
  generalize Text.linesWithEnds t = lines
  have hfilter : (lines.zipIdx.filter fun p => IsShown isMatch 0 lines p.2) =
      lines.zipIdx.filter fun p => isMatch (World.dropLineEnd p.1) := by
    refine List.filter_congr fun p hp => ?_
    have hp : lines[p.2]? = some p.1 := List.mem_zipIdx_iff_getElem?.mp hp
    simp [isShown_zero_iff, IsMatchAt, hp]
  have hlines : (lines.zipIdx.filter fun p => isMatch (World.dropLineEnd p.1)).map Prod.fst =
      lines.filter fun l => isMatch (World.dropLineEnd l) := by
    have hmap := List.filter_map (f := Prod.fst) (p := fun l => isMatch (World.dropLineEnd l))
      (l := lines.zipIdx)
    rw [List.zipIdx_map_fst] at hmap
    exact hmap.symm
  have hprint : ∀ p : Text × ℕ,
      printLine 0 label (IsShown isMatch 0 lines) p.2 p.1 = label ++ p.1 := by
    intro p
    simp [printLine]
  rw [hfilter, ← hlines, List.map_map, ← List.flatMap_def]
  exact List.flatMap_congr fun p _ => hprint p

/-- The lines that are printed are the lines that match. -/
lemma map_dropLineEnd_printedLines (isMatch : Text → Bool) (s : Text × Text) :
    (printedLines isMatch (s.1 ++ [':']) s.2).map World.dropLineEnd =
      labelledMatches isMatch s := by
  have hend : ∀ l : Text, World.dropLineEnd (s.1 ++ [':'] ++ l) =
      s.1 ++ ':' :: World.dropLineEnd l := by
    intro l
    cases l with
    | nil => simp [World.dropLineEnd]
    | cons c l =>
      unfold World.dropLineEnd
      rw [List.getLast?_append_of_ne_nil _ (List.cons_ne_nil c l),
        List.dropLast_append_of_ne_nil (List.cons_ne_nil c l)]
      split
      · simp
      · simp
  rw [printedLines, labelledMatches, Text.cutLines_eq, List.filter_map, List.map_map, List.map_map]
  exact List.map_congr_left fun l _ => hend l

/-- Each of them is a line. -/
lemma isLine_of_mem_printedLines {label t u : Text} (hlabel : '\n' ∉ label)
    (hu : u ∈ printedLines isMatch label t) : Text.IsLine u := by
  obtain ⟨l, hl, rfl⟩ := List.mem_map.mp hu
  obtain ⟨body, hbody, hl⟩ := exists_of_mem_linesWithEnds (List.mem_filter.mp hl).1
  refine ⟨label ++ body, ?_, ?_⟩
  · rw [List.mem_append, not_or]
    exact ⟨hlabel, hbody⟩
  · rcases hl with rfl | rfl
    · exact .inl (List.append_assoc ..).symm
    · exact .inr rfl

/-- A line of a text that another comes after has a line end. -/
lemma pairwise_linesWithEnds (t : Text) :
    (Text.linesWithEnds t).Pairwise fun l _ => l.getLast? = some '\n' := by
  induction t using induction_on_lines (e := '\n') with
  | last t ht =>
    by_cases hne : t = []
    · rw [hne]
      exact .nil
    · rw [Text.linesWithEnds_of_not_mem ht hne]
      exact List.pairwise_singleton _ _
  | line t rest ht ih =>
    rw [Text.linesWithEnds_append ht, List.pairwise_cons]
    exact ⟨fun _ _ => by simp, ih⟩

/-- A name before a line leaves its end what it was. -/
lemma getLast?_label_append (name l : Text) :
    (name ++ [':'] ++ l).getLast? = some '\n' ↔ l.getLast? = some '\n' := by
  cases l with
  | nil => simp
  | cons c l => rw [List.getLast?_append_of_ne_nil _ (List.cons_ne_nil c l)]

/-- A line that is printed before another of its source has a line end. -/
lemma pairwise_printedLines (isMatch : Text → Bool) (name t : Text) :
    (printedLines isMatch (name ++ [':']) t).Pairwise fun u _ => u.getLast? = some '\n' := by
  rw [printedLines, List.pairwise_map]
  refine ((pairwise_linesWithEnds t).filter _).imp ?_
  intro l _ hl
  exact (getLast?_label_append name l).mpr hl

/-- A line that matches lacks its end exactly when the text ends with it. -/
lemma exists_open_iff_endsOpen (isMatch : Text → Bool) (t : Text) :
    (∃ l ∈ Text.linesWithEnds t, isMatch (World.dropLineEnd l) = true ∧ l.getLast? ≠ some '\n') ↔
      EndsOpen isMatch t := by
  induction t using induction_on_lines (e := '\n') with
  | last t ht =>
    have hlast : t.getLast? ≠ some '\n' := fun h => ht (List.mem_of_getLast? h)
    have hline : World.dropLineEnd t = t := if_neg hlast
    by_cases hne : t = []
    · simp [hne, EndsOpen, Text.linesWithEnds, Text.cutLines_nil]
    · simp [EndsOpen, Text.linesWithEnds_of_not_mem ht hne, Text.cutLines_of_not_mem ht hne, hline,
        hlast]
  | line t rest ht ih =>
    have hends : EndsOpen isMatch (t ++ '\n' :: rest) ↔ EndsOpen isMatch rest := by
      unfold EndsOpen
      rw [Text.cutLines_append ht]
      by_cases hne : rest = []
      · simp [hne, Text.cutLines_nil]
      · rw [List.getLast?_append_of_ne_nil _ (List.cons_ne_nil _ _),
          List.getLast?_cons_of_ne_nil hne, List.getLast?_cons_of_ne_nil (Text.cutLines_ne_nil hne)]
    rw [hends, ← ih, Text.linesWithEnds_append ht]
    simp

/-- A line that is printed lacks its end exactly when its source ends open. -/
lemma exists_open_printedLines_iff (name t : Text) :
    (∃ u ∈ printedLines isMatch (name ++ [':']) t, u.getLast? ≠ some '\n') ↔
      EndsOpen isMatch t := by
  rw [← exists_open_iff_endsOpen, printedLines]
  constructor
  · rintro ⟨u, hu, hopen⟩
    obtain ⟨l, hl, rfl⟩ := List.mem_map.mp hu
    obtain ⟨hl, hmatch⟩ := List.mem_filter.mp hl
    exact ⟨l, hl, hmatch, fun h => hopen ((getLast?_label_append name l).mpr h)⟩
  · rintro ⟨l, hl, hmatch, hopen⟩
    exact ⟨_, List.mem_map_of_mem (List.mem_filter.mpr ⟨hl, hmatch⟩),
      fun h => hopen ((getLast?_label_append name l).mp h)⟩

/-- What is printed of several sources is cut into its lines exactly when no source that ends open
comes before one with a match. -/
lemma cutLines_printedLines_iff {sources : List (Text × Text)}
    (hnames : ∀ s ∈ sources, '\n' ∉ s.1) :
    Text.cutLines (sources.flatMap fun s => printedLines isMatch (s.1 ++ [':']) s.2).flatten =
        sources.flatMap (labelledMatches isMatch) ↔
      sources.Pairwise fun s s' => EndsOpen isMatch s.2 → labelledMatches isMatch s' = [] := by
  set printed : Text × Text → List Text := fun s => printedLines isMatch (s.1 ++ [':']) s.2
    with hprinted
  have hlines : ∀ u ∈ sources.flatMap printed, Text.IsLine u := by
    intro u hu
    obtain ⟨s, hs, hu⟩ := List.mem_flatMap.mp hu
    exact isLine_of_mem_printedLines (by simpa using hnames s hs) hu
  have hne : ∀ u ∈ sources.flatMap printed, u ≠ [] := by
    intro u hu
    obtain ⟨s, -, hu⟩ := List.mem_flatMap.mp hu
    obtain ⟨l, -, rfl⟩ := List.mem_map.mp hu
    simp
  have hmap : (sources.flatMap printed).map World.dropLineEnd =
      sources.flatMap (labelledMatches isMatch) := by
    rw [List.map_flatMap]
    exact List.flatMap_congr fun s _ => map_dropLineEnd_printedLines isMatch s
  have hpair : ∀ s s' : Text × Text,
      (∀ u ∈ printed s, ∀ v ∈ printed s', u.getLast? = some '\n') ↔
        (EndsOpen isMatch s.2 → labelledMatches isMatch s' = []) := by
    intro s s'
    rw [← exists_open_printedLines_iff s.1, ← map_dropLineEnd_printedLines, List.map_eq_nil_iff]
    constructor
    · rintro h ⟨u, hu, hopen⟩
      exact List.eq_nil_iff_forall_not_mem.mpr fun v hv => hopen (h u hu v hv)
    · intro h u hu v hv
      by_contra hopen
      have hnil : printed s' = [] := h ⟨u, hu, hopen⟩
      rw [hnil] at hv
      cases hv
  rw [← hmap, Text.cutLines_flatten_eq_iff hlines hne, List.pairwise_flatMap]
  simp only [hpair]
  exact and_iff_right fun s _ => pairwise_printedLines isMatch s.1 s.2

end Grep

/-! ## Searching several files -/

namespace World

variable {w : World} {env : Environment}

/-- The lines of a file that can be read are those of its text. -/
lemma searchLines_of_readFile {file t : Text} (h : w.readFile env file = .ok t) :
    w.searchLines env file = .ok (Text.linesWithEnds t) := by
  have hlines := w.toOption_searchLines env file
  rw [h] at hlines
  exact toOption_eq_some_iff.mp hlines

/-- A search of files that can be read prints the lines that match of one after the other. -/
lemma searchFiles_of_readFile (isMatch : Text → Bool) {sources : List (Text × Text)}
    (hread : ∀ s ∈ sources, w.readFile env s.1 = .ok s.2)
    (htotal : ∀ s ∈ sources, (Text.linesWithEnds s.2).length < Text.wordLimit) :
    w.searchFiles env isMatch 0 true (sources.map Prod.fst) =
      .ok (sources.flatMap fun s => Grep.printedLines isMatch (s.1 ++ [':']) s.2).flatten := by
  induction sources with
  | nil => rfl
  | cons s sources ih =>
    obtain ⟨hs, hread⟩ := List.forall_mem_cons.mp hread
    obtain ⟨hlength, htotal⟩ := List.forall_mem_cons.mp htotal
    rw [List.map_cons, searchFiles, searchLines_of_readFile hs, ih hread htotal]
    simp only [if_true, Grep.printSource_zero isMatch _ hlength, List.flatMap_cons,
      List.flatten_append]

/-- A search of two or more files succeeds, and its output is cut into the lines that match, each
under the name of its file, in the order of the files and of their lines, exactly when no file whose
last line matches without a line end comes before one with a match. -/
theorem search_prints_labelled (w : World) (env : Environment) (input output : Slot) (g : Grep)
    (e : Pattern.Expr) (sources : List (Text × Text))
    (hpattern : Pattern.compile g.ignoreCase g.fullPattern = .ok e) (hcontext : g.afterContext = 0)
    (hfiles : g.files = sources.map Prod.fst) (hseveral : 2 ≤ sources.length)
    (hread : ∀ s ∈ sources, w.readFile env s.1 = .ok s.2)
    (htotal : ∀ s ∈ sources, (Text.linesWithEnds s.2).length < Text.wordLimit)
    (hnames : ∀ s ∈ sources, '\n' ∉ s.1) :
    ∃ out, (Invocation.grep g).execute w env input output =
        .written w.files env output (.ok out) ∧
      (Text.cutLines out = sources.flatMap (Grep.labelledMatches e.isMatch) ↔
        sources.Pairwise fun s s' =>
          Grep.EndsOpen e.isMatch s.2 → Grep.labelledMatches e.isMatch s' = []) := by
  have hsearch : w.search env input g = .ok (some (sources.flatMap fun s =>
      Grep.printedLines e.isMatch (s.1 ++ [':']) s.2).flatten) := by
    obtain ⟨file, files, hcons⟩ : ∃ file files, sources.map Prod.fst = file :: files := by
      cases sources with
      | nil => simp at hseveral
      | cons s sources => exact ⟨_, _, List.map_cons⟩
    have hlabelled : decide (1 < (file :: files).length) = true := by
      rw [← hcons, List.length_map]
      exact decide_eq_true hseveral
    simp only [search, hpattern, hfiles, hcons, hcontext, hlabelled]
    rw [← hcons, searchFiles_of_readFile e.isMatch hread htotal]
    rfl
  refine ⟨_, ?_, Grep.cutLines_printedLines_iff hnames⟩
  simp only [Invocation.execute, hsearch]

/-- Two files of one line, of which the first has no line end. -/
def openFileWorld : World :=
  .ofFiles ⟨[([.ofString "a"], .file [120] false), ([.ofString "b"], .file [120, 10] false)]⟩

/-- The file without a line end may come last. -/
theorem search_prints_labelled_open_last :
    (Invocation.grep ⟨"x".toList, ["b".toList, "a".toList], false, false, 0⟩).execute openFileWorld
        ⟨⟨[]⟩, Path.root⟩ Slot.empty Slot.empty =
      .written openFileWorld.files ⟨⟨[]⟩, Path.root⟩ Slot.empty (.ok "b:x\na:x".toList) ∧
    Text.cutLines "b:x\na:x".toList = ["b:x".toList, "a:x".toList] := by
  have hexecute : (Invocation.grep ⟨"x".toList, ["b".toList, "a".toList], false, false, 0⟩).execute
      openFileWorld ⟨⟨[]⟩, Path.root⟩ Slot.empty Slot.empty =
        .written openFileWorld.files ⟨⟨[]⟩, Path.root⟩ Slot.empty (.ok "b:x\na:x".toList) := by
    have hsearch : openFileWorld.search ⟨⟨[]⟩, Path.root⟩ Slot.empty
        ⟨"x".toList, ["b".toList, "a".toList], false, false, 0⟩ =
          .ok (some "b:x\na:x".toList) := by
      decide +kernel
    simp only [Invocation.execute, hsearch]
  have hread : ∀ s ∈ [("b".toList, "x\n".toList), ("a".toList, "x".toList)],
      openFileWorld.readFile ⟨⟨[]⟩, Path.root⟩ s.1 = .ok s.2 := by
    decide +kernel
  obtain ⟨out, hout, hlines⟩ := search_prints_labelled openFileWorld ⟨⟨[]⟩, Path.root⟩
    Slot.empty Slot.empty ⟨"x".toList, ["b".toList, "a".toList], false, false, 0⟩
    (.set false ⟨[(120, 120)]⟩) [("b".toList, "x\n".toList), ("a".toList, "x".toList)]
    rfl rfl rfl (by decide) hread (by decide) (by decide)
  obtain rfl : out = "b:x\na:x".toList := by
    rw [hexecute] at hout
    exact (Option.some.inj (congrArg (fun o : Outcome => o.output.content) hout)).symm
  refine ⟨hexecute, (hlines.mpr ?_).trans rfl⟩
  -- The first file ends with a line end.
  refine List.pairwise_pair.mpr fun hopen => absurd rfl hopen.1

/-- The first line of a file is printed after a line without an end, on the same line. -/
theorem search_joins_open_line :
    ∃ e, Pattern.compile false "x".toList = .ok e ∧
      (Invocation.grep ⟨"x".toList, ["a".toList, "b".toList], false, false, 0⟩).execute
          openFileWorld ⟨⟨[]⟩, Path.root⟩ Slot.empty Slot.empty =
        .written openFileWorld.files ⟨⟨[]⟩, Path.root⟩ Slot.empty (.ok "a:xb:x\n".toList) ∧
      Text.cutLines "a:xb:x\n".toList = ["a:xb:x".toList] ∧
      [("a".toList, "x".toList), ("b".toList, "x\n".toList)].flatMap
        (Grep.labelledMatches e.isMatch) = ["a:x".toList, "b:x".toList] := by
  have hsearch : openFileWorld.search ⟨⟨[]⟩, Path.root⟩ Slot.empty
      ⟨"x".toList, ["a".toList, "b".toList], false, false, 0⟩ =
        .ok (some "a:xb:x\n".toList) := by
    decide +kernel
  refine ⟨.set false ⟨[(120, 120)]⟩, rfl, ?_, rfl, rfl⟩
  simp only [Invocation.execute, hsearch]

end World

end CommandShell
