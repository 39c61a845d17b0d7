import CommandShell.Proofs.Encoding
import CommandShell.Proofs.Numbers
import CommandShell.Proofs.RealPaths
import CommandShell.Proofs.Sources
import CommandShell.Proofs.Splitting
import Mathlib.Algebra.GroupWithZero.Nat
import Mathlib.Data.List.Basic
import Mathlib.Logic.ExistsUnique

/-!
# Counting files one by one and all together

`wc` counts lines, words and bytes.  The bytes of texts one after the other are those of the texts
taken together, but lines and words are not: a last line without a line end goes on in the next
text, and so does a word that touches the boundary.  A text that is empty or ends with a line end
(`Text.IsClosed`) is cut off from what follows in both respects, because a line end is a blank.
Over such texts all three numbers add up, so what `wc` says of files printed by `cat` is the sum of
what it says of each of them (`Count.ofText_flatten`).

What is counted is said without the counting: a text has as many lines as line ends, and one more
when it is not closed; its words are the maximal runs of `Text.SplitsInto`, of which there is only
one list (`Text.splitsInto_iff`).
-/

namespace CommandShell

/-! ## Texts that are cut off from what follows -/

namespace Text

/-- The text is empty or ends with a line end. -/
def IsClosed (t : Text) : Prop :=
  t = [] ∨ t.getLast? = some '\n'

instance : DecidablePred IsClosed := fun t =>
  inferInstanceAs (Decidable (t = [] ∨ t.getLast? = some '\n'))

variable {t u w : Text} {ws us : List Text}

/-- After a line end only what follows decides whether a text is closed. -/
lemma isClosed_append_lineEnd (t rest : Text) : IsClosed (t ++ '\n' :: rest) ↔ IsClosed rest := by
  cases rest with
  | nil => simp [IsClosed]
  | cons c rest => simp [IsClosed, List.getLast?_append, List.getLast?_cons_cons]

/-- Without a line end only the empty text is closed. -/
lemma isClosed_of_not_mem (ht : '\n' ∉ t) : IsClosed t ↔ t = [] := by
  have hlast : t.getLast? ≠ some '\n' := fun h => ht (List.mem_of_getLast? h)
  simp [IsClosed, hlast]

/-! ## Lines -/

/-- The lines of a closed text stay the same whatever follows. -/
lemma linesWithEnds_append_of_isClosed (ht : IsClosed t) (u : Text) :
    linesWithEnds (t ++ u) = linesWithEnds t ++ linesWithEnds u := by
  induction t using induction_on_lines (e := '\n') with
  | last t hmem =>
    obtain rfl := (isClosed_of_not_mem hmem).mp ht
    rfl
  | line t rest hmem ih =>
    have hrest := ih ((isClosed_append_lineEnd t rest).mp ht)
    rw [List.append_assoc, List.cons_append, linesWithEnds_append hmem, linesWithEnds_append hmem,
      hrest, List.cons_append]

/-- There are as many lines as line ends, and one more in a text that is not closed. -/
lemma length_linesWithEnds (t : Text) :
    (linesWithEnds t).length = t.count '\n' + if IsClosed t then 0 else 1 := by
  induction t using induction_on_lines (e := '\n') with
  | last t hmem =>
    rw [List.count_eq_zero_of_not_mem hmem]
    by_cases hnil : t = []
    · rw [hnil]
      rfl
    · rw [linesWithEnds_of_not_mem hmem hnil, if_neg ((isClosed_of_not_mem hmem).not.mpr hnil)]
      rfl
  | line t rest hmem ih =>
    simp only [linesWithEnds_append hmem, List.length_cons, ih, isClosed_append_lineEnd,
      List.count_append, List.count_eq_zero_of_not_mem hmem, List.count_cons_self]
    omega

/-! ## Words -/

/-- Blanks in front belong to no word. -/
lemma words_append_of_isBlankText (hb : w.isBlankText = true) (t : Text) :
    words (w ++ t) = words t := by
  induction w with
  | nil => rfl
  | cons c w ih =>
    obtain ⟨hc, hw⟩ := List.forall_mem_cons.mp (isBlankText_iff.mp hb)
    rw [List.cons_append, words, if_pos hc, ih (isBlankText_iff.mpr hw)]

/-- A run that is followed by a blank, or by nothing, is a word. -/
lemma words_append_of_stops (hne : w ≠ []) (hw : ∀ c ∈ w, isBlank c = false)
    (ht : Stops (!isBlank ·) t) : words (w ++ t) = w :: words t := by
  induction w with
  | nil => exact absurd rfl hne
  | cons c w ih =>
    obtain ⟨hc, hw⟩ := List.forall_mem_cons.mp hw
    rw [List.cons_append, words, if_neg (by simp [hc])]
    cases w with
    | nil =>
      have hnext : t.head?.any (!isBlank ·) = false := by
        cases t with
        | nil => rfl
        | cons d t => simpa using ht
      rw [List.nil_append, hnext]
    | cons d w =>
      have hd : isBlank d = false := hw d (List.mem_cons_self ..)
      rw [ih (List.cons_ne_nil d w) hw]
      simp [hd]

/-- The maximal runs of a text are its words, and nothing else is. -/
lemma splitsInto_iff : SplitsInto t ws ↔ ws = words t := by
  constructor
  · intro h
    induction h with
    | blanks hb =>
      have hwords := words_append_of_isBlankText hb []
      rw [List.append_nil] at hwords
      exact hwords.symm
    | word hb hne hw hstop ht ih =>
      rw [words_append_of_isBlankText hb, words_append_of_stops hne hw hstop, ih]
  · rintro rfl
    exact splitsInto_words t

/-- Blanks in front change no runs. -/
lemma SplitsInto.append_blanks (h : SplitsInto u us) (hb : t.isBlankText = true) :
    SplitsInto (t ++ u) us := by
  rw [splitsInto_iff] at h ⊢
  rw [words_append_of_isBlankText hb, h]

/-- The runs of a closed text stay the same whatever follows. -/
lemma SplitsInto.append (h : SplitsInto t ws) (ht : IsClosed t) (hu : SplitsInto u us) :
    SplitsInto (t ++ u) (ws ++ us) := by
  induction h with
  | blanks hb => exact hu.append_blanks hb
  | @word b w t ws hb hne hw hstop hrest ih =>
    -- The last character is no character of the run, so something follows the run.
    have hclosed : t ≠ [] ∧ IsClosed t := by
      rcases ht with hnil | hlast
      · simp [hne] at hnil
      · by_cases hnil : t = []
        · rw [hnil, List.append_nil, List.getLast?_append_of_ne_nil _ hne] at hlast
          have hblank := hw '\n' (List.mem_of_getLast? hlast)
          exact absurd hblank (by decide)
        · rw [List.getLast?_append_of_ne_nil _ (by simp [hnil]),
            List.getLast?_append_of_ne_nil _ hnil] at hlast
          exact ⟨hnil, .inr hlast⟩
    have hstop' : Stops (!isBlank ·) (t ++ u) := (stops_append hclosed.1).mpr hstop
    have happend := SplitsInto.word hb hne hw hstop' (ih hclosed.2)
    simpa using happend

/-- The words of a closed text stay the same whatever follows. -/
lemma words_append_of_isClosed (ht : IsClosed t) (u : Text) : words (t ++ u) = words t ++ words u :=
  (splitsInto_iff.mp ((splitsInto_words t).append ht (splitsInto_words u))).symm

end Text

/-! ## Bytes -/

namespace Utf8

lemma size_append (t u : Text) : size (t ++ u) = size t + size u := by
  rw [size, encode_append, List.length_append, size, size]

/-- The bytes of a text are those of its characters. -/
lemma size_eq_sum (t : Text) : size t = (t.map Char.utf8Size).sum := by
  simp [size, encode, List.length_flatMap, String.length_utf8EncodeChar]

end Utf8

/-! ## All three numbers -/

namespace Count

open Text

/-- Counts added up column by column. -/
def total (counts : List Count) : Count :=
  ⟨(counts.map lines).sum, (counts.map words).sum, (counts.map bytes).sum⟩

lemma ofText_append {t : Text} (ht : t.IsClosed) (u : Text) :
    ofText (t ++ u) = ⟨(ofText t).lines + (ofText u).lines, (ofText t).words + (ofText u).words,
      (ofText t).bytes + (ofText u).bytes⟩ := by
  simp only [ofText, linesWithEnds_append_of_isClosed ht, words_append_of_isClosed ht,
    Utf8.size_append, List.length_append]

/-- The numbers of closed texts add up. -/
lemma ofText_flatten {ts : List Text} (hts : ∀ t ∈ ts, t.IsClosed) :
    ofText ts.flatten = total (ts.map ofText) := by
  induction ts with
  | nil => rfl
  | cons t ts ih =>
    obtain ⟨ht, hts⟩ := List.forall_mem_cons.mp hts
    rw [List.flatten_cons, ofText_append ht, ih hts]
    simp [total]

/-! ### Counts as they are printed -/

/-- The row that is printed of a file. -/
def row (c : Count) (file : Text) : Text :=
  c.render ++ ' ' :: file

/-- The numbers that a row begins with. -/
def read? (row : Text) : Option Count :=
  match (pieces ' ' row).map decimal? with
  | some lines :: some words :: some bytes :: _ => some ⟨lines, words, bytes⟩
  | _ => none

lemma space_not_mem_ofNat (n : ℕ) : ' ' ∉ Text.ofNat n := by
  intro h
  exact absurd (isDigit_of_mem_ofNat h) (by decide)

/-- The numbers are read back from a count. -/
lemma read?_render (c : Count) : read? c.render = some c := by
  simp [read?, render, pieces_append, pieces_of_not_mem, space_not_mem_ofNat, decimal?_ofNat]

/-- The numbers are read back from a row, whatever the file is called. -/
lemma read?_row (c : Count) (file : Text) : read? (c.row file) = some c := by
  simp [read?, row, render, pieces_append, space_not_mem_ofNat, decimal?_ofNat]

end Count

/-! ## Files -/

namespace World

variable {w : World} {env : Environment} {sources : List (Text × Text)}

lemma concatFiles_of_readFile (hread : ∀ s ∈ sources, w.readFile env s.1 = .ok s.2) :
    w.concatFiles env (sources.map Prod.fst) = .ok (sources.map Prod.snd).flatten := by
  induction sources with
  | nil => rfl
  | cons s sources ih =>
    obtain ⟨hs, hread⟩ := List.forall_mem_cons.mp hread
    simp only [List.map_cons, concatFiles, hs, ih hread, List.flatten_cons]

lemma countFiles_of_readFile (hread : ∀ s ∈ sources, w.readFile env s.1 = .ok s.2) :
    w.countFiles env (sources.map Prod.fst) =
      .ok (sources.map fun s => (Count.ofText s.2).row s.1) := by
  induction sources with
  | nil => rfl
  | cons s sources ih =>
    obtain ⟨hs, hread⟩ := List.forall_mem_cons.mp hread
    simp only [List.map_cons, countFiles, hs, ih hread, Count.row]

end World

namespace Pipeline

open Text

variable {w : World} {env : Environment} {sources : List (Text × Text)}

/-- `wc` of files that can be read prints a row for each of them. -/
lemma run_wc (hne : sources ≠ []) (hread : ∀ s ∈ sources, w.readFile env s.1 = .ok s.2) :
    (run w env [.wc (sources.map Prod.fst)]).result =
      .ok (0, some (joinWith ['\n'] (sources.map fun s => (Count.ofText s.2).row s.1))) := by
  have hcount := World.countFiles_of_readFile hread
  obtain ⟨s, sources, rfl⟩ := List.exists_cons_of_ne_nil hne
  rw [List.map_cons] at hcount ⊢
  simp only [run, runFrom, Invocation.execute, hcount]
  rfl

/-- `wc` after `cat` counts the texts of the files as one text. -/
lemma run_cat_wc (hne : sources ≠ []) (hread : ∀ s ∈ sources, w.readFile env s.1 = .ok s.2) :
    (run w env [.cat (sources.map Prod.fst), .wc []]).result =
      .ok (0, some (Count.ofText (sources.map Prod.snd).flatten).render) := by
  have hconcat := World.concatFiles_of_readFile hread
  obtain ⟨s, sources, rfl⟩ := List.exists_cons_of_ne_nil hne
  rw [List.map_cons] at hconcat ⊢
  simp only [run, runFrom, Invocation.execute, hconcat]
  rfl

/-- Files that can be read, each one empty or with a line end at its end, are counted one by one and
all together with the same result: `wc` prints a row for each of them, `wc` after `cat` prints the
sums of the columns of these rows, and the numbers can be read back from what is printed.  What is
counted is, in every text, the line ends and a last line that has none, the maximal runs of
characters that are not blank, and the bytes of the characters. -/
theorem run_wc_adds_up (w : World) (env : Environment) (sources : List (Text × Text))
    (hne : sources ≠ []) (hread : ∀ s ∈ sources, w.readFile env s.1 = .ok s.2)
    (hclosed : ∀ s ∈ sources, s.2.IsClosed) :
    (run w env [.wc (sources.map Prod.fst)]).result =
        .ok (0, some (joinWith ['\n'] (sources.map fun s => (Count.ofText s.2).row s.1))) ∧
    (run w env [.cat (sources.map Prod.fst), .wc []]).result =
        .ok (0, some (Count.total (sources.map fun s => Count.ofText s.2)).render) ∧
    (∀ c file, Count.read? (c.row file) = some c ∧ Count.read? c.render = some c) ∧
    ∀ t, (∃! runs, SplitsInto t runs) ∧ ∀ runs, SplitsInto t runs →
      Count.ofText t = ⟨t.count '\n' + if t.IsClosed then 0 else 1, runs.length,
        (t.map Char.utf8Size).sum⟩ := by
  refine ⟨run_wc hne hread, ?_, ?_, ?_⟩
  · have htexts : ∀ t ∈ sources.map Prod.snd, t.IsClosed := by
      intro t ht
      obtain ⟨s, hs, rfl⟩ := List.mem_map.mp ht
      exact hclosed s hs
    rw [run_cat_wc hne hread, Count.ofText_flatten htexts, List.map_map]
    rfl
  · intro c file
    exact ⟨c.read?_row file, c.read?_render⟩
  · intro t
    constructor
    · exact ⟨words t, splitsInto_words t, fun runs => splitsInto_iff.mp⟩
    · intro runs hruns
      rw [splitsInto_iff.mp hruns, Count.ofText, length_linesWithEnds, Utf8.size_eq_sum]

/-- Three files with line ends of both kinds, nothing, and a letter of two bytes. -/
def closedFileWorld : World :=
  .ofFiles ⟨[([.ofString "a"], .file (Utf8.encode "one two\r\nthree\n".toList) false),
    ([.ofString "b"], .file [] false),
    ([.ofString "c d"], .file (Utf8.encode "é\n".toList) false)]⟩

/-- An empty file adds nothing, and a blank in the name of a file does not hide the numbers. -/
theorem run_wc_adds_up_crlf :
    (run closedFileWorld ⟨⟨[]⟩, Path.root⟩ [.wc ["a".toList, "b".toList, "c d".toList]]).result =
        .ok (0, some "2 3 15 a\n0 0 0 b\n1 1 3 c d".toList) ∧
    (run closedFileWorld ⟨⟨[]⟩, Path.root⟩
        [.cat ["a".toList, "b".toList, "c d".toList], .wc []]).result =
      .ok (0, some "3 4 18".toList) ∧
    Count.read? "1 1 3 c d".toList = some ⟨1, 1, 3⟩ := by
  have hread : ∀ s ∈ [("a".toList, "one two\r\nthree\n".toList), ("b".toList, []),
      ("c d".toList, "é\n".toList)], closedFileWorld.readFile ⟨⟨[]⟩, Path.root⟩ s.1 = .ok s.2 := by
    decide +kernel
  have h := run_wc_adds_up closedFileWorld ⟨⟨[]⟩, Path.root⟩ _ (by decide) hread (by decide)
  exact ⟨h.1, h.2.1, (h.2.2.1 ⟨1, 1, 3⟩ "c d".toList).1⟩

end Pipeline

end CommandShell
