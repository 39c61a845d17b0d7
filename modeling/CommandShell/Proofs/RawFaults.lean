import CommandShell.Proofs.OpenQuotes
import Mathlib.Data.Nat.Find

/-!
# The faults of a raw line

What is wrong with a raw line can be said without cutting it into regions.  Going through it from
left to right, each place is outside of quotes or inside of quotes of one kind (`Text.stateAt`).  A
`$` calls for a name unless it stands inside of single quotes, and it is bad when none follows
(`Text.IsBadDollar`); a quote is left open when it is never closed (`Text.LeftOpen`).

The scan keeps no state and goes over many characters at a time.  What carries the proof is that the
characters before its place lead to a known state and hold no bad `$` (`Region.At`); each step of
the scan either goes on from such a place or stops at a fault of the line (`Region.Fault`).  An open
quote is noticed only at the end of the line, so a bad `$` comes first wherever the quote was
opened.
-/

namespace CommandShell

open Text QuoteState

/-! ## Places and faults -/

namespace Text

/-- The quotes that a place of a line is in. -/
def stateAt (s : Text) (i : ℕ) : QuoteState :=
  outside.after (s.take i)

/-- The `$` at a place of a line calls for a name, and none follows. -/
def IsBadDollar (s : Text) (i : ℕ) : Prop :=
  s[i]? = some '$' ∧ s.stateAt i ≠ inside '\'' ∧ Stops isNameStart (s.drop (i + 1))

instance (s : Text) (i : ℕ) : Decidable (s.IsBadDollar i) :=
  inferInstanceAs (Decidable (s[i]? = some '$' ∧ s.stateAt i ≠ inside '\'' ∧
    Stops isNameStart (s.drop (i + 1))))

/-- The quote at a place of a line opens quotes that the rest of the line is in. -/
def LeftOpen (s : Text) (quote : Char) (i : ℕ) : Prop :=
  s[i]? = some quote ∧ s.stateAt i = outside ∧
    ∀ j, i < j → j ≤ s.length → s.stateAt j = inside quote

/-- No `$` of a line is bad, and all its quotes are closed. -/
structure IsFaultless (line : Text) : Prop where
  /-- Every `$` that calls for a name has one. -/
  clean : ∀ i, ¬ line.IsBadDollar i
  /-- The line ends outside of quotes. -/
  closed : outside.after line = outside

/-- Past a text, the state of a place is that of the rest of the line begun in the state after
it. -/
lemma stateAt_append (p t : Text) (i : ℕ) :
    stateAt (p ++ t) (p.length + i) = (outside.after p).after (t.take i) := by
  rw [stateAt, List.take_length_add_append, after_append]

/-- Whether a `$` past a text is bad is seen in the rest of the line, begun in the state after the
text. -/
lemma isBadDollar_append_iff (p t : Text) (i : ℕ) :
    IsBadDollar (p ++ t) (p.length + i) ↔
      t[i]? = some '$' ∧ (outside.after p).after (t.take i) ≠ inside '\'' ∧
        Stops isNameStart (t.drop (i + 1)) := by
  rw [IsBadDollar, stateAt_append, Nat.add_assoc, List.drop_length_add_append,
    List.getElem?_append_right (Nat.le_add_right ..), Nat.add_sub_cancel_left]

/-- No place past the end of a line has a bad `$`. -/
lemma IsBadDollar.lt_length {line : Text} {i : ℕ} (h : line.IsBadDollar i) : i < line.length :=
  (List.getElem?_eq_some_iff.mp h.1).1

/-- A quote outside of quotes that does not come again is left open. -/
lemma leftOpen_of_not_mem {p t : Text} {quote : Char} (hquote : quote = '\'' ∨ quote = '"')
    (hp : outside.after p = outside) (ht : quote ∉ t) :
    LeftOpen (p ++ quote :: t) quote p.length := by
  refine ⟨by simp, by simpa [stateAt] using hp, fun j hj _ => ?_⟩
  obtain ⟨k, rfl⟩ : ∃ k, j = p.length + (k + 1) := ⟨j - p.length - 1, by omega⟩
  rw [stateAt_append, hp, List.take_succ_cons]
  exact after_open hquote fun hmem => ht (List.mem_of_mem_take hmem)

/-- A line that leaves a quote open ends inside of it. -/
lemma LeftOpen.after_line {line : Text} {quote : Char} {i : ℕ} (h : line.LeftOpen quote i) :
    outside.after line = inside quote := by
  obtain ⟨hquote, -, hinside⟩ := h
  have hlt : i < line.length := (List.getElem?_eq_some_iff.mp hquote).1
  have hend := hinside line.length hlt le_rfl
  rwa [stateAt, List.take_length] at hend

/-- Only one quote of a line is left open. -/
lemma LeftOpen.unique {line : Text} {quote quote' : Char} {i i' : ℕ}
    (h : line.LeftOpen quote i) (h' : line.LeftOpen quote' i') : quote = quote' ∧ i = i' := by
  have hquote : inside quote = inside quote' := h.after_line.symm.trans h'.after_line
  obtain ⟨hmem, hstate, hinside⟩ := h
  obtain ⟨hmem', hstate', hinside'⟩ := h'
  refine ⟨QuoteState.inside.inj hquote, ?_⟩
  -- The later of two such places would be inside of the quotes that the earlier one opens.
  rcases lt_trichotomy i i' with hlt | heq | hlt
  · rw [hinside i' hlt (List.getElem?_eq_some_iff.mp hmem').1.le] at hstate'
    cases hstate'
  · exact heq
  · rw [hinside' i hlt (List.getElem?_eq_some_iff.mp hmem).1.le] at hstate
    cases hstate

end Text

namespace Region

variable {line : Text} {q : QuoteState} {c : Cursor} {α : Type}

/-- What is wrong with a line: its first bad `$`, or else the quote that is left open. -/
inductive Fault (line : Text) : ScanError → Prop
  | dollar {i : ℕ} (hbad : line.IsBadDollar i) (hfirst : ∀ j < i, ¬ line.IsBadDollar j) :
      Fault line (.invalidVariable (i + 1))
  | quote {quote : Char} {i : ℕ} (hclean : ∀ j, ¬ line.IsBadDollar j)
      (hopen : line.LeftOpen quote i) : Fault line (.unfinishedQuote quote (i + 1))

/-- A step of the scan has come to a result as expected, or to a fault of the line. -/
def Explained (line : Text) (expected : α → Prop) : Except ScanError α → Prop
  | .ok a => expected a
  | .error e => Fault line e

/-- The characters before a place lead to a state and hold no bad `$`, and the column counts them
from one. -/
def At (line : Text) (q : QuoteState) (c : Cursor) : Prop :=
  ∃ p, line = p ++ c.rest ∧ c.column = p.length + 1 ∧ outside.after p = q ∧
    ∀ j < p.length, ¬ line.IsBadDollar j

lemma at_start (line : Text) : At line outside (.start line) :=
  ⟨[], rfl, rfl, rfl, nofun⟩

/-- At the end of a line its state is known, and that there is no bad `$` in it. -/
lemma At.of_rest_eq_nil (h : At line q c) (hc : c.rest = []) :
    (∀ j, ¬ line.IsBadDollar j) ∧ outside.after line = q := by
  obtain ⟨p, hline, -, hq, hclean⟩ := h
  rw [hc, List.append_nil] at hline
  subst hline
  exact ⟨fun j hbad => hclean j hbad.lt_length hbad, hq⟩

/-! ## Going over characters -/

/-- Going over one character leads to the state after it, unless it is a bad `$`. -/
lemma At.cons {d : Char} {rest : Text} (h : At line q c) (hc : c.rest = d :: rest)
    (hd : d = '$' → q = inside '\'' ∨ ¬ Stops isNameStart rest) :
    At line (q.next d) ⟨c.column + 1, rest⟩ := by
  obtain ⟨p, hline, hcolumn, rfl, hclean⟩ := h
  rw [hc] at hline
  refine ⟨p ++ [d], by simpa using hline, ?_, after_append .., fun j hj hbad => ?_⟩
  · simp only [hcolumn, List.length_append, List.length_singleton]
  · rw [List.length_append, List.length_singleton] at hj
    rcases Nat.lt_succ_iff_lt_or_eq.mp hj with hlt | rfl
    · exact hclean j hlt hbad
    · obtain ⟨hdollar, hstate, hstop⟩ :=
        (isBadDollar_append_iff p (d :: rest) 0).mp (by simpa [hline] using hbad)
      rcases hd (by simpa using hdollar) with hq | hname
      · exact hstate hq
      · exact hname hstop

/-- Going over a text leads to the state after it, if every `$` of it stands inside of single
quotes. -/
lemma At.append {n : ℕ} {t rest : Text} (h : At line q ⟨n, t ++ rest⟩)
    (ht : '$' ∈ t → q = inside '\'' ∧ '\'' ∉ t) : At line (q.after t) ⟨n + t.length, rest⟩ := by
  induction t generalizing n q with
  | nil => exact h
  | cons d t ih =>
    have hnext : At line (q.next d) ⟨n + 1, t ++ rest⟩ := by
      refine h.cons rfl fun hd => .inl (ht ?_).1
      rw [hd]
      exact List.mem_cons_self ..
    have hrest := ih hnext fun hmem => by
      obtain ⟨rfl, hquote⟩ := ht (List.mem_cons_of_mem d hmem)
      rw [List.mem_cons, not_or] at hquote
      rw [next, if_neg (Ne.symm hquote.1)]
      exact ⟨rfl, hquote.2⟩
    rw [List.length_cons, Nat.add_comm t.length 1, ← Nat.add_assoc]
    exact hrest

/-- Skipping a run leads to the state after it, if every `$` of it stands inside of single
quotes. -/
lemma At.skipWhile (h : At line q c) (keep : Char → Bool)
    (hkeep : keep '$' = true → q = inside '\'' ∧ keep '\'' = false) :
    At line (q.after (c.run keep)) (c.skipWhile keep) := by
  have hrun : At line q ⟨c.column, c.run keep ++ (c.skipWhile keep).rest⟩ := by
    rwa [c.run_append_skipWhile keep]
  refine hrun.append fun hmem => ?_
  obtain ⟨hq, hquote⟩ := hkeep (Cursor.of_mem_run hmem)
  exact ⟨hq, fun hmem' => by simp [Cursor.of_mem_run hmem'] at hquote⟩

/-- Plain text leaves the state outside of quotes. -/
lemma At.skipWhile_isPlain (h : At line outside c) : At line outside (c.skipWhile isPlain) := by
  have hrun := h.skipWhile isPlain nofun
  rwa [after_of_not_mem (fun hmem => absurd (Cursor.of_mem_run hmem) (by decide))
    fun hmem => absurd (Cursor.of_mem_run hmem) (by decide)] at hrun

/-- Plain text inside of double quotes does not close them. -/
lemma At.skipWhile_isPlainQuoted (h : At line (inside '"') c) :
    At line (inside '"') (c.skipWhile isPlainQuoted) ∧
      ('"' ∉ (c.skipWhile isPlainQuoted).rest → '"' ∉ c.rest) := by
  have hquote : '"' ∉ c.run isPlainQuoted := fun hmem =>
    absurd (Cursor.of_mem_run hmem) (by decide)
  have hrun := h.skipWhile isPlainQuoted nofun
  rw [after_inside hquote] at hrun
  refine ⟨hrun, fun hrest => ?_⟩
  rw [← c.run_append_skipWhile isPlainQuoted, List.mem_append, not_or]
  exact ⟨hquote, hrest⟩

/-- After an apostrophe the state is inside of single quotes up to the next one. -/
lemma At.at_single {rest : Text} (h : At line outside c) (hc : c.rest = '\'' :: rest) :
    At line (inside '\'') (Cursor.skipWhile (· != '\'') ⟨c.column + 1, rest⟩) := by
  have hopen : At line (inside '\'') ⟨c.column + 1, rest⟩ := h.cons hc nofun
  have hrun := hopen.skipWhile (· != '\'') fun _ => ⟨rfl, by decide⟩
  rwa [after_inside fun hmem => by simpa using Cursor.of_mem_run hmem] at hrun

/-- Single quotes that are closed lead from outside of quotes to outside. -/
lemma At.skip_single {d : Char} {rest rest' : Text} (h : At line outside c)
    (hc : c.rest = '\'' :: rest)
    (hq : (Cursor.skipWhile (· != '\'') ⟨c.column + 1, rest⟩).rest = d :: rest') :
    At line outside (Cursor.skipWhile (· != '\'') ⟨c.column + 1, rest⟩).skip := by
  have hd : d = '\'' := by
    have hstop : Stops (· != '\'') (d :: rest') := hq ▸ stops_dropWhile (· != '\'') rest
    simpa using hstop
  have hclose := (h.at_single hc).cons hq fun _ => .inl rfl
  rw [next, if_pos hd] at hclose
  simpa only [Cursor.skip, hq] using hclose

/-- Where a name has to follow a `$` and does not, the line has its first bad `$`. -/
lemma At.fault_dollar {rest : Text} (h : At line q c) (hc : c.rest = '$' :: rest)
    (hq : q ≠ inside '\'') (hstop : Stops isNameStart rest) :
    Fault line (.invalidVariable c.column) := by
  obtain ⟨p, hline, hcolumn, rfl, hclean⟩ := h
  rw [hc] at hline
  rw [hcolumn]
  refine .dollar ?_ hclean
  rw [hline]
  exact (isBadDollar_append_iff p ('$' :: rest) 0).mpr ⟨rfl, hq, hstop⟩

/-- The column of a quote outside of quotes is that of a place where it is left open, if it does
not come again. -/
lemma At.exists_leftOpen {quote : Char} {rest : Text} (h : At line outside c)
    (hc : c.rest = quote :: rest) (hquote : quote = '\'' ∨ quote = '"') :
    ∃ i, c.column = i + 1 ∧ (quote ∉ rest → line.LeftOpen quote i) := by
  obtain ⟨p, hline, hcolumn, hp, -⟩ := h
  rw [hc] at hline
  rw [hline]
  exact ⟨p.length, hcolumn, leftOpen_of_not_mem hquote hp⟩

/-! ## The steps of the scan -/

/-- Without a character that may begin one there is no name. -/
lemma scanName_of_stops {dollar : ℕ} (h : Stops isNameStart c.rest) :
    scanName dollar c = .error (.invalidVariable dollar) := by
  unfold scanName
  split
  · rfl
  · next d t hc =>
    rw [hc, stops_cons] at h
    simp [h]

/-- From a character that may begin one the name is the longest run. -/
lemma scanName_of_not_stops {dollar : ℕ} (h : ¬ Stops isNameStart c.rest) :
    scanName dollar c = .ok (c.run isNameChar, c.skipWhile isNameChar) := by
  obtain ⟨d, t, hc, hd⟩ := exists_cons_of_not_stops h
  simp only [scanName, hc, hd, if_true]

/-- A reference is read to the end of its name and does not change the state, or its `$` is bad. -/
lemma scanName_explained {rest : Text} (h : At line q c) (hc : c.rest = '$' :: rest)
    (hq : q = outside ∨ q = inside '"') :
    Explained line (fun r => At line q r.2) (scanName c.column ⟨c.column + 1, rest⟩) := by
  have hsingle : q ≠ inside '\'' := by rcases hq with rfl | rfl <;> decide
  by_cases hstop : Stops isNameStart rest
  · rw [scanName_of_stops hstop]
    exact h.fault_dollar hc hsingle hstop
  · rw [scanName_of_not_stops hstop]
    have hname := (h.cons hc fun _ => .inr hstop).skipWhile isNameChar nofun
    have hnot : ∀ {d}, isNameChar d = false → d ∉ Cursor.run isNameChar ⟨c.column + 1, rest⟩ :=
      fun hd hmem => by simp [Cursor.of_mem_run hmem] at hd
    rcases hq with rfl | rfl
    · rwa [next, if_neg (by decide),
        after_of_not_mem (hnot (by decide)) (hnot (by decide))] at hname
    · rwa [next, if_neg (by decide), after_inside (hnot (by decide))] at hname

/-- The closing quote is not among the characters of a reference. -/
lemma quote_not_mem_of_scanName {dollar : ℕ} {rest name : Text} {c' : Cursor}
    (hn : scanName dollar ⟨dollar + 1, rest⟩ = .ok (name, c')) (hrest : '"' ∉ c'.rest) :
    '"' ∉ '$' :: rest := by
  obtain ⟨hname, hread, -⟩ := scanName_sound hn
  have hquote : '"' ∉ name := fun hmem => absurd (hname.isNameChar _ hmem) (by decide)
  rw [show rest = name ++ c'.rest from hread]
  simp [hquote, hrest]

/-- The pieces are read to the closing quote, or the line has a fault.  That the quotes opened at
this place stay open is known as soon as no further quote is left. -/
lemma scanPieces_explained {i : ℕ} (h : At line (inside '"') c)
    (hopen : '"' ∉ c.rest → line.LeftOpen '"' i) :
    Explained line (fun r => At line outside r.2) (scanPieces (i + 1) c) := by
  fun_induction scanPieces (i + 1) c with
  | case1 c hc => exact .quote (h.of_rest_eq_nil hc).1 (hopen (by simp [hc]))
  | case2 c rest hc => exact h.cons hc (by simp)
  | case3 c rest e hn hc _ =>
    have hname := scanName_explained h hc (.inr rfl)
    rwa [hn] at hname
  | case4 c rest name c₁ hn e hs hc _ ih =>
    have hname := scanName_explained h hc (.inr rfl)
    rw [hn] at hname
    have hrest := ih hname fun hmem => hopen (hc ▸ quote_not_mem_of_scanName hn hmem)
    rwa [hs] at hrest
  | case5 c rest name c₁ hn ps c₂ hs hc _ ih =>
    have hname := scanName_explained h hc (.inr rfl)
    rw [hn] at hname
    have hrest := ih hname fun hmem => hopen (hc ▸ quote_not_mem_of_scanName hn hmem)
    rwa [hs] at hrest
  | case6 c d rest hc h₁ h₂ e hs ih =>
    obtain ⟨hplain, hquote⟩ := h.skipWhile_isPlainQuoted
    have hrest := ih hplain fun hmem => hopen (hquote hmem)
    rwa [hs] at hrest
  | case7 c d rest hc h₁ h₂ ps c₁ hs ih =>
    obtain ⟨hplain, hquote⟩ := h.skipWhile_isPlainQuoted
    have hrest := ih hplain fun hmem => hopen (hquote hmem)
    rwa [hs] at hrest

/-- Double quotes are read to the closing one, or the line has a fault. -/
lemma scanPieces_explained_of_quote {rest : Text} (h : At line outside c)
    (hc : c.rest = '"' :: rest) :
    Explained line (fun r => At line outside r.2) (scanPieces c.column ⟨c.column + 1, rest⟩) := by
  obtain ⟨i, hcolumn, hopen⟩ := h.exists_leftOpen hc (.inr rfl)
  have hinside : At line (inside '"') ⟨c.column + 1, rest⟩ := h.cons hc nofun
  rw [hcolumn] at hinside ⊢
  exact scanPieces_explained hinside hopen

/-- The regions are read to the end of the line, or it has a fault. -/
lemma scanFrom_explained (h : At line outside c) :
    Explained line (fun _ => line.IsFaultless) (scanFrom c) := by
  fun_induction scanFrom c with
  | case1 c hc =>
    obtain ⟨hclean, hclosed⟩ := h.of_rest_eq_nil hc
    exact ⟨hclean, hclosed⟩
  | case2 c rest c₁ hq hc =>
    have hmem : '\'' ∉ rest := fun hmem => by simpa using List.dropWhile_eq_nil_iff.mp hq _ hmem
    obtain ⟨i, hcolumn, hopen⟩ := h.exists_leftOpen hc (.inl rfl)
    have hend := (h.at_single hc).of_rest_eq_nil hq
    rw [hcolumn]
    exact .quote hend.1 (hopen hmem)
  | case3 c rest c₁ d rest' hq e hs hc =>
    rename_i ih
    have hrest := ih (h.skip_single hc hq)
    rwa [hs] at hrest
  | case4 c rest c₁ d rest' hq rs hs hc =>
    rename_i ih
    have hrest := ih (h.skip_single hc hq)
    rwa [hs] at hrest
  | case5 c rest c₁ e hp hc _ =>
    have hpieces := scanPieces_explained_of_quote h hc
    rwa [hp] at hpieces
  | case6 c rest c₁ ps c₂ hp e hs hc _ =>
    rename_i ih
    have hpieces := scanPieces_explained_of_quote h hc
    rw [hp] at hpieces
    have hrest := ih hpieces
    rwa [hs] at hrest
  | case7 c rest c₁ ps c₂ hp rs hs hc _ =>
    rename_i ih
    have hpieces := scanPieces_explained_of_quote h hc
    rw [hp] at hpieces
    have hrest := ih hpieces
    rwa [hs] at hrest
  | case8 c rest c₁ e hn hc _ _ =>
    have hname := scanName_explained h hc (.inl rfl)
    rwa [hn] at hname
  | case9 c rest c₁ name c₂ hn e hs hc _ _ =>
    rename_i ih
    have hname := scanName_explained h hc (.inl rfl)
    rw [hn] at hname
    have hrest := ih hname
    rwa [hs] at hrest
  | case10 c rest c₁ name c₂ hn rs hs hc _ _ =>
    rename_i ih
    have hname := scanName_explained h hc (.inl rfl)
    rw [hn] at hname
    have hrest := ih hname
    rwa [hs] at hrest
  | case11 c d rest hc h₁ h₂ h₃ e hs ih =>
    have hrest := ih h.skipWhile_isPlain
    rwa [hs] at hrest
  | case12 c d rest hc h₁ h₂ h₃ rs hs ih =>
    have hrest := ih h.skipWhile_isPlain
    rwa [hs] at hrest

/-! ## Whole lines -/

/-- A line has one fault at most. -/
lemma Fault.unique {e e' : ScanError} (h : Fault line e) (h' : Fault line e') : e = e' := by
  cases h with
  | dollar hbad hfirst =>
    cases h' with
    | dollar hbad' hfirst' =>
      have hle := Nat.le_of_not_lt fun hlt => hfirst _ hlt hbad'
      have hle' := Nat.le_of_not_lt fun hlt => hfirst' _ hlt hbad
      rw [le_antisymm hle hle']
    | quote hclean _ => exact absurd hbad (hclean _)
  | quote hclean hopen =>
    cases h' with
    | dollar hbad' _ => exact absurd hbad' (hclean _)
    | quote _ hopen' =>
      obtain ⟨rfl, rfl⟩ := hopen.unique hopen'
      rfl

/-- A line with a fault is not faultless. -/
lemma Fault.not_isFaultless {e : ScanError} (h : Fault line e) : ¬ line.IsFaultless := by
  rintro ⟨hclean, hclosed⟩
  cases h with
  | dollar hbad _ => exact hclean _ hbad
  | quote _ hopen =>
    rw [hopen.after_line] at hclosed
    cases hclosed

/-- A line is cut into regions when it is faultless, and else its fault is reported. -/
lemma scan_explained (line : Text) : Explained line (fun _ => line.IsFaultless) (scan line) :=
  scanFrom_explained (at_start line)

/-- Exactly the faultless lines are cut into regions. -/
lemma exists_scan_iff : (∃ rs, scan line = .ok rs) ↔ line.IsFaultless := by
  have hscan := scan_explained line
  constructor
  · rintro ⟨rs, hrs⟩
    rwa [hrs] at hscan
  · intro hfaultless
    cases hrs : scan line with
    | ok rs => exact ⟨rs, rfl⟩
    | error e =>
      rw [hrs] at hscan
      exact absurd hfaultless (Fault.not_isFaultless hscan)

/-- The scan of a line fails exactly with the fault of the line. -/
lemma scan_eq_error_iff {e : ScanError} : scan line = .error e ↔ Fault line e := by
  have hscan := scan_explained line
  constructor
  · intro he
    rwa [he] at hscan
  · intro hfault
    cases hrs : scan line with
    | ok rs =>
      rw [hrs] at hscan
      exact absurd hscan hfault.not_isFaultless
    | error e' =>
      rw [hrs] at hscan
      rw [Fault.unique hscan hfault]

/-- References are replaced in a line exactly when it is cut into regions, whatever the values
are. -/
lemma substitute_eq_error_iff {value : Text → Text} {e : ScanError} :
    substitute value line = .error e ↔ scan line = .error e := by
  unfold substitute
  cases scan line with
  | ok rs => simp [Except.map]
  | error e' => simp [Except.map]

/-- Cutting a line into regions fails where it should, and only there.  If a `$` of the line is bad,
the first bad one is reported, also where a quote is left open; if none is and the line ends inside
of quotes, the quote that opened them is reported, at its place; and all other lines are cut.
Replacing the references of a line fails in the same way, whatever their values are. -/
theorem scan_fails_at_first_fault (line : Text) :
    ((∃ i, line.IsBadDollar i) → ∃ i, line.IsBadDollar i ∧ (∀ j < i, ¬ line.IsBadDollar j) ∧
      scan line = .error (.invalidVariable (i + 1))) ∧
    ((∀ i, ¬ line.IsBadDollar i) → ∀ quote, outside.after line = inside quote →
      ∃ i, line.LeftOpen quote i ∧ scan line = .error (.unfinishedQuote quote (i + 1))) ∧
    ((∀ i, ¬ line.IsBadDollar i) → outside.after line = outside → ∃ rs, scan line = .ok rs) ∧
    ∀ value e, substitute value line = .error e ↔ scan line = .error e := by
  refine ⟨?_, ?_, fun hclean hclosed => exists_scan_iff.mpr ⟨hclean, hclosed⟩,
    fun value e => substitute_eq_error_iff⟩
  · intro hbad
    have hfirst : ∀ j < Nat.find hbad, ¬ line.IsBadDollar j := fun _ => Nat.find_min hbad
    refine ⟨Nat.find hbad, Nat.find_spec hbad, hfirst, ?_⟩
    exact scan_eq_error_iff.mpr (.dollar (Nat.find_spec hbad) hfirst)
  · intro hclean quote hend
    have hscan := scan_explained line
    cases hrs : scan line with
    | ok rs =>
      rw [hrs] at hscan
      have hclosed := hscan.closed
      rw [hend] at hclosed
      cases hclosed
    | error e =>
      rw [hrs] at hscan
      cases hscan with
      | dollar hbad _ => exact absurd hbad (hclean _)
      | quote _ hopen =>
        obtain rfl := QuoteState.inside.inj (hopen.after_line.symm.trans hend)
        exact ⟨_, hopen, rfl⟩

/-- The first line leaves the quote at column 6 open, and yet the `$` inside of it is reported; in
the second line the `$` stands inside of single quotes, and the quote is reported. -/
theorem scan_fails_at_first_fault_quotes :
    scan "echo \"$1 '".toList = .error (.invalidVariable 7) ∧
      scan "echo '$ \"".toList = .error (.unfinishedQuote '\'' 6) := by
  obtain ⟨i, hbad, -, hdollar⟩ :=
    (scan_fails_at_first_fault "echo \"$1 '".toList).1 ⟨6, by decide⟩
  have hclean : ∀ j, ¬ IsBadDollar "echo '$ \"".toList j := fun j hj =>
    absurd hj ((by decide : ∀ j < 9, ¬ IsBadDollar "echo '$ \"".toList j) j hj.lt_length)
  obtain ⟨k, hopen, hquote⟩ :=
    (scan_fails_at_first_fault "echo '$ \"".toList).2.1 hclean '\'' (by decide)
  have hi : i = 6 :=
    (by decide : ∀ j < 10, IsBadDollar "echo \"$1 '".toList j → j = 6) i hbad.lt_length hbad
  have hk : k = 5 :=
    (hopen.unique (leftOpen_of_not_mem (p := "echo ".toList) (.inl rfl) rfl (by decide))).2
  subst hi hk
  exact ⟨hdollar, hquote⟩

end Region

end CommandShell
