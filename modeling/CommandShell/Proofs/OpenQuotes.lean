import CommandShell.Proofs.Expansion
import CommandShell.Proofs.Joining

/-!
# Open quotes

Going through a line from left to right, every place of it is outside of quotes or inside of quotes
of one kind, and only the character that opened them closes them.  `QuoteState` is this automaton.

The reader of a line keeps no such state.  It does not have to: it takes quoted texts as a whole, so
whenever it goes on it stands outside of quotes, and what is left of the line ends in the state that
the line ends in (`Line.Tracks`).  Hence it finds a quote that is never closed only in a line that
ends inside of that quote, whichever way it came there (`Line.after_of_parse_unfinishedQuote`).

The cutting of a raw line into regions follows the same automaton.  Where the values of references
do not bring quotes of their own, each region leads from outside of quotes to outside again, so the
line with its references replaced has no open quote (`Region.after_flatMap_expand`).
-/

namespace CommandShell

open Text

/-! ## The states of a line -/

/-- Whether a place of a line is inside of quotes, and of which. -/
inductive QuoteState where
  | outside
  /-- Inside of quotes that this character closes. -/
  | inside (quote : Char)
deriving Repr, DecidableEq

namespace QuoteState

/-- The state after one more character. -/
def next : QuoteState → Char → QuoteState
  | outside, c => if c = '\'' ∨ c = '"' then inside c else outside
  | inside quote, c => if c = quote then outside else inside quote

/-- The state at the end of a text that begins in a state. -/
def after (q : QuoteState) (t : Text) : QuoteState :=
  t.foldl next q

@[simp] lemma after_nil (q : QuoteState) : q.after [] = q :=
  rfl

@[simp] lemma after_cons (q : QuoteState) (c : Char) (t : Text) :
    q.after (c :: t) = (q.next c).after t :=
  rfl

@[simp] lemma after_append (q : QuoteState) (t u : Text) :
    q.after (t ++ u) = (q.after t).after u :=
  List.foldl_append

/-- Text without quotes leaves the state outside of quotes. -/
lemma after_of_not_mem {t : Text} (h₁ : '\'' ∉ t) (h₂ : '"' ∉ t) : outside.after t = outside := by
  induction t with
  | nil => rfl
  | cons c t ih =>
    rw [List.mem_cons, not_or] at h₁ h₂
    have hc : ¬ (c = '\'' ∨ c = '"') := by
      rintro (rfl | rfl)
      · exact h₁.1 rfl
      · exact h₂.1 rfl
    rw [after_cons, next, if_neg hc]
    exact ih h₁.2 h₂.2

/-- Inside of quotes, a text without the closing quote changes nothing. -/
lemma after_inside {quote : Char} {t : Text} (h : quote ∉ t) :
    (inside quote).after t = inside quote := by
  induction t with
  | nil => rfl
  | cons c t ih =>
    rw [List.mem_cons, not_or] at h
    rw [after_cons, next, if_neg (Ne.symm h.1)]
    exact ih h.2

/-- A quote opens quotes, which stay open as long as it does not come again. -/
lemma after_open {quote : Char} {t : Text} (hquote : quote = '\'' ∨ quote = '"')
    (h : quote ∉ t) : outside.after (quote :: t) = inside quote := by
  rw [after_cons, next, if_pos hquote]
  exact after_inside h

/-- A quoted text leads from outside of quotes to outside. -/
lemma after_quoted {quote : Char} {t : Text} (hquote : quote = '\'' ∨ quote = '"')
    (h : quote ∉ t) (rest : Text) :
    outside.after (quote :: (t ++ quote :: rest)) = outside.after rest := by
  rw [← List.cons_append, after_append, after_open hquote h, after_cons, next, if_pos rfl]

/-- Outside of quotes, a run of a class without quotes may be skipped. -/
lemma after_dropWhile {keep : Char → Bool} (h₁ : keep '\'' = false) (h₂ : keep '"' = false)
    (t : Text) : outside.after (t.dropWhile keep) = outside.after t := by
  have hnot : ∀ {c : Char}, keep c = false → c ∉ t.takeWhile keep := fun hc hmem =>
    absurd (List.mem_takeWhile_imp hmem) (Bool.eq_false_iff.mp hc)
  have hrun : outside.after (t.takeWhile keep) = outside := after_of_not_mem (hnot h₁) (hnot h₂)
  calc outside.after (t.dropWhile keep)
      = (outside.after (t.takeWhile keep)).after (t.dropWhile keep) := by rw [hrun]
    _ = outside.after t := by rw [← after_append, List.takeWhile_append_dropWhile]

end QuoteState

/-! ## The reader of a line -/

namespace Line

open QuoteState

variable {α β : Type} {t u : Text}

/-- A reader that began at a text outside of quotes has kept track of them: what it left ends in the
state that the text ends in, and if it found a quote that is never closed, then the text ends inside
of that quote. -/
def Tracks (t : Text) : Except ParseError (α × Cursor) → Prop
  | .ok (_, c) => outside.after c.rest = outside.after t
  | .error e => ∀ quote n, e = .unfinishedQuote quote n → outside.after t = inside quote

/-- Only the state at the end of the text counts. -/
lemma Tracks.of_after_eq {r : Except ParseError (α × Cursor)} (h : Tracks u r)
    (hu : outside.after u = outside.after t) : Tracks t r := by
  cases r with
  | ok p => exact Eq.trans h hu
  | error e => exact fun quote n he => hu.symm.trans (h quote n he)

/-- A reader that went on after another one has kept track from the beginning. -/
lemma Tracks.trans {r : Except ParseError (α × Cursor)} {a : β} {c : Cursor}
    (h : Tracks c.rest r) (hfirst : Tracks t (.ok (a, c))) : Tracks t r :=
  h.of_after_eq hfirst

/-- Skipping a run of a class without quotes keeps track. -/
lemma Tracks.of_skipWhile {r : Except ParseError (α × Cursor)} {keep : Char → Bool} {c : Cursor}
    (h₁ : keep '\'' = false) (h₂ : keep '"' = false) (h : Tracks (c.skipWhile keep).rest r) :
    Tracks c.rest r :=
  h.of_after_eq (after_dropWhile h₁ h₂ c.rest)

/-- A quoted text is taken as a whole. -/
lemma readQuoted_tracks {quote : Char} {c : Cursor} (hquote : quote = '\'' ∨ quote = '"')
    (hc : c.rest = quote :: t) : Tracks c.rest (readQuoted quote c) := by
  cases hread : readQuoted quote c with
  | ok p =>
    obtain ⟨hmem, ht⟩ := readQuoted_sound hc hread
    rw [hc, ht]
    exact (after_quoted hquote hmem p.2.rest).symm
  | error e =>
    rintro quote' n rfl
    obtain ⟨m, v⟩ := c
    obtain rfl : v = quote :: t := hc
    cases hd : t.dropWhile (· != quote) with
    | cons d rest => simp [readQuoted, Cursor.skip, Cursor.skipWhile, hd] at hread
    | nil =>
      simp only [readQuoted, Cursor.skip, Cursor.skipWhile, hd, Except.error.injEq,
        ParseError.unfinishedQuote.injEq] at hread
      obtain ⟨rfl, -⟩ := hread
      refine after_open hquote fun hmem => ?_
      simpa using List.dropWhile_eq_nil_iff.mp hd quote hmem

/-- A reader that goes on after a quoted text keeps track. -/
lemma Tracks.of_readQuoted {r : Except ParseError (α × Cursor)} {quote : Char} {text : Text}
    {c c₁ : Cursor} (h : Tracks c₁.rest r) (hquote : quote = '\'' ∨ quote = '"')
    (hc : c.rest = quote :: t) (hq : readQuoted quote c = .ok (text, c₁)) : Tracks c.rest r := by
  have hfirst := readQuoted_tracks hquote hc
  rw [hq] at hfirst
  exact h.trans hfirst

/-- The fragments of a word are read outside of quotes. -/
lemma readFragments_tracks (c : Cursor) : Tracks c.rest (readFragments c) := by
  fun_induction readFragments c with
  | case1 => rfl
  | case2 c t e hq hc =>
    have h := readQuoted_tracks (.inl rfl) hc
    rwa [hq] at h
  | case3 c t text c₁ hq e hs hc ih =>
    rw [hs] at ih
    exact ih.of_readQuoted (.inl rfl) hc hq
  | case4 c t text c₁ hq fs c₂ hs hc ih =>
    rw [hs] at ih
    exact ih.of_readQuoted (.inl rfl) hc hq
  | case5 c t e hq hc =>
    have h := readQuoted_tracks (.inr rfl) hc
    rwa [hq] at h
  | case6 c t text c₁ hq e hs hc _ ih =>
    rw [hs] at ih
    exact ih.of_readQuoted (.inr rfl) hc hq
  | case7 c t text c₁ hq fs c₂ hs hc _ ih =>
    rw [hs] at ih
    exact ih.of_readQuoted (.inr rfl) hc hq
  | case8 c d t hc _ _ hb e hs ih =>
    rw [hs] at ih
    exact ih.of_skipWhile (by decide) (by decide)
  | case9 c d t hc _ _ hb fs c₁ hs ih =>
    rw [hs] at ih
    exact ih.of_skipWhile (by decide) (by decide)
  | case10 => rfl

/-- The words of a command are read outside of quotes. -/
lemma readArguments_tracks (c : Cursor) : Tracks c.rest (readArguments c) := by
  fun_induction readArguments c with
  | case1 => rfl
  | case2 c _ e hf =>
    have h := readFragments_tracks (c.skipWhile isBlank)
    rw [hf] at h
    exact h.of_skipWhile (by decide) (by decide)
  | case3 => rfl
  | case4 c _ f fs c₁ hf e hs ih =>
    have h := readFragments_tracks (c.skipWhile isBlank)
    rw [hf] at h
    rw [hs] at ih
    exact (ih.trans h).of_skipWhile (by decide) (by decide)
  | case5 c _ f fs c₁ hf ws c₂ hs ih =>
    have h := readFragments_tracks (c.skipWhile isBlank)
    rw [hf] at h
    rw [hs] at ih
    exact (ih.trans h).of_skipWhile (by decide) (by decide)

/-- A command is read outside of quotes. -/
lemma readCommand_tracks (c : Cursor) : Tracks c.rest (readCommand c) := by
  have h : Tracks c.rest (readArguments (c.skipWhile isCommandChar)) :=
    (readArguments_tracks _).of_skipWhile (by decide) (by decide)
  simp only [readCommand]
  split
  · rintro quote n ⟨⟩
  · split
    · next ha => rwa [ha] at h
    · next ha => rwa [ha] at h

/-- The command after a `|` is read outside of quotes, since neither the `|` nor a blank is one. -/
lemma readCommand_tracks_of_bar {c : Cursor} {rest : Text}
    (hc : (c.skipWhile isBlank).rest = '|' :: rest) (n : ℕ) :
    Tracks c.rest (readCommand (Cursor.skipWhile isBlank ⟨n, rest⟩)) := by
  have h : Tracks rest (readCommand (Cursor.skipWhile isBlank ⟨n, rest⟩)) :=
    (readCommand_tracks _).of_skipWhile (c := ⟨n, rest⟩) (by decide) (by decide)
  have hbar : Tracks (c.skipWhile isBlank).rest
      (readCommand (Cursor.skipWhile isBlank ⟨n, rest⟩)) :=
    h.of_after_eq (by rw [hc]; rfl)
  exact hbar.of_skipWhile (by decide) (by decide)

/-- The commands after the first are read outside of quotes. -/
lemma readStages_tracks (c : Cursor) : Tracks c.rest (readStages c) := by
  fun_induction readStages c with
  | case1 c c₁ rest hc e hr =>
    have h := readCommand_tracks_of_bar hc (c₁.column + 1)
    rwa [hr] at h
  | case2 c c₁ rest hc cmd c₂ hr e hs =>
    rename_i ih
    have h := readCommand_tracks_of_bar hc (c₁.column + 1)
    rw [hr] at h
    rw [hs] at ih
    exact ih.trans h
  | case3 c c₁ rest hc cmd c₂ hr cmds c₃ hs =>
    rename_i ih
    have h := readCommand_tracks_of_bar hc (c₁.column + 1)
    rw [hr] at h
    rw [hs] at ih
    exact ih.trans h
  | case4 => rfl

/-- The end of a line is never taken for an open quote. -/
lemma expectEnd_ne_unfinishedQuote (c : Cursor) (quote : Char) (n : ℕ) :
    expectEnd c ≠ .error (.unfinishedQuote quote n) := by
  simp only [expectEnd]
  split <;> simp

/-- A pipeline with a quote that is never closed ends inside of it. -/
lemma after_of_readPipeline_unfinishedQuote {s : Text} {quote : Char} {n : ℕ}
    (h : readPipeline s = .error (.unfinishedQuote quote n)) :
    outside.after s = inside quote := by
  have hcommand : Tracks s (readCommand ((Cursor.start s).skipWhile isBlank)) :=
    (readCommand_tracks _).of_skipWhile (c := Cursor.start s) (by decide) (by decide)
  simp only [readPipeline] at h
  split at h
  · next e hr =>
    rw [hr] at hcommand
    exact hcommand quote n (Except.error.inj h)
  · next cmd c hr =>
    rw [hr] at hcommand
    have hstages : Tracks s (readStages c) := (readStages_tracks c).trans hcommand
    split at h
    · next e hs =>
      rw [hs] at hstages
      exact hstages quote n (Except.error.inj h)
    · split at h
      · next e he =>
        obtain rfl := Except.error.inj h
        exact absurd he (expectEnd_ne_unfinishedQuote _ quote n)
      · cases h

/-- A variable name is read outside of quotes. -/
lemma readIdentifier_tracks (c : Cursor) : Tracks c.rest (readIdentifier c) := by
  simp only [readIdentifier]
  split
  · rintro quote n ⟨⟩
  · split
    · exact after_dropWhile (by decide) (by decide) c.rest
    · rintro quote n ⟨⟩

/-- An assignment with a quote that is never closed ends inside of it. -/
lemma after_of_readAssignment_unfinishedQuote {s : Text} {quote : Char} {n : ℕ}
    (h : readAssignment s = .error (.unfinishedQuote quote n)) :
    outside.after s = inside quote := by
  have hname : Tracks s (readIdentifier ((Cursor.start s).skipWhile isBlank)) :=
    (readIdentifier_tracks _).of_skipWhile (c := Cursor.start s) (by decide) (by decide)
  simp only [readAssignment] at h
  split at h
  · next e hi =>
    rw [hi] at hname
    exact hname quote n (Except.error.inj h)
  · next name c hi =>
    rw [hi] at hname
    split at h
    · cases h
    · next found rest hc =>
      split at h
      · cases h
      · next hfound =>
        obtain rfl : found = '=' := not_not.mp hfound
        have hword : Tracks s (readFragments ⟨c.column + 1, rest⟩) := by
          refine ((readFragments_tracks ⟨c.column + 1, rest⟩).of_after_eq ?_).trans hname
          rw [hc]
          rfl
        split at h
        · next e hf =>
          rw [hf] at hword
          exact hword quote n (Except.error.inj h)
        · cases h
        · split at h
          · next e he =>
            obtain rfl := Except.error.inj h
            exact absurd he (expectEnd_ne_unfinishedQuote _ quote n)
          · cases h

/-- A line is said to have a quote that is never closed only if it ends inside of that quote. -/
lemma after_of_parse_unfinishedQuote {s : Text} {quote : Char} {n : ℕ}
    (h : parse s = .error (.unfinishedQuote quote n)) : outside.after s = inside quote := by
  simp only [parse] at h
  split at h
  · cases h
  · next fault ha =>
    split at h
    · cases h
    · next e hp =>
      by_cases hlook : looksLikeAssignment s = true
      · rw [if_pos hlook] at h
        obtain rfl := Except.error.inj h
        exact after_of_readAssignment_unfinishedQuote ha
      · rw [if_neg hlook] at h
        obtain rfl := Except.error.inj h
        exact after_of_readPipeline_unfinishedQuote hp

end Line

/-! ## Lines with their references replaced -/

open QuoteState

/-- A region leads from outside of quotes to outside, if the values in it bring no quotes that count
there. -/
lemma Region.after_expand {value : Text → Text} {r : Region} (hr : r.IsCanonical)
    (hplain : ∀ name, r = .reference name → '\'' ∉ value name ∧ '"' ∉ value name)
    (hquoted : ∀ ps, r = .double ps → ∀ name, Piece.reference name ∈ ps → '"' ∉ value name) :
    outside.after (r.expand value) = outside := by
  cases r with
  | plain text =>
    refine after_of_not_mem (fun hmem => ?_) (fun hmem => ?_)
    · exact absurd (hr.2 '\'' hmem) (by decide)
    · exact absurd (hr.2 '"' hmem) (by decide)
  | single text => exact after_quoted (.inl rfl) hr []
  | double ps =>
    exact after_quoted (.inr rfl) (Piece.not_mem_flatMap_expand rfl hr.each (hquoted ps rfl)) []
  | reference name => exact after_of_not_mem (hplain name rfl).1 (hplain name rfl).2

/-- So do all regions of a line. -/
lemma Region.after_flatMap_expand {value : Text → Text} {rs : List Region}
    (hrs : ∀ r ∈ rs, r.IsCanonical)
    (hplain : ∀ name, Region.reference name ∈ rs → '\'' ∉ value name ∧ '"' ∉ value name)
    (hquoted : ∀ ps, Region.double ps ∈ rs → ∀ name, Piece.reference name ∈ ps →
      '"' ∉ value name) :
    outside.after (rs.flatMap (Region.expand value)) = outside := by
  induction rs with
  | nil => rfl
  | cons r rs ih =>
    have hfirst : outside.after (r.expand value) = outside := by
      refine after_expand (hrs r (List.mem_cons_self ..)) ?_ ?_
      · rintro name rfl
        exact hplain name (List.mem_cons_self ..)
      · rintro ps rfl
        exact hquoted ps (List.mem_cons_self ..)
    rw [List.flatMap_cons, after_append, hfirst]
    exact ih (fun q hq => hrs q (List.mem_cons_of_mem r hq))
      (fun name hname => hplain name (List.mem_cons_of_mem r hname))
      (fun ps hps => hquoted ps (List.mem_cons_of_mem r hps))

/-- Cutting a raw line and reading the line with its references replaced agree on quotes.  Where the
values of references outside of quotes hold neither `'` nor `"`, and those of references inside of
double quotes no `"`, the second never finds a quote that is not closed. -/
theorem parse_substitute_ne_unfinishedQuote {value : Text → Text} {line s : Text}
    {rs : List Region} (hscan : Region.scan line = .ok rs) (hs : substitute value line = .ok s)
    (hplain : ∀ name, Region.reference name ∈ rs → '\'' ∉ value name ∧ '"' ∉ value name)
    (hquoted : ∀ ps, Region.double ps ∈ rs → ∀ name, Piece.reference name ∈ ps →
      '"' ∉ value name) (quote : Char) (column : ℕ) :
    Line.parse s ≠ .error (.unfinishedQuote quote column) := by
  intro h
  obtain ⟨rs', hscan', rfl⟩ := exists_scan_of_substitute hs
  obtain rfl : rs = rs' := Except.ok.inj (hscan.symm.trans hscan')
  have hcanonical : Region.AreCanonical rs := (Region.scanFrom_sound hscan).1
  have hclosed : outside.after (rs.flatMap (Region.expand value)) = outside :=
    Region.after_flatMap_expand hcanonical.each hplain hquoted
  rw [Line.after_of_parse_unfinishedQuote h] at hclosed
  cases hclosed

/-- A `|` in the value outside of quotes and an apostrophe in the one inside of them open none. -/
theorem parse_substitute_ne_unfinishedQuote_apostrophe :
    substitute (fun name => if name = "x".toList then "it's".toList else "a | b".toList)
        "echo $y \"$x\"".toList = .ok "echo a | b \"it's\"".toList ∧
      ∀ quote column, Line.parse "echo a | b \"it's\"".toList ≠
        .error (.unfinishedQuote quote column) := by
  have hcanonical : Region.AreCanonical
      [.plain "echo ".toList, .reference "y".toList, .plain " ".toList,
        .double [.reference "x".toList]] := by decide
  have hs : substitute (fun name => if name = "x".toList then "it's".toList else "a | b".toList)
      "echo $y \"$x\"".toList = .ok "echo a | b \"it's\"".toList :=
    substitute_flatMap_render hcanonical
  refine ⟨hs, parse_substitute_ne_unfinishedQuote (Region.scanFrom_complete hcanonical) hs ?_ ?_⟩
  · intro name hname
    obtain rfl : name = "y".toList := by simpa using hname
    decide
  · intro ps hps name hname
    obtain rfl : ps = [.reference "x".toList] := by simpa using hps
    obtain rfl : name = "x".toList := by simpa using hname
    decide

-- Outside of quotes an apostrophe in the value does open one.
example : (substitute (fun _ => "it's".toList) "echo $x".toList).toOption.map Line.parse =
    some (.error (.unfinishedQuote '\'' 8)) := by
  decide +kernel

end CommandShell
