import CommandShell.Proofs.Grammar

/-!
# Reading a line

Each reader of a line is shown to agree with the grammar in both directions.

* Sound: what a reader returns is well formed, and the text it went over is a layout of it.
* Complete: on a layout of a well formed part, followed by a text that cannot continue the part,
  the reader returns the part and the place after it.

The readers take longest runs, so completeness needs the side condition on the text that
follows; soundness needs none.  The two directions meet in `Line.parse_eq_ok_iff`: a text is
read as a tree exactly when the tree is well formed and the text is a layout of it.
-/

namespace CommandShell.Line

open Text Fragment

/-! ## Words -/

/-- A quoted text is read up to its closing quote. -/
lemma readQuoted_complete {quote : Char} {n : ℕ} {text rest : Text} (h : quote ∉ text) :
    readQuoted quote ⟨n, quote :: (text ++ quote :: rest)⟩ =
      .ok (text, ⟨n + 1 + text.length + 1, rest⟩) := by
  have hs : Stops (· != quote) (quote :: rest) := by simp
  simp [readQuoted, Cursor.skip, Cursor.run_append (ne_of_not_mem h) hs,
    Cursor.skipWhile_append (ne_of_not_mem h) hs]

/-- What was read between quotes stands between quotes and does not hold the quote. -/
lemma readQuoted_sound {quote : Char} {c c' : Cursor} {t text : Text}
    (hc : c.rest = quote :: t) (h : readQuoted quote c = .ok (text, c')) :
    quote ∉ text ∧ t = text ++ quote :: c'.rest := by
  obtain ⟨n, u⟩ := c
  obtain rfl : u = quote :: t := hc
  cases hd : t.dropWhile (· != quote) with
  | nil => simp [readQuoted, Cursor.skip, Cursor.skipWhile, hd] at h
  | cons d rest =>
    simp only [readQuoted, Cursor.skip, Cursor.skipWhile, Cursor.run, hd, Except.ok.injEq,
      Prod.mk.injEq] at h
    obtain ⟨rfl, rfl⟩ := h
    exact eq_of_dropWhile_ne_quote hd

/-- Where no word continues there are no further fragments. -/
lemma readFragments_of_stops {c : Cursor} (h : Stops isWordChar c.rest) :
    readFragments c = .ok ([], c) := by
  rw [readFragments]
  split
  · rfl
  · next d t hc =>
    rw [hc, stops_cons] at h
    have h₁ : d ≠ '\'' := by rintro rfl; exact absurd h (by decide)
    have h₂ : d ≠ '"' := by rintro rfl; exact absurd h (by decide)
    have h₃ : isBare d ≠ true := fun hb => by simp [isWordChar_of_isBare hb] at h
    simp [h₁, h₂, h₃]

/-- A fragment in single quotes is read, and then the fragments after it. -/
lemma readFragments_single {n : ℕ} {text rest : Text} (h : '\'' ∉ text) :
    readFragments ⟨n, '\'' :: (text ++ '\'' :: rest)⟩ =
      (readFragments ⟨n + 1 + text.length + 1, rest⟩).map
        (Prod.map (List.cons (.single text)) id) := by
  rw [readFragments]
  simp only [↓reduceIte]
  split
  · next hq => simp [readQuoted_complete h] at hq
  · next hq =>
    rw [readQuoted_complete h] at hq
    cases hq
    cases readFragments ⟨n + 1 + text.length + 1, rest⟩ <;> rfl

/-- A fragment in double quotes is read, and then the fragments after it. -/
lemma readFragments_double {n : ℕ} {text rest : Text} (h : '"' ∉ text) :
    readFragments ⟨n, '"' :: (text ++ '"' :: rest)⟩ =
      (readFragments ⟨n + 1 + text.length + 1, rest⟩).map
        (Prod.map (List.cons (.double text)) id) := by
  rw [readFragments]
  simp only [show ¬ '"' = '\'' by decide, ↓reduceIte]
  split
  · next hq => simp [readQuoted_complete h] at hq
  · next hq =>
    rw [readQuoted_complete h] at hq
    cases hq
    cases readFragments ⟨n + 1 + text.length + 1, rest⟩ <;> rfl

/-- The longest bare run is read, and then the fragments after it. -/
lemma readFragments_run {c : Cursor} (hrun : c.run isBare ≠ []) :
    readFragments c = (readFragments (c.skipWhile isBare)).map
      (Prod.map (List.cons (.bare (c.run isBare))) id) := by
  obtain ⟨n, t⟩ := c
  cases t with
  | nil => exact absurd rfl hrun
  | cons d t =>
    have hd : isBare d = true := by
      by_contra hd
      exact hrun (List.takeWhile_cons_of_neg hd)
    have h₁ : d ≠ '\'' := by rintro rfl; exact absurd hd (by decide)
    have h₂ : d ≠ '"' := by rintro rfl; exact absurd hd (by decide)
    rw [readFragments]
    simp only [h₁, h₂, hd, ↓reduceIte, ↓reduceDIte]
    cases readFragments (Cursor.skipWhile isBare ⟨n, d :: t⟩) <;> rfl

/-- A bare fragment is read to its end, and then the fragments after it. -/
lemma readFragments_bare {n : ℕ} {text rest : Text} (hne : text ≠ [])
    (ht : ∀ c ∈ text, isBare c = true) (hr : Stops isBare rest) :
    readFragments ⟨n, text ++ rest⟩ =
      (readFragments ⟨n + text.length, rest⟩).map
        (Prod.map (List.cons (.bare text)) id) := by
  have hrun : Cursor.run isBare ⟨n, text ++ rest⟩ = text := Cursor.run_append ht hr
  rw [readFragments_run (by rwa [hrun]), hrun, Cursor.skipWhile_append ht hr]

/-- After a bare fragment, canonical fragments do not go on with a bare character. -/
lemma stops_isBare_of_mayPrecede {text rest : Text} {fs : List Fragment}
    (hfs : ∀ g ∈ fs.head?, (bare text).MayPrecede g) (hr : Stops isWordChar rest) :
    Stops isBare (fs.flatMap verbatim ++ rest) := by
  cases fs with
  | nil => exact hr.of_imp fun _ => isWordChar_of_isBare
  | cons g fs =>
    cases g with
    | bare u => exact (hfs (bare u) rfl).elim
    | single u => exact (stops_cons ..).mpr (by decide)
    | double u => exact (stops_cons ..).mpr (by decide)

/-- Canonical fragments that do not go on with a bare character may follow a bare fragment. -/
lemma mayPrecede_of_stops_isBare {text rest : Text} {fs : List Fragment} (hfs : AreCanonical fs)
    (hs : Stops isBare (fs.flatMap verbatim ++ rest)) :
    ∀ g ∈ fs.head?, (bare text).MayPrecede g := by
  intro g hg
  obtain ⟨fs, rfl⟩ : ∃ fs', fs = g :: fs' := List.head?_eq_some_iff.mp hg
  cases g with
  | bare u =>
    obtain ⟨hu, -, -⟩ := hfs.of_cons
    obtain ⟨d, u, rfl⟩ := List.exists_cons_of_ne_nil hu.1
    have hd : isBare d = true := hu.2 d (List.mem_cons_self ..)
    simp [verbatim, hd] at hs
  | single u => trivial
  | double u => trivial

/-- Canonical fragments are read back, up to where no word continues. -/
lemma readFragments_complete {fs : List Fragment} {n : ℕ} {rest : Text}
    (hfs : AreCanonical fs) (hr : Stops isWordChar rest) :
    readFragments ⟨n, fs.flatMap verbatim ++ rest⟩ =
      .ok (fs, ⟨n + (fs.flatMap verbatim).length, rest⟩) := by
  induction fs generalizing n with
  | nil => exact readFragments_of_stops hr
  | cons f fs ih =>
    obtain ⟨hf, htail, hnext⟩ := hfs.of_cons
    cases f with
    | bare text =>
      have hstop := stops_isBare_of_mayPrecede hnext hr
      simp only [List.flatMap_cons, verbatim, List.append_assoc]
      rw [readFragments_bare hf.1 hf.2 hstop, ih htail]
      simp [Except.map, Nat.add_assoc]
    | single text =>
      simp only [List.flatMap_cons, verbatim, List.cons_append, List.append_assoc,
        List.nil_append]
      rw [readFragments_single hf, ih htail]
      simp only [Except.map, Prod.map, id, List.length_cons, List.length_append, Except.ok.injEq,
        Prod.mk.injEq, Cursor.mk.injEq, and_true, true_and]
      omega
    | double text =>
      simp only [List.flatMap_cons, verbatim, List.cons_append, List.append_assoc,
        List.nil_append]
      rw [readFragments_double hf, ih htail]
      simp only [Except.map, Prod.map, id, List.length_cons, List.length_append, Except.ok.injEq,
        Prod.mk.injEq, Cursor.mk.injEq, and_true, true_and]
      omega

/-- The fragments that are read are canonical, and they are what stood there. -/
lemma readFragments_sound {c c' : Cursor} {fs : List Fragment}
    (h : readFragments c = .ok (fs, c')) :
    AreCanonical fs ∧ c.rest = fs.flatMap verbatim ++ c'.rest := by
  fun_induction readFragments c generalizing fs c' with
  | case1 c hc => cases h; exact ⟨.nil, rfl⟩
  | case2 => cases h
  | case3 => cases h
  | case4 c t text c₁ hq fs₁ c₂ hs hc ih =>
    cases h
    obtain ⟨hfs, hrest⟩ := ih hs
    obtain ⟨hmem, ht⟩ := readQuoted_sound hc hq
    refine ⟨.cons hmem hfs fun g _ => trivial, ?_⟩
    simp [hc, ht, hrest, verbatim]
  | case5 => cases h
  | case6 => cases h
  | case7 c t text c₁ hq fs₁ c₂ hs hc _ ih =>
    cases h
    obtain ⟨hfs, hrest⟩ := ih hs
    obtain ⟨hmem, ht⟩ := readQuoted_sound hc hq
    refine ⟨.cons hmem hfs fun g _ => trivial, ?_⟩
    simp [hc, ht, hrest, verbatim]
  | case8 => cases h
  | case9 c d t hc _ _ hb fs₁ c₂ hs ih =>
    cases h
    obtain ⟨hfs, hrest⟩ := ih hs
    have hne : c.run isBare ≠ [] := Cursor.run_ne_nil hc hb
    refine ⟨.cons ⟨hne, fun d => Cursor.of_mem_run⟩ hfs ?_, ?_⟩
    · -- A bare fragment that followed would have been part of this run.
      apply mayPrecede_of_stops_isBare hfs
      rw [← hrest]
      exact stops_dropWhile isBare c.rest
    · rw [List.flatMap_cons, List.append_assoc, ← hrest]
      exact (c.run_append_skipWhile isBare).symm
  | case10 => cases h; exact ⟨.nil, rfl⟩

/-! ## Commands -/

/-- Without a blank first there are no further words. -/
lemma readArguments_of_run_eq_nil {c : Cursor} (h : c.run isBlank = []) :
    readArguments c = .ok ([], c) := by
  rw [readArguments, dif_pos h]

/-- Blanks that no fragment follows are left. -/
lemma readArguments_of_fragments_nil {c c' : Cursor}
    (hf : readFragments (c.skipWhile isBlank) = .ok ([], c')) :
    readArguments c = .ok ([], c) := by
  by_cases hb : c.run isBlank = []
  · exact readArguments_of_run_eq_nil hb
  · rw [readArguments, dif_neg hb]
    split
    · next h => simp [hf] at h
    · rfl
    · next h => simp [hf] at h

/-- Fragments after blanks are a word, and then the other words are read. -/
lemma readArguments_of_fragments_cons {c c' : Cursor} {f : Fragment} {fs : List Fragment}
    (hb : c.run isBlank ≠ [])
    (hf : readFragments (c.skipWhile isBlank) = .ok (f :: fs, c')) :
    readArguments c = (readArguments c').map (Prod.map (List.cons ⟨f :: fs⟩) id) := by
  rw [readArguments, dif_neg hb]
  split
  · next h => simp [hf] at h
  · next h => simp [hf] at h
  · next h =>
    rw [hf] at h
    cases h
    cases readArguments c' <;> rfl

/-- The words of a command are read back, up to the end of the stage. -/
lemma readArguments_complete {ws : List Word} {n : ℕ} {t rest : Text}
    (ht : ArgumentsLayout ws t) (hws : ∀ w ∈ ws, w.IsCanonical) (hr : StageEnd rest) :
    readArguments ⟨n, t ++ rest⟩ = .ok (ws, ⟨n + t.length, rest⟩) := by
  induction ht generalizing n with
  | nil =>
    refine readArguments_of_fragments_nil (readFragments_of_stops ?_)
    exact hr.of_imp fun c hc => by
      simp only [isWordChar, Bool.and_eq_true] at hc
      exact hc.2
  | @cons gap t w ws hne hgap ht ih =>
    obtain ⟨hw, hws⟩ := List.forall_mem_cons.mp hws
    have hblank := isBlankText_iff.mp hgap
    have hstart := hw.stops_isBlank (t ++ rest)
    obtain ⟨f, fs, hfs⟩ := List.exists_cons_of_ne_nil hw.1
    have hrun : Cursor.run isBlank ⟨n, gap ++ (w.verbatim ++ (t ++ rest))⟩ ≠ [] := by
      rwa [Cursor.run_append hblank hstart]
    have hword : readFragments (Cursor.skipWhile isBlank ⟨n, gap ++ (w.verbatim ++ (t ++ rest))⟩) =
        .ok (f :: fs, ⟨n + gap.length + w.verbatim.length, t ++ rest⟩) := by
      rw [Cursor.skipWhile_append hblank hstart, ← hfs]
      exact readFragments_complete hw.2 (ht.stops hr)
    simp only [List.append_assoc]
    rw [readArguments_of_fragments_cons hrun hword, ih hws]
    obtain rfl : w = ⟨f :: fs⟩ := by rw [← hfs]
    simp [Except.map, Nat.add_assoc]

/-- The words that are read are canonical, and they are what stood there. -/
lemma readArguments_sound {c c' : Cursor} {ws : List Word}
    (h : readArguments c = .ok (ws, c')) :
    (∀ w ∈ ws, w.IsCanonical) ∧ ∃ t, ArgumentsLayout ws t ∧ c.rest = t ++ c'.rest := by
  fun_induction readArguments c generalizing ws c' with
  | case1 => cases h; exact ⟨by simp, [], .nil, rfl⟩
  | case2 => cases h
  | case3 => cases h; exact ⟨by simp, [], .nil, rfl⟩
  | case4 => cases h
  | case5 c hb f fs c₁ hf ws₁ c₂ hs ih =>
    cases h
    obtain ⟨hws, t, ht, hrest⟩ := ih hs
    obtain ⟨hfs, hword⟩ := readFragments_sound hf
    refine ⟨?_, c.run isBlank ++ (Word.verbatim ⟨f :: fs⟩ ++ t), .cons hb ?_ ht, ?_⟩
    · exact List.forall_mem_cons.mpr ⟨⟨List.cons_ne_nil f fs, hfs⟩, hws⟩
    · exact isBlankText_iff.mpr fun d => Cursor.of_mem_run
    · calc c.rest = c.run isBlank ++ (c.skipWhile isBlank).rest :=
            (c.run_append_skipWhile isBlank).symm
        _ = c.run isBlank ++ (Word.verbatim ⟨f :: fs⟩ ++ (t ++ c₂.rest)) := by
            rw [hword, hrest, Word.verbatim]
        _ = c.run isBlank ++ (Word.verbatim ⟨f :: fs⟩ ++ t) ++ c₂.rest := by
            simp only [List.append_assoc]

/-- A command is read back, up to the end of the stage. -/
lemma readCommand_complete {cmd : Command} {n : ℕ} {t rest : Text} (hcmd : cmd.IsWellFormed)
    (ht : cmd.Layout t) (hr : StageEnd rest) :
    readCommand ⟨n, t ++ rest⟩ = .ok (cmd, ⟨n + t.length, rest⟩) := by
  obtain ⟨u, hu, rfl⟩ := ht
  obtain ⟨⟨hne, hname⟩, hws⟩ := hcmd
  have hstop : Stops isCommandChar (u ++ rest) :=
    (hu.stops hr).of_imp fun _ => isWordChar_of_isCommandChar
  simp only [readCommand, List.append_assoc, Cursor.run_append hname hstop,
    Cursor.skipWhile_append hname hstop, if_neg hne, readArguments_complete hu hws hr,
    List.length_append, Nat.add_assoc]

/-- The command that is read is well formed, and it is what stood there. -/
lemma readCommand_sound {c c' : Cursor} {cmd : Command} (h : readCommand c = .ok (cmd, c')) :
    cmd.IsWellFormed ∧ ∃ t, cmd.Layout t ∧ c.rest = t ++ c'.rest := by
  simp only [readCommand] at h
  split at h
  · cases h
  · next hne =>
    split at h
    · cases h
    · next ws c₁ ha =>
      cases h
      obtain ⟨hws, u, hu, hrest⟩ := readArguments_sound ha
      refine ⟨⟨⟨hne, fun d => Cursor.of_mem_run⟩, hws⟩, _, ⟨u, hu, rfl⟩, ?_⟩
      rw [List.append_assoc, ← hrest]
      exact (c.run_append_skipWhile isCommandChar).symm

/-! ## Pipelines -/

/-- A `|` after blanks is followed by a command, and then by the other commands. -/
lemma readStages_of_bar {c : Cursor} {rest : Text}
    (hc : (c.skipWhile isBlank).rest = '|' :: rest) :
    readStages c =
      match readCommand (Cursor.skipWhile isBlank ⟨(c.skipWhile isBlank).column + 1, rest⟩) with
      | .error e => .error e
      | .ok (cmd, c₁) => (readStages c₁).map (Prod.map (List.cons cmd) id) := by
  rw [readStages]
  split
  · next rest' hc' =>
    obtain rfl : rest = rest' := by
      rw [hc] at hc'
      exact (List.cons.inj hc').2
    split
    · next hr => simp only [hr]
    · next cmd c₁ hr =>
      simp only [hr]
      cases readStages c₁ <;> rfl
  · next hbar => exact absurd hc (hbar rest)

/-- Where no `|` follows the blanks there are no further commands. -/
lemma readStages_of_stops {c : Cursor}
    (h : Stops (· == '|') (c.skipWhile isBlank).rest) : readStages c = .ok ([], c) := by
  rw [readStages]
  split
  · next rest hc => simp [hc] at h
  · rfl

/-- The commands after the first are read back, up to blanks at the end of the line. -/
lemma readStages_complete {cmds : List Command} {n : ℕ} {u b : Text} (hu : StagesLayout cmds u)
    (hcmds : ∀ cmd ∈ cmds, cmd.IsWellFormed) (hb : b.isBlankText = true) :
    readStages ⟨n, u ++ b⟩ = .ok (cmds, ⟨n + u.length, b⟩) := by
  induction hu generalizing n with
  | nil =>
    apply readStages_of_stops
    have hend : b.dropWhile isBlank = [] := List.dropWhile_eq_nil_iff.mpr (isBlankText_iff.mp hb)
    simp [Cursor.skipWhile, hend]
  | @cons before after t u cmd cmds hbefore hafter ht hu ih =>
    obtain ⟨hcmd, hcmds⟩ := List.forall_mem_cons.mp hcmds
    have hblank := isBlankText_iff.mp hbefore
    have hbar : Stops isBlank ('|' :: (after ++ (t ++ (u ++ b)))) := by simp [isBlank]
    have hstart := ht.stops_isBlank hcmd (u ++ b)
    have hskip : Cursor.skipWhile isBlank ⟨n, before ++ '|' :: (after ++ (t ++ (u ++ b)))⟩ =
        ⟨n + before.length, '|' :: (after ++ (t ++ (u ++ b)))⟩ :=
      Cursor.skipWhile_append hblank hbar
    simp only [List.append_assoc, List.cons_append]
    rw [readStages_of_bar (by rw [hskip]), hskip,
      Cursor.skipWhile_append (isBlankText_iff.mp hafter) hstart,
      readCommand_complete hcmd ht (hu.stageEnd hb)]
    simp only [ih hcmds, Except.map, Prod.map, id, List.length_append, List.length_cons,
      Except.ok.injEq, Prod.mk.injEq, Cursor.mk.injEq, and_true, true_and]
    omega

/-- The commands that are read are well formed, and they are what stood there. -/
lemma readStages_sound {c c' : Cursor} {cmds : List Command}
    (h : readStages c = .ok (cmds, c')) :
    (∀ cmd ∈ cmds, cmd.IsWellFormed) ∧ ∃ u, StagesLayout cmds u ∧ c.rest = u ++ c'.rest := by
  fun_induction readStages c generalizing cmds c' with
  | case1 => cases h
  | case2 => cases h
  | case3 c c₁ rest hc cmd c₂ hr cmds₁ c₃ hs =>
    rename_i ih
    cases h
    obtain ⟨hcmds, u, hu, hstages⟩ := ih hs
    obtain ⟨hcmd, t, ht, hcommand⟩ := readCommand_sound hr
    let before := c.run isBlank
    let after := rest.takeWhile isBlank
    refine ⟨?_, before ++ '|' :: (after ++ (t ++ u)), .cons ?_ ?_ ht hu, ?_⟩
    · exact List.forall_mem_cons.mpr ⟨hcmd, hcmds⟩
    · exact isBlankText_iff.mpr fun d => Cursor.of_mem_run
    · exact isBlankText_iff.mpr fun d => List.mem_takeWhile_imp
    · calc c.rest = before ++ '|' :: rest := by
            rw [← hc, c.run_append_skipWhile isBlank]
        _ = before ++ '|' :: (after ++ (t ++ c₂.rest)) := by
            rw [← hcommand]
            exact congrArg (before ++ '|' :: ·) List.takeWhile_append_dropWhile.symm
        _ = before ++ '|' :: (after ++ (t ++ u)) ++ c₃.rest := by
            rw [hstages]
            simp only [List.append_assoc, List.cons_append]
  | case4 => cases h; exact ⟨by simp, [], .nil, rfl⟩

/-! ## Whole lines -/

/-- The end of a line is reached exactly when only blanks are left. -/
lemma expectEnd_eq_ok_iff {c : Cursor} : expectEnd c = .ok () ↔ c.rest.isBlankText = true := by
  have hnil : (c.skipWhile isBlank).rest = [] ↔ c.rest.isBlankText = true :=
    List.dropWhile_eq_nil_iff.trans isBlankText_iff.symm
  simp only [expectEnd]
  split
  · next h => simp [← hnil, h]
  · next h => simp [← hnil, h]

/-- A line that is read as a pipeline is a layout of it. -/
lemma readPipeline_sound {s : Text} {cmds : List Command} (h : readPipeline s = .ok cmds) :
    (Line.pipeline cmds).IsWellFormed ∧ (Line.pipeline cmds).Layout s := by
  simp only [readPipeline] at h
  split at h
  · cases h
  · next cmd c hr =>
    split at h
    · cases h
    · next cmds₁ c₁ hs =>
      split at h
      · cases h
      · next hend =>
        cases h
        obtain ⟨hcmd, t, ht, hcommand⟩ := readCommand_sound hr
        obtain ⟨hcmds, u, hu, hstages⟩ := readStages_sound hs
        refine ⟨⟨List.cons_ne_nil cmd cmds₁, List.forall_mem_cons.mpr ⟨hcmd, hcmds⟩⟩,
          s.takeWhile isBlank, t ++ u, c₁.rest, ?_, ?_, ⟨ht, hu⟩, ?_⟩
        · exact isBlankText_iff.mpr fun d => List.mem_takeWhile_imp
        · exact expectEnd_eq_ok_iff.mp hend
        · rw [List.append_assoc, ← hstages, ← hcommand]
          exact List.takeWhile_append_dropWhile.symm

/-- A layout of a well formed pipeline is read as that pipeline. -/
lemma readPipeline_complete {s : Text} {cmds : List Command}
    (hwf : (Line.pipeline cmds).IsWellFormed) (hs : (Line.pipeline cmds).Layout s) :
    readPipeline s = .ok cmds := by
  obtain ⟨b₁, _, b₂, hb₁, hb₂, @⟨t, u, cmd, cmds, ht, hu⟩, rfl⟩ := hs
  obtain ⟨hcmd, hcmds⟩ := List.forall_mem_cons.mp hwf.2
  have hstart := ht.stops_isBlank hcmd (u ++ b₂)
  have hend : ∀ n, expectEnd ⟨n, b₂⟩ = .ok () := fun n => expectEnd_eq_ok_iff.mpr hb₂
  simp only [readPipeline, Cursor.start, List.append_assoc,
    Cursor.skipWhile_append (isBlankText_iff.mp hb₁) hstart,
    readCommand_complete hcmd ht (hu.stageEnd hb₂), readStages_complete hu hcmds hb₂, hend]

/-- A variable name is read to its end. -/
lemma readIdentifier_complete {name rest : Text} {n : ℕ} (hname : name.IsIdentifier)
    (hr : Stops isNameChar rest) :
    readIdentifier ⟨n, name ++ rest⟩ = .ok (name, ⟨n + name.length, rest⟩) := by
  have hrun := Cursor.run_append (n := n) hname.isNameChar hr
  have hskip := Cursor.skipWhile_append (n := n) hname.isNameChar hr
  cases name with
  | nil => exact hname.elim
  | cons c name =>
    simp only [List.cons_append] at hrun hskip
    simp only [readIdentifier, List.cons_append, hname.1, if_true, hrun, hskip]

/-- The name that is read is a variable name, and it is what stood there. -/
lemma readIdentifier_sound {c c' : Cursor} {name : Text}
    (h : readIdentifier c = .ok (name, c')) :
    name.IsIdentifier ∧ c.rest = name ++ c'.rest := by
  simp only [readIdentifier] at h
  split at h
  · cases h
  · next d t hc =>
    split at h
    · next hd =>
      cases h
      exact ⟨Cursor.isIdentifier_run hc hd, (c.run_append_skipWhile isNameChar).symm⟩
    · cases h

/-- A line that is read as an assignment is a layout of it. -/
lemma readAssignment_sound {s name : Text} {value : Word}
    (h : readAssignment s = .ok (name, value)) :
    (Line.assignment name value).IsWellFormed ∧ (Line.assignment name value).Layout s := by
  simp only [readAssignment] at h
  split at h
  · cases h
  · next name₁ c hi =>
    split at h
    · cases h
    · next d rest hc =>
      split at h
      · cases h
      · next hd =>
        split at h
        · cases h
        · cases h
        · next f fs c' hf =>
          split at h
          · cases h
          · next hend =>
            cases h
            obtain rfl : d = '=' := not_not.mp hd
            obtain ⟨hname, hident⟩ := readIdentifier_sound hi
            obtain ⟨hfs, hword⟩ := readFragments_sound hf
            refine ⟨⟨hname, List.cons_ne_nil f fs, hfs⟩, s.takeWhile isBlank, c'.rest, ?_, ?_, ?_⟩
            · exact isBlankText_iff.mpr fun d => List.mem_takeWhile_imp
            · exact expectEnd_eq_ok_iff.mp hend
            · rw [Word.verbatim, ← hword, ← hc, ← hident]
              exact List.takeWhile_append_dropWhile.symm

/-- A layout of a well formed assignment is read as that assignment. -/
lemma readAssignment_complete {s name : Text} {value : Word}
    (hwf : (Line.assignment name value).IsWellFormed)
    (hs : (Line.assignment name value).Layout s) : readAssignment s = .ok (name, value) := by
  obtain ⟨gs⟩ := value
  obtain ⟨b₁, b₂, hb₁, hb₂, rfl⟩ := hs
  obtain ⟨hname, hne, hfs⟩ := hwf
  obtain ⟨f, fs, rfl⟩ : ∃ f fs, gs = f :: fs := List.exists_cons_of_ne_nil hne
  have heq : Stops isNameChar ('=' :: ((f :: fs).flatMap verbatim ++ b₂)) :=
    (stops_cons ..).mpr (by decide)
  have hend : ∀ n, expectEnd ⟨n, b₂⟩ = .ok () := fun n => expectEnd_eq_ok_iff.mpr hb₂
  simp only [readAssignment, Cursor.start, Word.verbatim,
    Cursor.skipWhile_append (isBlankText_iff.mp hb₁) (hname.stops_isBlank _),
    readIdentifier_complete hname heq,
    readFragments_complete hfs (stageEnd_of_isBlankText hb₂).stops, hend]
  rfl

/-- No text is a layout of an assignment and of a pipeline: after its longest run of characters
of a command name, one goes on with `=` and the other does not. -/
lemma not_layout_pipeline_of_assignment {s name : Text} {value : Word} {cmds : List Command}
    (hname : name.IsIdentifier) (hs : (Line.assignment name value).Layout s)
    (hcmds : (Line.pipeline cmds).IsWellFormed) : ¬ (Line.pipeline cmds).Layout s := by
  rintro ⟨b₁, _, b₂, hb₁, hb₂, @⟨t, u, cmd, cmds, ht, hu⟩, rfl⟩
  obtain ⟨b₃, b₄, hb₃, hb₄, heq⟩ := hs
  have hcmd : cmd.IsWellFormed := hcmds.2 cmd (List.mem_cons_self ..)
  have hstart := ht.stops_isBlank hcmd (u ++ b₂)
  obtain ⟨v, hv, rfl⟩ := ht
  have hstop := hv.stops (hu.stageEnd hb₂)
  have hassign : Stops isCommandChar ('=' :: (value.verbatim ++ b₄)) :=
    (stops_cons ..).mpr (by decide)
  -- Without the blanks in front, both layouts begin with their names.
  have hnames : cmd.name ++ (v ++ (u ++ b₂)) = name ++ '=' :: (value.verbatim ++ b₄) := by
    have h := congrArg (List.dropWhile isBlank) heq
    rw [dropWhile_append_of_stops (isBlankText_iff.mp hb₃) (hname.stops_isBlank _),
      List.append_assoc, List.append_assoc,
      dropWhile_append_of_stops (isBlankText_iff.mp hb₁) (by simpa using hstart)] at h
    exact h
  have hrest := congrArg (List.dropWhile isCommandChar) hnames
  rw [dropWhile_append_of_stops hcmd.1.2
      (hstop.of_imp fun _ => isWordChar_of_isCommandChar),
    dropWhile_append_of_stops
      (fun c hc => isCommandChar_of_isNameChar (hname.isNameChar c hc)) hassign] at hrest
  rw [hrest, stops_cons] at hstop
  exact absurd hstop (by decide)

/-- Reading a line gives exactly the well formed tree that the line is a layout of. -/
lemma parse_eq_ok_iff {s : Text} {l : Line} :
    parse s = .ok l ↔ l.IsWellFormed ∧ l.Layout s := by
  constructor
  · intro h
    simp only [parse] at h
    split at h
    · next name value ha =>
      cases h
      exact readAssignment_sound ha
    · split at h
      · next cmds hp =>
        cases h
        exact readPipeline_sound hp
      · cases h
  · rintro ⟨hwf, hs⟩
    cases l with
    | assignment name value => simp only [parse, readAssignment_complete hwf hs]
    | pipeline cmds =>
      simp only [parse]
      split
      · next name value ha =>
        obtain ⟨hname, hassign⟩ := readAssignment_sound ha
        exact absurd hs (not_layout_pipeline_of_assignment hname.1 hassign hwf)
      · simp only [readPipeline_complete hwf hs]

/-- A command name and words, with blanks at the end, are read as that one command. -/
lemma parse_command {name u b : Text} {ws : List Word} (hname : name.IsCommandName)
    (hws : ∀ w ∈ ws, w.IsCanonical) (hu : ArgumentsLayout ws u) (hb : b.isBlankText = true) :
    parse (name ++ (u ++ b)) = .ok (.pipeline [⟨name, ws⟩]) := by
  have hlayout : PipelineLayout [⟨name, ws⟩] (name ++ u ++ []) := .mk ⟨u, hu, rfl⟩ .nil
  refine parse_eq_ok_iff.mpr ⟨⟨List.cons_ne_nil _ _, ?_⟩, [], _, b, rfl, hb, hlayout, ?_⟩
  · rintro cmd (_ | ⟨_, ⟨⟩⟩)
    exact ⟨hname, hws⟩
  · simp

/-- The texts that are read are exactly those of the grammar, and each has one tree.  A text is
read as an assignment when it is a name, `=` and a word between blanks, and as a pipeline when it
is commands joined by `|`; it is never both, and every layout of a well formed tree gives that
tree back. -/
theorem parse_reads_grammar (s : Text) :
    (∀ name value, parse s = .ok (.assignment name value) ↔
      name.IsIdentifier ∧ value.IsCanonical ∧
        ∃ b₁ b₂ : Text, b₁.isBlankText = true ∧ b₂.isBlankText = true ∧
          s = b₁ ++ (name ++ '=' :: (value.verbatim ++ b₂))) ∧
    (∀ cmds, parse s = .ok (.pipeline cmds) ↔
      cmds ≠ [] ∧ (∀ cmd ∈ cmds, cmd.name.IsCommandName ∧ ∀ w ∈ cmd.arguments, w.IsCanonical) ∧
        ∃ b₁ t b₂ : Text, b₁.isBlankText = true ∧ b₂.isBlankText = true ∧
          PipelineLayout cmds t ∧ s = b₁ ++ (t ++ b₂)) ∧
    (∀ l l' : Line, l.IsWellFormed ∧ l.Layout s → l'.IsWellFormed ∧ l'.Layout s → l = l') ∧
    ∀ l : Line, l.IsWellFormed → l.Layout s → parse s = .ok l := by
  refine ⟨fun name value => ?_, fun cmds => ?_, fun l l' h h' => ?_, fun l hwf hs => ?_⟩
  · rw [parse_eq_ok_iff]
    exact and_assoc
  · rw [parse_eq_ok_iff]
    exact and_assoc
  · have hl : parse s = .ok l := parse_eq_ok_iff.mpr h
    have hl' : parse s = .ok l' := parse_eq_ok_iff.mpr h'
    exact Except.ok.inj (hl.symm.trans hl')
  · exact parse_eq_ok_iff.mpr ⟨hwf, hs⟩

end CommandShell.Line
