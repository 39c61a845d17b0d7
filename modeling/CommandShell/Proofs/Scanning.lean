import CommandShell.Region
import CommandShell.Proofs.Runs

/-!
# Cutting a line into regions

`Region.scan` is the inverse of writing regions down.  Nothing is lost, so the regions of a line
are written like the line; and among all regions that are written like it the scan finds the
canonical ones: plain text is not empty, keeps to the characters of its place and is never cut in
two, a quoted text does not hold its own quote, and a name is as long as it can be.

What a part needs of the text after it is `Piece.EndsBefore` and `Region.EndsBefore`.  The two
lemmas `mayPrecede_iff` translate it into a condition on the next part alone, which is how the
canonical form states it.
-/

namespace CommandShell

open Text

/-! ## Canonical pieces and regions -/

namespace Piece

/-- A piece that is read back from how it is written. -/
def IsCanonical : Piece → Prop
  | plain text => text ≠ [] ∧ ∀ c ∈ text, Region.isPlainQuoted c = true
  | reference name => name.IsIdentifier

instance : DecidablePred IsCanonical
  | plain text =>
    inferInstanceAs (Decidable (text ≠ [] ∧ ∀ c ∈ text, Region.isPlainQuoted c = true))
  | reference name => inferInstanceAs (Decidable name.IsIdentifier)

/-- Two plain texts would be read as one, and a name goes on as long as it can. -/
def MayPrecede : Piece → Piece → Prop
  | plain _, plain _ => False
  | reference _, plain text => Stops isNameChar text
  | _, reference _ => True

instance : DecidableRel MayPrecede
  | plain _, plain _ => inferInstanceAs (Decidable False)
  | reference _, plain text => inferInstanceAs (Decidable (Stops isNameChar text))
  | plain _, reference _ | reference _, reference _ => inferInstanceAs (Decidable True)

/-- Pieces that are read back from how they are written. -/
def AreCanonical (ps : List Piece) : Prop :=
  Linked IsCanonical MayPrecede ps

instance : DecidablePred AreCanonical := fun ps =>
  inferInstanceAs (Decidable (Linked IsCanonical MayPrecede ps))

/-- The text after a piece does not continue it. -/
def EndsBefore : Piece → Text → Prop
  | plain _, rest => Stops Region.isPlainQuoted rest
  | reference _, rest => Stops isNameChar rest

/-- A piece may stand before canonical pieces exactly when they do not continue it. -/
lemma mayPrecede_iff {p : Piece} {ps : List Piece} {rest : Text} (hps : AreCanonical ps) :
    (∀ q ∈ ps.head?, p.MayPrecede q) ↔ p.EndsBefore (ps.flatMap render ++ '"' :: rest) := by
  cases ps with
  | nil =>
    cases p with
    | plain u => simp [EndsBefore, Region.isPlainQuoted]
    | reference name => simp [EndsBefore]; decide
  | cons q ps =>
    obtain ⟨hq, -, -⟩ := hps.of_cons
    cases q with
    | reference name => cases p <;> simp [EndsBefore, MayPrecede, render] <;> decide
    | plain text =>
      cases p with
      | reference name => simp [EndsBefore, MayPrecede, render, stops_append hq.1]
      | plain u =>
        obtain ⟨d, t, rfl⟩ := List.exists_cons_of_ne_nil hq.1
        have hd : Region.isPlainQuoted d = true := hq.2 d (List.mem_cons_self ..)
        simp [EndsBefore, MayPrecede, render, hd]

end Piece

namespace Region

/-- A region that is read back from how it is written. -/
def IsCanonical : Region → Prop
  | plain text => text ≠ [] ∧ ∀ c ∈ text, isPlain c = true
  | single text => '\'' ∉ text
  | double inner => Piece.AreCanonical inner
  | reference name => name.IsIdentifier

instance : DecidablePred IsCanonical
  | plain text => inferInstanceAs (Decidable (text ≠ [] ∧ ∀ c ∈ text, isPlain c = true))
  | single text => inferInstanceAs (Decidable ('\'' ∉ text))
  | double inner => inferInstanceAs (Decidable (Piece.AreCanonical inner))
  | reference name => inferInstanceAs (Decidable name.IsIdentifier)

/-- Two plain texts would be read as one, and a name goes on as long as it can. -/
def MayPrecede : Region → Region → Prop
  | plain _, plain _ => False
  | reference _, plain text => Stops isNameChar text
  | _, _ => True

instance : DecidableRel MayPrecede
  | plain _, plain _ => inferInstanceAs (Decidable False)
  | reference _, plain text => inferInstanceAs (Decidable (Stops isNameChar text))
  | plain _, single _ | plain _, double _ | plain _, reference _ | reference _, single _
  | reference _, double _ | reference _, reference _ | single _, _ | double _, _ =>
    inferInstanceAs (Decidable True)

/-- Regions that are read back from how they are written. -/
def AreCanonical (rs : List Region) : Prop :=
  Linked IsCanonical MayPrecede rs

instance : DecidablePred AreCanonical := fun rs =>
  inferInstanceAs (Decidable (Linked IsCanonical MayPrecede rs))

/-- The text after a region does not continue it.  Quoted regions end by themselves. -/
def EndsBefore : Region → Text → Prop
  | plain _, rest => Stops isPlain rest
  | reference _, rest => Stops isNameChar rest
  | single _, _ => True
  | double _, _ => True

/-- A region may stand before canonical regions exactly when they do not continue it. -/
lemma mayPrecede_iff {r : Region} {rs : List Region} (hrs : AreCanonical rs) :
    (∀ q ∈ rs.head?, r.MayPrecede q) ↔ r.EndsBefore (rs.flatMap render) := by
  cases rs with
  | nil => cases r <;> simp [EndsBefore]
  | cons q rs =>
    obtain ⟨hq, -, -⟩ := hrs.of_cons
    cases q with
    | single text => cases r <;> simp [EndsBefore, MayPrecede, render] <;> decide
    | double ps => cases r <;> simp [EndsBefore, MayPrecede, render] <;> decide
    | reference name => cases r <;> simp [EndsBefore, MayPrecede, render] <;> decide
    | plain text =>
      cases r with
      | single u => simp [EndsBefore, MayPrecede]
      | double ps => simp [EndsBefore, MayPrecede]
      | reference name => simp [EndsBefore, MayPrecede, render, stops_append hq.1]
      | plain u =>
        obtain ⟨d, t, rfl⟩ := List.exists_cons_of_ne_nil hq.1
        have hd : isPlain d = true := hq.2 d (List.mem_cons_self ..)
        simp [EndsBefore, MayPrecede, render, hd]

/-! ## Names and double quotes -/

/-- A name is read to its end. -/
lemma scanName_complete {name rest : Text} {dollar n : ℕ} (hname : name.IsIdentifier)
    (hr : Stops isNameChar rest) :
    scanName dollar ⟨n, name ++ rest⟩ = .ok (name, ⟨n + name.length, rest⟩) := by
  have hrun := Cursor.run_append (n := n) hname.isNameChar hr
  have hskip := Cursor.skipWhile_append (n := n) hname.isNameChar hr
  cases name with
  | nil => exact hname.elim
  | cons c name =>
    simp only [List.cons_append] at hrun hskip
    simp only [scanName, List.cons_append, hname.1, if_true, hrun, hskip]

/-- The name that is read is a name of full length, and it is what stood there. -/
lemma scanName_sound {c c' : Cursor} {name : Text} {dollar : ℕ}
    (h : scanName dollar c = .ok (name, c')) :
    name.IsIdentifier ∧ c.rest = name ++ c'.rest ∧ Stops isNameChar c'.rest := by
  simp only [scanName] at h
  split at h
  · cases h
  · next d t hc =>
    split at h
    · next hd =>
      cases h
      exact ⟨Cursor.isIdentifier_run hc hd, (c.run_append_skipWhile isNameChar).symm,
        stops_dropWhile isNameChar c.rest⟩
    · cases h

/-- The closing quote ends the pieces. -/
lemma scanPieces_quote {opened n : ℕ} {rest : Text} :
    scanPieces opened ⟨n, '"' :: rest⟩ = .ok ([], ⟨n + 1, rest⟩) := by
  rw [scanPieces]
  rfl

/-- A reference is read, and then the pieces after it. -/
lemma scanPieces_reference {opened n : ℕ} {name rest : Text} (hname : name.IsIdentifier)
    (hr : Stops isNameChar rest) :
    scanPieces opened ⟨n, '$' :: (name ++ rest)⟩ =
      (scanPieces opened ⟨n + 1 + name.length, rest⟩).map
        (Prod.map (List.cons (.reference name)) id) := by
  rw [scanPieces]
  simp only [show ¬ '$' = '"' by decide, ↓reduceIte]
  split
  · next hn => simp [scanName_complete hname hr] at hn
  · next hn =>
    rw [scanName_complete hname hr] at hn
    cases hn
    cases scanPieces opened ⟨n + 1 + name.length, rest⟩ <;> rfl

/-- Plain text inside double quotes is read to its end, and then the pieces after it. -/
lemma scanPieces_plain {opened n : ℕ} {text rest : Text} (hne : text ≠ [])
    (ht : ∀ c ∈ text, isPlainQuoted c = true) (hr : Stops isPlainQuoted rest) :
    scanPieces opened ⟨n, text ++ rest⟩ =
      (scanPieces opened ⟨n + text.length, rest⟩).map
        (Prod.map (List.cons (.plain text)) id) := by
  obtain ⟨d, t, rfl⟩ := List.exists_cons_of_ne_nil hne
  have hd : isPlainQuoted d = true := ht d (List.mem_cons_self ..)
  have h₁ : d ≠ '"' := by rintro rfl; exact absurd hd (by decide)
  have h₂ : d ≠ '$' := by rintro rfl; exact absurd hd (by decide)
  rw [scanPieces]
  simp only [List.cons_append, h₁, h₂, ↓reduceIte]
  rw [← List.cons_append, Cursor.run_append ht hr, Cursor.skipWhile_append ht hr]
  cases scanPieces opened ⟨n + (d :: t).length, rest⟩ <;> rfl

/-- Canonical pieces are read back, up to the closing quote. -/
lemma scanPieces_complete {opened n : ℕ} {ps : List Piece} {rest : Text}
    (hps : Piece.AreCanonical ps) :
    scanPieces opened ⟨n, ps.flatMap Piece.render ++ '"' :: rest⟩ =
      .ok (ps, ⟨n + (ps.flatMap Piece.render).length + 1, rest⟩) := by
  induction ps generalizing n with
  | nil => exact scanPieces_quote
  | cons p ps ih =>
    obtain ⟨hp, htail, hnext⟩ := hps.of_cons
    have hend : p.EndsBefore (ps.flatMap Piece.render ++ '"' :: rest) :=
      (Piece.mayPrecede_iff htail).mp hnext
    cases p with
    | plain text =>
      simp only [List.flatMap_cons, Piece.render, List.append_assoc]
      rw [scanPieces_plain hp.1 hp.2 hend, ih htail]
      simp [Except.map, Nat.add_assoc]
    | reference name =>
      simp only [List.flatMap_cons, Piece.render, List.cons_append, List.append_assoc]
      rw [scanPieces_reference hp hend, ih htail]
      simp only [Except.map, Prod.map, id, List.length_cons, List.length_append, Except.ok.injEq,
        Prod.mk.injEq, Cursor.mk.injEq, and_true, true_and]
      omega

/-- The pieces that are read are canonical, and they are what stood before the closing quote. -/
lemma scanPieces_sound {opened : ℕ} {c c' : Cursor} {ps : List Piece}
    (h : scanPieces opened c = .ok (ps, c')) :
    Piece.AreCanonical ps ∧ c.rest = ps.flatMap Piece.render ++ '"' :: c'.rest := by
  fun_induction scanPieces opened c generalizing ps c' with
  | case1 => cases h
  | case2 c rest hc => cases h; exact ⟨.nil, hc⟩
  | case3 => cases h
  | case4 => cases h
  | case5 c rest name c₁ hn ps₁ c₂ hs hc _ ih =>
    cases h
    obtain ⟨hps, hrest⟩ := ih hs
    obtain ⟨hname, hread, hstop⟩ := scanName_sound hn
    rw [hrest] at hstop
    refine ⟨.cons hname hps ((Piece.mayPrecede_iff hps).mpr hstop), ?_⟩
    rw [hc, show rest = name ++ c₁.rest from hread, hrest]
    simp [Piece.render]
  | case6 => cases h
  | case7 c d rest hc h₁ h₂ ps₁ c₁ hs ih =>
    cases h
    obtain ⟨hps, hrest⟩ := ih hs
    have hne : c.run isPlainQuoted ≠ [] :=
      Cursor.run_ne_nil hc (by simp [isPlainQuoted, h₁, h₂])
    have hstop : Stops isPlainQuoted (c.skipWhile isPlainQuoted).rest :=
      stops_dropWhile isPlainQuoted c.rest
    rw [hrest] at hstop
    refine ⟨.cons ⟨hne, fun e => Cursor.of_mem_run⟩ hps
      ((Piece.mayPrecede_iff hps).mpr hstop), ?_⟩
    rw [List.flatMap_cons, List.append_assoc, ← hrest]
    exact (c.run_append_skipWhile isPlainQuoted).symm

/-! ## Whole lines -/

/-- An empty line has no regions. -/
lemma scanFrom_nil {n : ℕ} : scanFrom ⟨n, []⟩ = .ok [] := by
  rw [scanFrom]

/-- A region in single quotes is read, and then the regions after it. -/
lemma scanFrom_single {n : ℕ} {text rest : Text} (h : '\'' ∉ text) :
    scanFrom ⟨n, '\'' :: (text ++ '\'' :: rest)⟩ =
      (scanFrom ⟨n + 1 + text.length + 1, rest⟩).map (List.cons (.single text)) := by
  have hs : Stops (· != '\'') ('\'' :: rest) := by simp
  have hskip : Cursor.skipWhile (· != '\'') ⟨n + 1, text ++ '\'' :: rest⟩ =
      ⟨n + 1 + text.length, '\'' :: rest⟩ := Cursor.skipWhile_append (ne_of_not_mem h) hs
  rw [scanFrom]
  simp only [↓reduceIte]
  split
  · next hq => simp [hskip] at hq
  · simp only [hskip, Cursor.skip, Cursor.run_append (ne_of_not_mem h) hs]
    cases scanFrom ⟨n + 1 + text.length + 1, rest⟩ <;> rfl

/-- A region in double quotes is read, and then the regions after it. -/
lemma scanFrom_double {n : ℕ} {ps : List Piece} {rest : Text} (h : Piece.AreCanonical ps) :
    scanFrom ⟨n, '"' :: (ps.flatMap Piece.render ++ '"' :: rest)⟩ =
      (scanFrom ⟨n + 1 + (ps.flatMap Piece.render).length + 1, rest⟩).map
        (List.cons (.double ps)) := by
  rw [scanFrom]
  simp only [show ¬ '"' = '\'' by decide, ↓reduceIte]
  split
  · next hp => simp [scanPieces_complete h] at hp
  · next hp =>
    rw [scanPieces_complete h] at hp
    cases hp
    cases scanFrom ⟨n + 1 + (ps.flatMap Piece.render).length + 1, rest⟩ <;> rfl

/-- A reference is read, and then the regions after it. -/
lemma scanFrom_reference {n : ℕ} {name rest : Text} (hname : name.IsIdentifier)
    (hr : Stops isNameChar rest) :
    scanFrom ⟨n, '$' :: (name ++ rest)⟩ =
      (scanFrom ⟨n + 1 + name.length, rest⟩).map (List.cons (.reference name)) := by
  rw [scanFrom]
  simp only [show ¬ '$' = '\'' by decide, show ¬ '$' = '"' by decide, ↓reduceIte]
  split
  · next hn => simp [scanName_complete hname hr] at hn
  · next hn =>
    rw [scanName_complete hname hr] at hn
    cases hn
    cases scanFrom ⟨n + 1 + name.length, rest⟩ <;> rfl

/-- Plain text is read to its end, and then the regions after it. -/
lemma scanFrom_plain {n : ℕ} {text rest : Text} (hne : text ≠ [])
    (ht : ∀ c ∈ text, isPlain c = true) (hr : Stops isPlain rest) :
    scanFrom ⟨n, text ++ rest⟩ =
      (scanFrom ⟨n + text.length, rest⟩).map (List.cons (.plain text)) := by
  obtain ⟨d, t, rfl⟩ := List.exists_cons_of_ne_nil hne
  have hd : isPlain d = true := ht d (List.mem_cons_self ..)
  have h₁ : d ≠ '\'' := by rintro rfl; exact absurd hd (by decide)
  have h₂ : d ≠ '"' := by rintro rfl; exact absurd hd (by decide)
  have h₃ : d ≠ '$' := by rintro rfl; exact absurd hd (by decide)
  rw [scanFrom]
  simp only [List.cons_append, h₁, h₂, h₃, ↓reduceIte]
  rw [← List.cons_append, Cursor.run_append ht hr, Cursor.skipWhile_append ht hr]
  cases scanFrom ⟨n + (d :: t).length, rest⟩ <;> rfl

/-- Canonical regions are read back. -/
lemma scanFrom_complete {n : ℕ} {rs : List Region} (hrs : AreCanonical rs) :
    scanFrom ⟨n, rs.flatMap render⟩ = .ok rs := by
  induction rs generalizing n with
  | nil => exact scanFrom_nil
  | cons r rs ih =>
    obtain ⟨hr, htail, hnext⟩ := hrs.of_cons
    have hend : r.EndsBefore (rs.flatMap render) := (mayPrecede_iff htail).mp hnext
    cases r with
    | plain text =>
      rw [List.flatMap_cons, render, scanFrom_plain hr.1 hr.2 hend, ih htail]
      rfl
    | single text =>
      simp only [List.flatMap_cons, render, List.cons_append, List.append_assoc, List.nil_append]
      rw [scanFrom_single hr, ih htail]
      rfl
    | double ps =>
      simp only [List.flatMap_cons, render, List.cons_append, List.append_assoc, List.nil_append]
      rw [scanFrom_double hr, ih htail]
      rfl
    | reference name =>
      rw [List.flatMap_cons, render, List.cons_append, scanFrom_reference hr hend, ih htail]
      rfl

/-- The regions that are read are canonical, and they are what stood there. -/
lemma scanFrom_sound {c : Cursor} {rs : List Region} (h : scanFrom c = .ok rs) :
    AreCanonical rs ∧ rs.flatMap render = c.rest := by
  fun_induction scanFrom c generalizing rs with
  | case1 c hc => cases h; exact ⟨.nil, hc.symm⟩
  | case2 => cases h
  | case3 => cases h
  | case4 c rest c₁ d rest' hq rs₁ hs hc =>
    rename_i ih
    cases h
    obtain ⟨hrs, hrest⟩ := ih hs
    have hclose : rest.dropWhile (· != '\'') = d :: rest' := hq
    obtain ⟨hmem, ht⟩ := eq_of_dropWhile_ne_quote hclose
    refine ⟨.cons hmem hrs ((mayPrecede_iff hrs).mpr trivial), ?_⟩
    have hskip : (c₁.skipWhile (· != '\'')).skip.rest = rest' := by simp [Cursor.skip, hq]
    rw [List.flatMap_cons, hrest, hskip, hc]
    simpa [render, Cursor.run, c₁] using ht.symm
  | case5 => cases h
  | case6 => cases h
  | case7 c rest c₁ ps c₂ hp rs₁ hs hc _ =>
    rename_i ih
    cases h
    obtain ⟨hrs, hrest⟩ := ih hs
    obtain ⟨hps, hinner⟩ := scanPieces_sound hp
    refine ⟨.cons hps hrs ((mayPrecede_iff hrs).mpr trivial), ?_⟩
    rw [List.flatMap_cons, hrest, hc, show rest = _ from hinner]
    simp [render]
  | case8 => cases h
  | case9 => cases h
  | case10 c rest c₁ name c₂ hn rs₁ hs hc _ _ =>
    rename_i ih
    cases h
    obtain ⟨hrs, hrest⟩ := ih hs
    obtain ⟨hname, hread, hstop⟩ := scanName_sound hn
    rw [← hrest] at hstop
    refine ⟨.cons hname hrs ((mayPrecede_iff hrs).mpr hstop), ?_⟩
    rw [List.flatMap_cons, hrest, hc, show rest = _ from hread]
    simp [render]
  | case11 => cases h
  | case12 c d rest hc h₁ h₂ h₃ rs₁ hs ih =>
    cases h
    obtain ⟨hrs, hrest⟩ := ih hs
    have hne : c.run isPlain ≠ [] := Cursor.run_ne_nil hc (by simp [isPlain, h₁, h₂, h₃])
    have hstop : Stops isPlain (c.skipWhile isPlain).rest := stops_dropWhile isPlain c.rest
    rw [← hrest] at hstop
    refine ⟨.cons ⟨hne, fun e => Cursor.of_mem_run⟩ hrs ((mayPrecede_iff hrs).mpr hstop), ?_⟩
    rw [List.flatMap_cons, hrest]
    exact c.run_append_skipWhile isPlain

/-- Cutting a line and writing regions down are inverse to each other: a line is cut into some
regions exactly when they are canonical and are written like the line. -/
theorem scan_eq_ok_iff_canonical (line : Text) (rs : List Region) :
    scan line = .ok rs ↔ AreCanonical rs ∧ rs.flatMap render = line := by
  constructor
  · intro h
    exact scanFrom_sound h
  · rintro ⟨hrs, rfl⟩
    exact scanFrom_complete hrs

end Region

end CommandShell
