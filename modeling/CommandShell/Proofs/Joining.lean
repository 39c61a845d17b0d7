import CommandShell.Proofs.Scanning

/-!
# Lines put together

Two lines that can be cut into regions can be cut into regions together, unless the second one
goes on with a name that ends the first.  The regions are those of the two lines; only where one
plain text meets another do they become one, which is `Region.push`.  References are replaced in
each of the lines as if it stood alone (`substitute_append`).
-/

namespace CommandShell

open Text

namespace Region

/-! ## Regions in a row -/

/-- Put a region in front of others.  Plain text before plain text is one region. -/
def push : Region → List Region → List Region
  | plain t, plain u :: rs => plain (t ++ u) :: rs
  | r, rs => r :: rs

/-- A region that is put in front is written, and replaced, in front of the others. -/
lemma flatMap_push {f : Region → Text} (hf : ∀ t, f (plain t) = t) (r : Region)
    (rs : List Region) : (push r rs).flatMap f = f r ++ rs.flatMap f := by
  unfold push
  split
  · simp [hf]
  · rfl

/-- Regions that are put in front are written, and replaced, in front of the others. -/
lemma flatMap_foldr_push {f : Region → Text} (hf : ∀ t, f (plain t) = t)
    (rs qs : List Region) : (rs.foldr push qs).flatMap f = rs.flatMap f ++ qs.flatMap f := by
  induction rs with
  | nil => rfl
  | cons r rs ih => rw [List.foldr_cons, flatMap_push hf, ih, List.flatMap_cons, List.append_assoc]

/-- A canonical region is written with at least one character. -/
lemma IsCanonical.render_ne_nil {r : Region} (h : r.IsCanonical) : r.render ≠ [] := by
  cases r with
  | plain text => exact h.1
  | single text => exact List.cons_ne_nil _ _
  | double inner => exact List.cons_ne_nil _ _
  | reference name => exact List.cons_ne_nil _ _

/-- A canonical region may be put in front of canonical regions, if they do not go on with its
name. -/
lemma AreCanonical.push {r : Region} {rs : List Region} (hrs : AreCanonical rs)
    (hr : r.IsCanonical)
    (hname : ∀ name, r = reference name → Stops isNameChar (rs.flatMap render)) :
    AreCanonical (r.push rs) := by
  cases r with
  | single text => exact .cons hr hrs ((mayPrecede_iff hrs).mpr trivial)
  | double inner => exact .cons hr hrs ((mayPrecede_iff hrs).mpr trivial)
  | reference name => exact .cons hr hrs ((mayPrecede_iff hrs).mpr (hname name rfl))
  | plain t =>
    cases rs with
    | nil => exact .cons hr hrs (by simp)
    | cons q rs =>
      cases q with
      | plain u =>
        obtain ⟨hu, htail, hnext⟩ := hrs.of_cons
        refine .cons ⟨?_, ?_⟩ htail fun y hy => ?_
        · exact List.append_ne_nil_of_left_ne_nil hr.1 u
        · intro c hc
          rcases List.mem_append.mp hc with hc | hc
          · exact hr.2 c hc
          · exact hu.2 c hc
        · have := hnext y hy
          cases y <;> exact this
      | single u => exact .cons hr hrs (by simp [MayPrecede])
      | double inner => exact .cons hr hrs (by simp [MayPrecede])
      | reference name => exact .cons hr hrs (by simp [MayPrecede])

/-- The regions of two lines make canonical regions, if the second line does not go on with a name
that ends the first. -/
lemma AreCanonical.foldr_push {rs qs : List Region} (hrs : AreCanonical rs)
    (hqs : AreCanonical qs)
    (hlast : ∀ name, rs.getLast? = some (reference name) →
      Stops isNameChar (qs.flatMap render)) :
    AreCanonical (rs.foldr Region.push qs) := by
  induction rs with
  | nil => exact hqs
  | cons r rs ih =>
    obtain ⟨hr, htail, hnext⟩ := hrs.of_cons
    cases rs with
    | nil =>
      refine AreCanonical.push hqs hr ?_
      rintro name rfl
      exact hlast name rfl
    | cons q rs =>
      have hcanonical : AreCanonical ((q :: rs).foldr Region.push qs) :=
        ih htail fun name hname => hlast name (by rwa [List.getLast?_cons_cons])
      refine hcanonical.push hr ?_
      rintro name rfl
      -- The name is followed by a region of the first line, and ends there already.
      have hstop : Stops isNameChar ((q :: rs).flatMap render) :=
        (mayPrecede_iff htail).mp hnext
      have hne : (q :: rs).flatMap render ≠ [] :=
        List.append_ne_nil_of_left_ne_nil htail.of_cons.1.render_ne_nil _
      rw [flatMap_foldr_push fun t => rfl]
      exact (stops_append hne).mpr hstop

/-- Two lines are cut into their regions together, if the second does not go on with a name that
ends the first. -/
lemma scan_append {a b : Text} {rs qs : List Region} (ha : scan a = .ok rs)
    (hb : scan b = .ok qs)
    (hlast : ∀ name, rs.getLast? = some (reference name) → Stops isNameChar b) :
    scan (a ++ b) = .ok (rs.foldr push qs) := by
  obtain ⟨hrs, rfl⟩ : AreCanonical rs ∧ rs.flatMap render = a := scanFrom_sound ha
  obtain ⟨hqs, rfl⟩ : AreCanonical qs ∧ qs.flatMap render = b := scanFrom_sound hb
  rw [← flatMap_foldr_push fun t => rfl]
  exact scanFrom_complete (hrs.foldr_push hqs hlast)

end Region

/-! ## Replacing references in a row -/

variable {value : Text → Text}

/-- References are replaced region by region. -/
lemma substitute_flatMap_render {rs : List Region} (h : Region.AreCanonical rs) :
    substitute value (rs.flatMap Region.render) = .ok (rs.flatMap (Region.expand value)) := by
  have hscan : Region.scan (rs.flatMap Region.render) = .ok rs := Region.scanFrom_complete h
  rw [substitute, hscan]
  rfl

/-- A line with its references replaced comes from the regions of the line. -/
lemma exists_scan_of_substitute {line s : Text} (h : substitute value line = .ok s) :
    ∃ rs, Region.scan line = .ok rs ∧ s = rs.flatMap (Region.expand value) := by
  cases hscan : Region.scan line with
  | error e =>
    rw [substitute, hscan] at h
    cases h
  | ok rs =>
    rw [substitute, hscan] at h
    exact ⟨rs, rfl, (Except.ok.inj h).symm⟩

/-- In two lines that are put together the references are replaced as in each alone, if the second
does not go on with a name that ends the first. -/
lemma substitute_append_of_scan {a b t : Text} {rs : List Region} (ha : Region.scan a = .ok rs)
    (hb : substitute value b = .ok t)
    (hlast : ∀ name, rs.getLast? = some (.reference name) → Stops isNameChar b) :
    substitute value (a ++ b) = .ok (rs.flatMap (Region.expand value) ++ t) := by
  obtain ⟨qs, hqs, rfl⟩ := exists_scan_of_substitute hb
  rw [substitute, Region.scan_append ha hqs hlast, ← Region.flatMap_foldr_push fun t => rfl]
  rfl

/-- This holds whenever the second does not begin with a character of a name. -/
lemma substitute_append {a b s t : Text} (ha : substitute value a = .ok s)
    (hb : substitute value b = .ok t) (hstop : Stops isNameChar b) :
    substitute value (a ++ b) = .ok (s ++ t) := by
  obtain ⟨rs, hrs, rfl⟩ := exists_scan_of_substitute ha
  exact substitute_append_of_scan hrs hb fun _ _ => hstop

/-- The characters of a command name are plain. -/
lemma Region.isPlain_of_isCommandChar {c : Char} (h : isCommandChar c = true) :
    Region.isPlain c = true := by
  simp only [Region.isPlain, Bool.and_eq_true, bne_iff_ne]
  refine ⟨⟨?_, ?_⟩, ?_⟩
  all_goals
    rintro rfl
    exact absurd h (by decide)

/-- Text without quotes and dollar signs stands for itself. -/
lemma substitute_plain {t : Text} (ht : ∀ c ∈ t, Region.isPlain c = true) :
    substitute value t = .ok t := by
  by_cases hne : t = []
  · rw [hne]
    exact substitute_flatMap_render .nil
  · have hrs : Region.AreCanonical [.plain t] := .cons ⟨hne, ht⟩ .nil (by simp)
    have h : substitute value ([Region.plain t].flatMap Region.render) =
        .ok ([Region.plain t].flatMap (Region.expand value)) := substitute_flatMap_render hrs
    simpa [Region.render, Region.expand] using h

/-- Text in single quotes stands for itself. -/
lemma substitute_single {t : Text} (ht : '\'' ∉ t) :
    substitute value ('\'' :: t ++ ['\'']) = .ok ('\'' :: t ++ ['\'']) := by
  have hrs : Region.AreCanonical [.single t] := .cons ht .nil (by simp)
  have h : substitute value ([Region.single t].flatMap Region.render) =
      .ok ([Region.single t].flatMap (Region.expand value)) := substitute_flatMap_render hrs
  simpa [Region.render, Region.expand] using h

end CommandShell
