import CommandShell.Proofs.RawFaults

/-!
# Laws of replacing references

Two laws of `substitute`, both of which go through the places of a line and not through its regions,
since the regions of the texts that they compare differ.

* A line may be cut in two outside of quotes, and its references be replaced in each part alone.
  Plain text on both sides of the cut is one region of the line, so the regions do not simply add
  up; but all places of the second part keep their state when the first part is put before it, and
  so a fault of the second part only moves to the right (`Region.Fault.append`).

* A text is quiet when each `$` of it stands inside of single quotes (`QuoteState.Quiet`).  A quiet
  text with closed quotes stands for itself (`substitute_of_isSettled`), and a line with its
  references replaced is such a text if the values bring neither `$` nor quotes that count.
-/

namespace CommandShell

open Text QuoteState

variable {value : Text → Text}

/-! ## Lines put together -/

/-- A fault, moved to the right by some characters. -/
def ScanError.shift (n : ℕ) : ScanError → ScanError
  | .unfinishedQuote quote column => .unfinishedQuote quote (column + n)
  | .invalidVariable column => .invalidVariable (column + n)

namespace Text

variable {a b : Text}

/-- No `$` of a faultless line becomes bad when a text is put after the line. -/
lemma IsFaultless.not_isBadDollar_append (ha : a.IsFaultless) {i : ℕ} (hi : i < a.length) :
    ¬ IsBadDollar (a ++ b) i := by
  rintro ⟨hdollar, hstate, hstop⟩
  rw [List.getElem?_append_left hi] at hdollar
  rw [stateAt, List.take_append_of_le_length hi.le] at hstate
  rw [List.drop_append_of_le_length hi] at hstop
  exact ha.clean i ⟨hdollar, hstate, hstop.of_append⟩

/-- After a faultless line, the places of a text have the states they have in the text alone. -/
lemma IsFaultless.stateAt_append (ha : a.IsFaultless) (i : ℕ) :
    stateAt (a ++ b) (a.length + i) = b.stateAt i := by
  rw [Text.stateAt_append, ha.closed]
  rfl

/-- After a faultless line, the same `$` are bad. -/
lemma IsFaultless.isBadDollar_append_iff (ha : a.IsFaultless) (i : ℕ) :
    IsBadDollar (a ++ b) (a.length + i) ↔ b.IsBadDollar i := by
  rw [Text.isBadDollar_append_iff, ha.closed]
  rfl

/-- After a faultless line, the same quote is left open. -/
lemma LeftOpen.append {quote : Char} {i : ℕ} (h : b.LeftOpen quote i) (ha : a.IsFaultless) :
    LeftOpen (a ++ b) quote (a.length + i) := by
  obtain ⟨hquote, hstate, hinside⟩ := h
  refine ⟨?_, ?_, fun j hj hle => ?_⟩
  · rwa [List.getElem?_append_right (Nat.le_add_right ..), Nat.add_sub_cancel_left]
  · rwa [ha.stateAt_append]
  · obtain ⟨k, rfl⟩ : ∃ k, j = a.length + k := ⟨j - a.length, by omega⟩
    rw [List.length_append] at hle
    rw [ha.stateAt_append]
    exact hinside k (by omega) (by omega)

end Text

namespace Region

/-- After a faultless line, the fault of a text is moved by the length of the line. -/
lemma Fault.append {a b : Text} {e : ScanError} (h : Fault b e) (ha : a.IsFaultless) :
    Fault (a ++ b) (e.shift a.length) := by
  -- Every place of the whole is one of the line, where no `$` is bad, or one of the text.
  have hplace : ∀ {i}, (∀ j < i, ¬ b.IsBadDollar j) →
      ∀ j < a.length + i, ¬ IsBadDollar (a ++ b) j := by
    intro i hclean j hj
    rcases lt_or_ge j a.length with hlt | hge
    · exact ha.not_isBadDollar_append hlt
    · obtain ⟨k, rfl⟩ := Nat.exists_eq_add_of_le hge
      rw [ha.isBadDollar_append_iff]
      exact hclean k (by omega)
  cases h with
  | @dollar i hbad hfirst =>
    rw [ScanError.shift, show i + 1 + a.length = a.length + i + 1 by omega]
    exact .dollar ((ha.isBadDollar_append_iff i).mpr hbad) (hplace hfirst)
  | @quote quote i hclean hopen =>
    rw [ScanError.shift, show i + 1 + a.length = a.length + i + 1 by omega]
    refine .quote (fun j hbad => ?_) (hopen.append ha)
    exact hplace (i := b.length) (fun k _ => hclean k) j
      (by simpa using hbad.lt_length) hbad

end Region

/-- Replacing references is compositional.  Where a line is cut in two, so that the first part can
be cut into regions and does not end with a name that the second goes on with, the references are
replaced in each part as if it stood alone; and where the second part has a fault, the line has the
same one, moved by the length of the first part. -/
theorem substitute_append_compositional (value : Text → Text) {a b : Text} {rs : List Region}
    (ha : Region.scan a = .ok rs)
    (hlast : (∀ name, rs.getLast? ≠ some (.reference name)) ∨ Stops isNameChar b) :
    ∃ x, substitute value a = .ok x ∧
      (∀ y, substitute value b = .ok y → substitute value (a ++ b) = .ok (x ++ y)) ∧
      ∀ e, substitute value b = .error e →
        substitute value (a ++ b) = .error (e.shift a.length) := by
  refine ⟨rs.flatMap (Region.expand value), ?_, fun y hy => ?_, fun e he => ?_⟩
  · rw [substitute, ha]
    rfl
  · refine substitute_append_of_scan ha hy fun name hname => ?_
    exact hlast.resolve_left fun hnone => hnone name hname
  · have hfault : Region.Fault b e :=
      Region.scan_eq_error_iff.mp (Region.substitute_eq_error_iff.mp he)
    have hfaultless : a.IsFaultless := Region.exists_scan_iff.mp ⟨rs, ha⟩
    rw [Region.substitute_eq_error_iff, Region.scan_eq_error_iff]
    exact hfault.append hfaultless

/-- The first part ends with a name, which neither `-` nor an apostrophe goes on with. -/
theorem substitute_append_compositional_name :
    substitute (fun name => name ++ "1".toList) ("echo $x".toList ++ "-$y".toList) =
        .ok "echo x1-y1".toList ∧
      substitute (fun name => name ++ "1".toList) "'$".toList = .error (.unfinishedQuote '\'' 1) ∧
      substitute (fun name => name ++ "1".toList) ("echo $x".toList ++ "'$".toList) =
        .error (.unfinishedQuote '\'' 8) := by
  have hcanonical : Region.AreCanonical [.plain "echo ".toList, .reference "x".toList] := by decide
  have hscan : Region.scan "echo $x".toList = .ok _ := Region.scanFrom_complete hcanonical
  have hy : substitute (fun name => name ++ "1".toList) "-$y".toList = .ok "-y1".toList :=
    substitute_flatMap_render
      (show Region.AreCanonical [.plain "-".toList, .reference "y".toList] by decide)
  have hquote : substitute (fun name => name ++ "1".toList) "'$".toList =
      .error (.unfinishedQuote '\'' 1) := by decide +kernel
  obtain ⟨x, hx, hok, -⟩ := substitute_append_compositional (fun name => name ++ "1".toList)
    (b := "-$y".toList) hscan (.inr (by decide))
  obtain ⟨-, -, -, herror⟩ := substitute_append_compositional (fun name => name ++ "1".toList)
    (b := "'$".toList) hscan (.inr (by decide))
  obtain rfl : x = "echo x1".toList :=
    Except.ok.inj (hx.symm.trans (substitute_flatMap_render hcanonical))
  exact ⟨hok _ hy, hquote, herror _ hquote⟩

/-! ## Texts that stand for themselves -/

namespace QuoteState

/-- Each `$` of a text that begins in a state stands inside of single quotes. -/
def Quiet (q : QuoteState) (t : Text) : Prop :=
  ∀ i, t[i]? = some '$' → q.after (t.take i) = inside '\''

/-- A text is quiet when its first character is no live `$` and the rest is quiet. -/
lemma quiet_cons_iff {q : QuoteState} {c : Char} {t : Text} :
    Quiet q (c :: t) ↔ (c = '$' → q = inside '\'') ∧ Quiet (q.next c) t := by
  constructor
  · intro h
    exact ⟨fun hc => h 0 (by simp [hc]), fun i hi => h (i + 1) (by simpa using hi)⟩
  · rintro ⟨hc, ht⟩ i hi
    cases i with
    | zero => exact hc (by simpa using hi)
    | succ i => exact ht i (by simpa using hi)

/-- A text is quiet when both of its parts are, each in the state that it begins in. -/
lemma quiet_append_iff {q : QuoteState} {t u : Text} :
    Quiet q (t ++ u) ↔ Quiet q t ∧ Quiet (q.after t) u := by
  induction t generalizing q with
  | nil => simp [Quiet]
  | cons c t ih => rw [List.cons_append, quiet_cons_iff, ih, quiet_cons_iff, after_cons, and_assoc]

/-- A text without `$` is quiet. -/
lemma quiet_of_not_mem {t : Text} (h : '$' ∉ t) (q : QuoteState) : Quiet q t :=
  fun _ hi => absurd (List.mem_of_getElem? hi) h

/-- Inside of single quotes every text is quiet, up to the quote that closes them. -/
lemma quiet_inside_single {t : Text} (h : '\'' ∉ t) : Quiet (inside '\'') t :=
  fun _ _ => after_inside fun hmem => h (List.mem_of_mem_take hmem)

/-- Inside of double quotes a quiet text has no `$`, up to the quote that closes them. -/
lemma Quiet.dollar_not_mem {t : Text} (h : Quiet (inside '"') t) (ht : '"' ∉ t) : '$' ∉ t := by
  intro hmem
  obtain ⟨i, hi⟩ := List.getElem?_of_mem hmem
  have hstate : (inside '"').after (t.take i) = inside '\'' := h i hi
  rw [after_inside fun hquote => ht (List.mem_of_mem_take hquote)] at hstate
  cases hstate

/-- No `$` of a quiet line is bad. -/
lemma Quiet.not_isBadDollar {line : Text} (h : Quiet outside line) (i : ℕ) :
    ¬ line.IsBadDollar i :=
  fun hbad => hbad.2.1 (h i hbad.1)

end QuoteState

/-- A text of which each `$` stands inside of single quotes, and all quotes are closed. -/
structure Text.IsSettled (t : Text) : Prop where
  /-- Each `$` stands inside of single quotes. -/
  quiet : Quiet outside t
  /-- The text ends outside of quotes. -/
  closed : outside.after t = outside

/-- Settled texts are settled in a row. -/
lemma Text.isSettled_flatMap {α : Type} {f : α → Text} {xs : List α}
    (h : ∀ x ∈ xs, (f x).IsSettled) : IsSettled (xs.flatMap f) := by
  induction xs with
  | nil => exact ⟨by simp [Quiet], rfl⟩
  | cons x xs ih =>
    obtain ⟨⟨hquiet, hclosed⟩, hxs⟩ := List.forall_mem_cons.mp h
    refine ⟨?_, ?_⟩
    · rw [List.flatMap_cons, quiet_append_iff, hclosed]
      exact ⟨hquiet, (ih hxs).quiet⟩
    · rw [List.flatMap_cons, after_append, hclosed]
      exact (ih hxs).closed

namespace Region

/-- A canonical region that is written quietly has no references. -/
lemma expand_eq_render_of_quiet {r : Region} (hr : r.IsCanonical) (h : Quiet outside r.render) :
    r.expand value = r.render := by
  cases r with
  | plain text => rfl
  | single text => rfl
  | double ps =>
    have hinner : '$' ∉ ps.flatMap Piece.render := by
      have hinside := (quiet_append_iff.mp (quiet_cons_iff.mp h).2).1
      exact hinside.dollar_not_mem (Piece.not_mem_flatMap_render hr.each)
    have hpieces : ∀ p ∈ ps, p.expand value = p.render := by
      intro p hp
      cases p with
      | plain text => rfl
      | reference name => exact absurd (List.mem_flatMap.mpr ⟨_, hp, List.mem_cons_self ..⟩) hinner
    rw [expand, render, List.flatMap_congr hpieces]
  | reference name =>
    have hstate := (quiet_cons_iff.mp h).1 rfl
    cases hstate

/-- Canonical regions that are written quietly have no references. -/
lemma flatMap_expand_of_quiet {rs : List Region} (hrs : ∀ r ∈ rs, r.IsCanonical)
    (h : Quiet outside (rs.flatMap render)) :
    rs.flatMap (expand value) = rs.flatMap render := by
  induction rs with
  | nil => rfl
  | cons r rs ih =>
    obtain ⟨hr, hrs⟩ := List.forall_mem_cons.mp hrs
    obtain ⟨hfirst, hrest⟩ := quiet_append_iff.mp h
    -- Without references the region is the same with all values empty, and these bring no quotes.
    have hempty : outside.after (r.expand fun _ => []) = outside :=
      after_expand hr (by simp) (by simp)
    rw [expand_eq_render_of_quiet hr hfirst] at hempty
    rw [hempty] at hrest
    rw [List.flatMap_cons, List.flatMap_cons, expand_eq_render_of_quiet hr hfirst, ih hrs hrest]

/-- A region is quiet with its references replaced, if the values bring no `$`. -/
lemma quiet_expand {r : Region} (hr : r.IsCanonical)
    (hplain : ∀ name, r = .reference name → '$' ∉ value name)
    (hquoted : ∀ ps, r = .double ps → ∀ name, Piece.reference name ∈ ps → '$' ∉ value name) :
    Quiet outside (r.expand value) := by
  cases r with
  | plain text =>
    exact quiet_of_not_mem (fun hmem => absurd (hr.2 '$' hmem) (by decide)) outside
  | single text =>
    refine quiet_cons_iff.mpr ⟨by decide, quiet_append_iff.mpr ⟨quiet_inside_single hr, ?_⟩⟩
    exact quiet_of_not_mem (by decide) _
  | double ps =>
    have hinner : '$' ∉ ps.flatMap (Piece.expand value) :=
      Piece.not_mem_flatMap_expand rfl hr.each (hquoted ps rfl)
    exact quiet_of_not_mem (by simp [expand, hinner]) outside
  | reference name => exact quiet_of_not_mem (hplain name rfl) outside

end Region

/-- A settled text stands for itself. -/
lemma substitute_of_isSettled {t : Text} (h : t.IsSettled) : substitute value t = .ok t := by
  obtain ⟨rs, hrs⟩ : ∃ rs, Region.scan t = .ok rs :=
    Region.exists_scan_iff.mpr ⟨h.quiet.not_isBadDollar, h.closed⟩
  obtain ⟨hcanonical, rfl⟩ : Region.AreCanonical rs ∧ rs.flatMap Region.render = t :=
    Region.scanFrom_sound hrs
  rw [substitute_flatMap_render hcanonical, Region.flatMap_expand_of_quiet hcanonical.each h.quiet]

/-- A line with its references replaced stands for itself, under all values.  This holds where the
values of references outside of quotes hold neither `$` nor a quote, and those of references inside
of double quotes neither `$` nor `"`.  In particular a line with closed quotes of which each `$`
stands inside of single quotes is left as it is. -/
theorem substitute_substituted (line : Text) :
    (∀ value rs out, Region.scan line = .ok rs → substitute value line = .ok out →
      (∀ name, Region.reference name ∈ rs →
        '$' ∉ value name ∧ '\'' ∉ value name ∧ '"' ∉ value name) →
      (∀ ps, Region.double ps ∈ rs → ∀ name, Piece.reference name ∈ ps →
        '$' ∉ value name ∧ '"' ∉ value name) →
      ∀ value', substitute value' out = .ok out) ∧
    (Quiet outside line → outside.after line = outside →
      ∀ value', substitute value' line = .ok line) := by
  refine ⟨?_, fun hquiet hclosed _ => substitute_of_isSettled ⟨hquiet, hclosed⟩⟩
  intro value rs out hscan hout hplain hquoted value'
  obtain ⟨rs', hscan', rfl⟩ := exists_scan_of_substitute hout
  obtain rfl : rs = rs' := Except.ok.inj (hscan.symm.trans hscan')
  have hcanonical : Region.AreCanonical rs := (Region.scanFrom_sound hscan).1
  refine substitute_of_isSettled (isSettled_flatMap fun r hr => ⟨?_, ?_⟩)
  · refine Region.quiet_expand (hcanonical.each r hr) ?_ ?_
    · rintro name rfl
      exact (hplain name hr).1
    · rintro ps rfl name hname
      exact (hquoted ps hr name hname).1
  · refine Region.after_expand (hcanonical.each r hr) ?_ ?_
    · rintro name rfl
      exact (hplain name hr).2
    · rintro ps rfl name hname
      exact (hquoted ps hr name hname).2

/-- An apostrophe may come with a value into double quotes, and a `$` stays in single ones. -/
theorem substitute_substituted_apostrophe :
    substitute (fun name => name ++ "'s".toList) "echo '$a' \"$x\"".toList =
        .ok "echo '$a' \"x's\"".toList ∧
      ∀ value', substitute value' "echo '$a' \"x's\"".toList =
        .ok "echo '$a' \"x's\"".toList := by
  have hcanonical : Region.AreCanonical [.plain "echo ".toList, .single "$a".toList,
      .plain " ".toList, .double [.reference "x".toList]] := by decide
  have hout : substitute (fun name => name ++ "'s".toList) "echo '$a' \"$x\"".toList =
      .ok "echo '$a' \"x's\"".toList := substitute_flatMap_render hcanonical
  refine ⟨hout, (substitute_substituted _).1 _ _ _ (Region.scanFrom_complete hcanonical) hout ?_ ?_⟩
  · simp
  · intro ps hps name hname
    obtain rfl : ps = [.reference "x".toList] := by simpa using hps
    obtain rfl : name = "x".toList := by simpa using hname
    decide

-- A `$` that comes with a value is live in the new line.
example : substitute (fun name => if name = "x".toList then "$y".toList else []) "$x".toList =
      .ok "$y".toList ∧
    substitute (fun name => if name = "x".toList then "$y".toList else []) "$y".toList =
      .ok [] := by
  decide +kernel

end CommandShell
