import CommandShell.Proofs.Numbers
import CommandShell.Script.Field
import CommandShell.Script.Glob

/-!
# Words and numbers in scripts

A word of a script that is expanded is cut into fields.  Text outside of quotes is cut at the blanks
among the separators: its fields are the pieces between them that are not empty
(`Script.splitFields_unquoted`).  The cutting goes through the text once and passes over the blanks
after each field, so the lemmas say what it does with one piece, kept, passed over or cut at, and
`Script.Cutting.region_fields` goes through all of them.

Quotes take the meaning of characters away twice.  A quoted text stays in one field whatever the
separators are (`Script.splitFields_quoted`), and where a field is used as a pattern, its quoted
characters stand for themselves (`Script.Glob.isMatch_pattern_quoted`): the pattern of a quoted text
has a backslash before each character, and a match goes through the two texts side by side.

Numbers are signed words.  Each of them is read back from its digits (`Script.integer?_ofInt`), and
arithmetic that leaves them comes back by a multiple of their number (`Script.wrap_eq_iff`).
-/

namespace CommandShell.Script

/-! ## Quoted fields -/

/-- The pieces of a quoted text. -/
def quotedPieces (t : Text) : Field :=
  t.map (.char · true)

/-- Segments that stay together are not joined. -/
lemma join_quoted (ts : List Text) :
    Segment.join (ts.map Segment.quoted) = ts.map Segment.quoted := by
  induction ts with
  | nil => rfl
  | cons t ts ih =>
    rw [List.map_cons, Segment.quoted, Segment.join, ih]
    exact fun c heq => nomatch heq

/-- They are put behind what the field holds already. -/
lemma foldl_segment_quoted (separators : Text) (ts : List Text) (s : Cutting) :
    (ts.map Segment.quoted).foldl (Cutting.segment separators) s =
      { s with current := (quotedPieces ts.flatten).reverse ++ s.current } := by
  induction ts generalizing s with
  | nil => rfl
  | cons t ts ih =>
    rw [List.map_cons, List.foldl_cons, ih]
    simp [Cutting.segment, Segment.quoted, Segment.pieces, quotedPieces]

/-- Quoted texts one after the other make one field, or none if there is nothing in them. -/
theorem splitFields_quoted (separators : Text) (limit : Option ℕ) (ts : List Text) :
    splitFields separators limit (ts.map Segment.quoted) =
      if ts.flatten = [] then [] else [quotedPieces ts.flatten] := by
  rw [splitFields, join_quoted]
  simp only [foldl_segment_quoted]
  generalize ts.flatten = t
  cases t with
  | nil => rfl
  | cons c t => simp [quotedPieces]

/-! ## Unquoted fields -/

/-- The pieces of a text outside of quotes. -/
def unquotedPieces (t : Text) : Field :=
  t.map (.char · false)

namespace Cutting

variable {isSeparator : Char → Bool}

/-- A piece is a separator. -/
def separates (isSeparator : Char → Bool) : Piece → Bool
  | .char c _ => isSeparator c
  | .quote => false

/-- The fields of a cutting, with the one that is being made if there is something in it. -/
def fields (s : Cutting) : List Field :=
  s.done.reverse ++ if s.current = [] then [] else [s.current.reverse]

/-- After a blank, blanks are passed over up to the next other piece. -/
lemma passOver_eq (hblank : ∀ c, isSeparator c = true → (isSeparatorBlank c || c == '\x00') = true)
    (ps : List Piece) :
    passOver isSeparator true ps = (true, ps.dropWhile (separates isSeparator)) := by
  induction ps with
  | nil => rfl
  | cons p ps ih =>
    cases p with
    | quote => rfl
    | char c q =>
      cases hc : isSeparator c with
      | false => simp [passOver, separates, hc]
      | true => simp [passOver, separates, hc, hblank c hc, ih]

/-- Where no field is being made, the first piece continues nothing. -/
lemma modifyHead_nothing (pieces : List Field) :
    pieces.modifyHead (([] : Field).reverse ++ ·) = pieces := by
  cases pieces with
  | nil => rfl
  | cons piece pieces => rfl

/-- Separators at the beginning only make empty pieces. -/
lemma filter_splitOnP_dropWhile {α : Type} [DecidableEq α] (p : α → Bool) (xs : List α) :
    ((xs.dropWhile p).splitOnP p).filter (· ≠ []) = (xs.splitOnP p).filter (· ≠ []) := by
  induction xs with
  | nil => rfl
  | cons x xs ih =>
    cases hx : p x with
    | false => rw [List.dropWhile_cons_of_neg (by simp [hx])]
    | true =>
      rw [List.dropWhile_cons_of_pos hx, ih, List.splitOnP_cons_eq_if_modifyHead, if_pos hx,
        List.filter_cons_of_neg (by simp)]

variable {s : Cutting} {p : Piece} {rest : List Piece} {n : ℕ}

/-- Nothing is left over of regions before, and there may be any number of fields. -/
structure IsFree (s : Cutting) : Prop where
  left : s.left = none
  tail : s.tail = none
  boundaries : s.afterBoundaries = false

/-- A piece that is no separator is kept. -/
lemma region_keep (n : ℕ) (rest : List Piece) (hs : s.IsFree)
    (hp : separates isSeparator p = false) :
    ∃ b, region isSeparator false (n + 1) s (p :: rest) =
      region isSeparator false n { s with current := p :: s.current, afterBlank := b } rest := by
  cases p with
  | quote => exact ⟨s.afterBlank, rfl⟩
  | char c q =>
    have hc : isSeparator c = false := hp
    exact ⟨false, by simp [region, hc, hs.left]⟩

/-- Where no field is being made, a blank is passed over. -/
lemma region_skip (hs : s.IsFree)
    (hblank : ∀ c, isSeparator c = true → (isSeparatorBlank c || c == '\x00') = true)
    (hp : separates isSeparator p = true) (hcurrent : s.current = []) :
    region isSeparator false (n + 1) s (p :: rest) =
      region isSeparator false n { s with afterBlank := false } rest := by
  cases p with
  | quote => cases hp
  | char c q =>
    have hc : isSeparator c = true := hp
    simp [region, hc, hblank c hc, hs.left, hs.boundaries, hcurrent]

/-- Elsewhere it ends the field, and the blanks after it are passed over. -/
lemma region_cut (hs : s.IsFree)
    (hblank : ∀ c, isSeparator c = true → (isSeparatorBlank c || c == '\x00') = true)
    (hp : separates isSeparator p = true) (hcurrent : s.current ≠ []) :
    region isSeparator false (n + 1) s (p :: rest) =
      region isSeparator false n { s.cut with afterBlank := true }
        (rest.dropWhile (separates isSeparator)) := by
  cases p with
  | quote => cases hp
  | char c q =>
    have hc : isSeparator c = true := hp
    simp [region, hc, hblank c hc, hs.left, hs.boundaries, hcurrent, passOver_eq hblank, cut]

/-- A region that is cut at blanks makes its pieces between blanks into fields, the empty ones left
out.  The first continues the field that is being made. -/
lemma region_fields (hs : s.IsFree)
    (hblank : ∀ c, isSeparator c = true → (isSeparatorBlank c || c == '\x00') = true)
    (ps : List Piece) (hn : ps.length < n) :
    (region isSeparator false n s ps).tail = none ∧
      (region isSeparator false n s ps).fields = s.done.reverse ++
        ((ps.splitOnP (separates isSeparator)).modifyHead (s.current.reverse ++ ·)).filter
          (· ≠ []) := by
  -- On the bound.  After a cut the rest is shorter than what stands after the piece.
  induction n generalizing s ps with
  | zero => exact absurd hn (Nat.not_lt_zero _)
  | succ n ih =>
    cases ps with
    | nil =>
      refine ⟨hs.tail, ?_⟩
      by_cases hcurrent : s.current = []
      · simp [region, fields, hcurrent]
      · simp [region, fields, hcurrent]
    | cons p rest =>
      have hrest : rest.length < n := Nat.lt_of_succ_lt_succ hn
      rw [List.splitOnP_cons_eq_if_modifyHead]
      cases hp : separates isSeparator p with
      | false =>
        obtain ⟨b, hkept⟩ := region_keep n rest hs hp
        have hhead : (s.current.reverse ++ ·) ∘ List.cons p = ((p :: s.current).reverse ++ ·) := by
          funext piece
          simp
        rw [hkept, if_neg (by simp), List.modifyHead_modifyHead, hhead]
        exact ih (s := { s with current := p :: s.current, afterBlank := b })
          ⟨hs.left, hs.tail, hs.boundaries⟩ rest hrest
      | true =>
        rw [if_pos rfl]
        by_cases hcurrent : s.current = []
        · obtain ⟨htail, hfields⟩ := ih (s := { s with afterBlank := false })
            ⟨hs.left, hs.tail, hs.boundaries⟩ rest hrest
          rw [region_skip hs hblank hp hcurrent]
          refine ⟨htail, ?_⟩
          rw [hfields, hcurrent, modifyHead_nothing, modifyHead_nothing,
            List.filter_cons_of_neg (by simp)]
        · have hshorter : (rest.dropWhile (separates isSeparator)).length < n :=
            Nat.lt_of_le_of_lt (List.length_dropWhile_le ..) hrest
          obtain ⟨htail, hfields⟩ := ih (s := { s.cut with afterBlank := true })
            ⟨hs.left, hs.tail, hs.boundaries⟩ _ hshorter
          rw [region_cut hs hblank hp hcurrent]
          refine ⟨htail, ?_⟩
          have hdone : s.cut.done.reverse = s.done.reverse ++ [s.current.reverse] :=
            List.reverse_cons
          have hopen : s.cut.current = [] := rfl
          rw [hfields, hdone, hopen, modifyHead_nothing, filter_splitOnP_dropWhile]
          simp [hcurrent]

end Cutting

/-- Cutting goes along with a change of the characters that keeps what is cut at. -/
lemma splitOnP_map {α β : Type} (f : α → β) (p : β → Bool) (xs : List α) :
    (xs.map f).splitOnP p = (xs.splitOnP (p ∘ f)).map (List.map f) := by
  induction xs with
  | nil => rfl
  | cons x xs ih =>
    rw [List.map_cons, List.splitOnP_cons_eq_if_modifyHead, List.splitOnP_cons_eq_if_modifyHead, ih]
    cases hx : p (f x) with
    | true => simp [hx]
    | false =>
      obtain ⟨ys, yss, h⟩ := List.exists_cons_of_ne_nil (List.splitOnP_ne_nil (p ∘ f) xs)
      simp [hx, h]

/-- What text outside of quotes is cut at. -/
def isCut (separators : Text) (c : Char) : Bool :=
  c == '\x00' || separators.contains c

/-- Text outside of quotes is cut at blanks: its fields are the pieces between them, the empty ones
left out. -/
theorem splitFields_unquoted {separators : Text}
    (hblank : ∀ c ∈ separators, isSeparatorBlank c = true) (t : Text) :
    splitFields separators none [.unquoted t] =
      ((t.splitOnP (isCut separators)).filter (· ≠ [])).map unquotedPieces := by
  have hseparator : ∀ c, isCut separators c = true →
      (isSeparatorBlank c || c == '\x00') = true := by
    intro c hc
    rcases Bool.or_eq_true_iff.mp hc with hc | hc
    · simp [hc]
    · simp [hblank c (List.contains_iff_mem.mp hc)]
  obtain ⟨htail, hfields⟩ := Cutting.region_fields (s := ⟨[], [], none, false, none, false⟩)
    ⟨rfl, rfl, rfl⟩ hseparator (unquotedPieces t) (Nat.lt_succ_self _)
  have hsplit : splitFields separators none [.unquoted t] =
      (Cutting.region (isCut separators) false ((unquotedPieces t).length + 1)
        ⟨[], [], none, false, none, false⟩ (unquotedPieces t)).fields := by
    rw [Cutting.fields]
    generalize hs : Cutting.region (isCut separators) false ((unquotedPieces t).length + 1)
      ⟨[], [], none, false, none, false⟩ (unquotedPieces t) = s at htail
    have hdone : splitFields separators none [.unquoted t] =
        (if !(s.tail.getD s.current).isEmpty then (s.tail.getD s.current).reverse :: s.done
          else s.done).reverse := by
      rw [← hs]
      rfl
    rw [hdone, htail, Option.getD_none]
    by_cases hcurrent : s.current = []
    · simp [hcurrent]
    · simp [hcurrent]
  have hcharacters : Cutting.separates (isCut separators) ∘ (Piece.char · false) =
      isCut separators := rfl
  rw [hsplit, hfields, Cutting.modifyHead_nothing, unquotedPieces, splitOnP_map, hcharacters,
    List.filter_map]
  have hfull : (fun piece => decide (piece ≠ [])) ∘ List.map (Piece.char · false) =
      fun piece : Text => decide (piece ≠ []) := by
    funext piece
    simp
  rw [hfull]
  rfl

/-! ## Quoted patterns -/

/-- The pattern of a quoted text: each character with a backslash before it. -/
lemma pattern_quotedPieces (t : Text) :
    Field.pattern (quotedPieces t) = t.flatMap fun c => ['\\', c] := by
  have hfrom : Field.patternFrom true (quotedPieces t) = t.flatMap fun c => ['\\', c] := by
    induction t with
    | nil => rfl
    | cons c t ih =>
      rw [quotedPieces, List.map_cons, Field.patternFrom, if_pos rfl, List.flatMap_cons]
      exact congrArg (fun rest => '\\' :: c :: rest) ih
  exact hfrom

namespace Glob

/-- Characters with a backslash before them match themselves, if the bound is large enough. -/
lemma matchesWithin_escaped (t u : Text) {n : ℕ} (h : t.length < n) :
    matchesWithin n (t.flatMap fun c => ['\\', c]) u = decide (u = t) := by
  induction t generalizing u n with
  | nil =>
    obtain ⟨n, rfl⟩ := Nat.exists_eq_add_one_of_ne_zero (Nat.ne_of_gt h)
    cases u with
    | nil => rfl
    | cons d u => rfl
  | cons c t ih =>
    obtain ⟨n, rfl⟩ := Nat.exists_eq_add_one_of_ne_zero (Nat.ne_of_gt (Nat.zero_lt_of_lt h))
    have hn : t.length < n := Nat.lt_of_succ_lt_succ h
    cases u with
    | nil => simp [matchesWithin]
    | cons d u =>
      have hstep : matchesWithin (n + 1) ((c :: t).flatMap fun c => ['\\', c]) (d :: u) =
          (d == c && matchesWithin n (t.flatMap fun c => ['\\', c]) u) := by
        simp [matchesWithin]
      rw [hstep, ih u hn, beq_eq_decide]
      simp

/-- A quoted text as a pattern matches itself and nothing else. -/
theorem isMatch_pattern_quoted (t u : Text) :
    isMatch (Field.pattern (quotedPieces t)) u = true ↔ u = t := by
  have hbound : t.length < (t.flatMap fun c => ['\\', c]).length + u.length + 1 := by
    simp
    omega
  rw [isMatch, pattern_quotedPieces, matchesWithin_escaped t u hbound, decide_eq_true_eq]

end Glob

/-! ## Numbers -/

/-- A decimal digit is one among the digits of other notations, and has the same value there. -/
lemma hexValue?_of_isDigit {c : Char} (hc : Text.isDigit c = true) :
    hexValue? c = some (c.toNat - '0'.toNat) := by
  have hrange : '0' ≤ c ∧ c ≤ '9' := by
    simpa [Text.isDigit] using hc
  simp [hexValue?, hrange]

/-- A run of decimal digits has the value that they make. -/
lemma digitsValue_eq {t : Text} (ht : ∀ c ∈ t, Text.isDigit c = true) (n : ℕ) :
    t.foldl (fun n c => 10 * n + (hexValue? c).getD 0) n = Nat.ofDigitChars 10 t n := by
  induction t generalizing n with
  | nil => rfl
  | cons c t ih =>
    obtain ⟨hc, ht⟩ := List.forall_mem_cons.mp ht
    rw [List.foldl_cons, Nat.ofDigitChars_cons, hexValue?_of_isDigit hc, Option.getD_some, ih ht]

/-- It is a digit of the decimal notation. -/
lemma isDigitOf_of_isDigit {c : Char} (hc : Text.isDigit c = true) : isDigitOf 10 c = true := by
  have hrange := Text.isDigit_iff c |>.mp hc
  have hzero : '0'.toNat = 48 := rfl
  simp only [isDigitOf, hexValue?_of_isDigit hc, Option.any_some, decide_eq_true_eq, hzero]
  omega

/-- Digits are read to their end, with a minus sign before them or without. -/
lemma read_digits {t : Text} (ht : ∀ c ∈ t, Text.isDigit c = true) (hne : t ≠ []) :
    Numeral.read false t = ⟨false, Nat.ofDigitChars 10 t 0, [], true⟩ ∧
      Numeral.read false ('-' :: t) = ⟨true, Nat.ofDigitChars 10 t 0, [], true⟩ := by
  have htake : t.takeWhile (isDigitOf 10) = t :=
    List.takeWhile_eq_self_iff.mpr fun c hc => isDigitOf_of_isDigit (ht c hc)
  have hvalue : digitsValue 10 t = Nat.ofDigitChars 10 t 0 := digitsValue_eq ht 0
  obtain ⟨c, rest, rfl⟩ := List.exists_cons_of_ne_nil hne
  have hc := Text.isDigit_iff c |>.mp (ht c (List.mem_cons_self ..))
  have hspace : isSpace c = false := by
    have hblank : c ≠ ' ' := by
      rintro rfl
      exact absurd hc.1 (by decide)
    have hreturn : ¬ c ≤ '\r' := fun h => by
      have hle : c.toNat ≤ 13 := h
      omega
    simp [isSpace, hblank, hreturn]
  have hminus : c ≠ '-' := by
    rintro rfl
    exact absurd hc.1 (by decide)
  have hplus : c ≠ '+' := by
    rintro rfl
    exact absurd hc.1 (by decide)
  have hdrop : (c :: rest).dropWhile isSpace = c :: rest :=
    List.dropWhile_cons_of_neg (by simp [hspace])
  constructor
  · simp [Numeral.read, hdrop, htake, hvalue, hminus, hplus]
  · simp [Numeral.read, htake, hvalue, isSpace]

/-- Every signed word is read back from its digits. -/
theorem integer?_ofInt {n : ℤ} (hlow : -signedLimit ≤ n) (hhigh : n < signedLimit) :
    integer? (Text.ofInt n) = some n := by
  have hdigits (k : ℕ) := read_digits (fun c => Text.isDigit_of_mem_ofNat (n := k) (c := c))
    Nat.toDigits_ne_nil
  have hvalue (k : ℕ) : Nat.ofDigitChars 10 (Text.ofNat k) 0 = k := Nat.ofDigitChars_ten_toDigits
  cases n with
  | ofNat k =>
    have hk : ¬ signedLimit ≤ k := by
      simp only [Int.ofNat_eq_natCast] at hhigh
      omega
    simp [integer?, Text.ofInt, (hdigits k).1, hvalue, Numeral.overflowsSigned, Numeral.signed, hk]
  | negSucc k =>
    have hk : ¬ signedLimit < k + 1 := by omega
    simp [integer?, Text.ofInt, (hdigits (k + 1)).2, hvalue, Numeral.overflowsSigned,
      Numeral.signed, hk, Int.negSucc_eq]

/-- A sum, a difference or a product that is no signed word is the one that differs from it by
a multiple of the number of words. -/
theorem wrap_eq_iff (n m : ℤ) :
    wrap n = m ↔ (-signedLimit ≤ m ∧ m < signedLimit) ∧ ∃ k, n = m + Text.wordLimit * k := by
  simp only [wrap, signedLimit, Text.wordLimit]
  constructor
  · rintro rfl
    exact ⟨by omega, (n + 9223372036854775808) / 18446744073709551616, by omega⟩
  · rintro ⟨hm, k, rfl⟩
    omega

end CommandShell.Script
