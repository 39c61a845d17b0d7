import CommandShell.Proofs.Encoding
import Mathlib.Data.List.Basic

/-!
# Reading bytes line by line

A source is read in two ways: as a whole, or cut after each line end and then line by line.  Both
come to the same (`Grep.readLines_eq`): they refuse the same bytes, and what the second reads are
the lines of what the first reads.

The byte of a line end is out of the bounds of every byte that continues a character.  So a
character that is broken off by a line end is refused in the same way as one that is broken off by
the end of the source, and what comes after the line end is read as if nothing stood before it
(`Utf8.steps_append_lineEnd`).  No other bytes are read as a line end either
(`Utf8.lineEnd_not_mem_of_decode?`), so the lines of bytes and the lines of characters end in the
same places.
-/

namespace CommandShell

namespace Utf8

/-! ## Reading up to a line end -/

/-- All that a first byte can ask for.  The bytes that follow it continue a character; and with the
second of them the value is sixteen at least, which is above that of a line end. -/
lemma exists_of_bounds? {b : UInt8} {bs : List (UInt8 × UInt8)} (hb : bounds? b = some bs) :
    bs = [] ∨ ∃ low high n, bs = (low, high) :: List.replicate n continuation ∧
      128 ≤ low.toNat ∧ high.toNat ≤ 191 ∧ 16 ≤ 64 * firstBits b (n + 1) + low.toNat % 64 := by
  rw [bounds?_eq] at hb
  by_cases hone : b.toNat < 0x80
  · rw [if_pos hone] at hb
    exact .inl (Option.some.inj hb).symm
  by_cases hlow : b.toNat < 0xC2
  · rw [if_neg hone, if_pos hlow] at hb
    cases hb
  by_cases htwo : b.toNat < 0xE0
  · rw [if_neg hone, if_neg hlow, if_pos htwo] at hb
    cases hb
    refine .inr ⟨_, _, 0, rfl, by decide, by decide, ?_⟩
    change 16 ≤ 64 * (b.toNat % 32) + 0
    omega
  rw [if_neg hone, if_neg hlow, if_neg htwo] at hb
  by_cases hfirst : b.toNat = 0xE0
  · rw [if_pos hfirst] at hb
    cases hb
    exact .inr ⟨_, _, 1, rfl, by decide, by decide, Nat.le_add_left_of_le (by decide)⟩
  by_cases hsurrogate : b.toNat = 0xED
  · rw [if_neg hfirst, if_pos hsurrogate] at hb
    cases hb
    refine .inr ⟨_, _, 1, rfl, by decide, by decide, ?_⟩
    change 16 ≤ 64 * (b.toNat % 16) + 0
    omega
  by_cases hthree : b.toNat < 0xF0
  · rw [if_neg hfirst, if_neg hsurrogate, if_pos hthree] at hb
    cases hb
    refine .inr ⟨_, _, 1, rfl, by decide, by decide, ?_⟩
    change 16 ≤ 64 * (b.toNat % 16) + 0
    omega
  rw [if_neg hfirst, if_neg hsurrogate, if_neg hthree] at hb
  by_cases hfour : b.toNat = 0xF0
  · rw [if_pos hfour] at hb
    cases hb
    exact .inr ⟨_, _, 2, rfl, by decide, by decide, Nat.le_add_left_of_le (by decide)⟩
  by_cases hbetween : b.toNat < 0xF4
  · rw [if_neg hfour, if_pos hbetween] at hb
    cases hb
    refine .inr ⟨_, _, 2, rfl, by decide, by decide, ?_⟩
    change 16 ≤ 64 * (b.toNat % 8) + 0
    omega
  by_cases hlast : b.toNat = 0xF4
  · rw [if_neg hfour, if_neg hbetween, if_pos hlast] at hb
    cases hb
    refine .inr ⟨_, _, 2, rfl, by decide, by decide, ?_⟩
    change 16 ≤ 64 * (b.toNat % 8) + 0
    omega
  · rw [if_neg hfour, if_neg hbetween, if_neg hlast] at hb
    cases hb

/-- The bounds of bytes that continue a character lie above the byte of a line end. -/
lemma lineEnd_lt_of_bounds? {b : UInt8} {bs : List (UInt8 × UInt8)} (hb : bounds? b = some bs) :
    ∀ p ∈ bs, (10 : UInt8) < p.1 := by
  rcases exists_of_bounds? hb with rfl | ⟨low, high, n, rfl, hlow, -, -⟩
  · simp
  · refine List.forall_mem_cons.mpr ⟨?_, fun p hp => ?_⟩
    · rw [UInt8.lt_iff_toNat_lt]
      exact Nat.lt_of_lt_of_le (by decide) hlow
    · rw [List.eq_of_mem_replicate hp]
      decide

/-- Following bounds stops at a line end as it stops at the end of the source. -/
lemma follow_append_lineEnd {bs : List (UInt8 × UInt8)} (hbs : ∀ p ∈ bs, (10 : UInt8) < p.1)
    (value : ℕ) (bytes rest : List UInt8) :
    follow bs value (bytes ++ 10 :: rest) =
      ((follow bs value bytes).1, (follow bs value bytes).2 ++ 10 :: rest) := by
  induction bytes generalizing bs value with
  | nil =>
    cases bs with
    | nil => rfl
    | cons p bs =>
      have hp : ¬ (p.1 ≤ (10 : UInt8) ∧ (10 : UInt8) ≤ p.2) := fun h =>
        UInt8.not_le.mpr (hbs p (List.mem_cons_self ..)) h.1
      have hfollow : follow (p :: bs) value (10 :: rest) = (none, 10 :: rest) := if_neg hp
      exact hfollow
  | cons b bytes ih =>
    cases bs with
    | nil => rfl
    | cons p bs =>
      rw [List.cons_append, follow, follow]
      split
      · exact ih (fun q hq => hbs q (List.mem_cons_of_mem p hq)) _
      · rfl

/-- A character is read up to a line end as it is read up to the end of the source. -/
lemma step_append_lineEnd (b : UInt8) (bytes rest : List UInt8) :
    step b (bytes ++ 10 :: rest) = ((step b bytes).1, (step b bytes).2 ++ 10 :: rest) := by
  unfold step
  split
  · rfl
  · next bs hb => rw [follow_append_lineEnd (lineEnd_lt_of_bounds? hb)]

/-- What stands before a line end and what stands after it are read by themselves. -/
lemma steps_append_lineEnd (bytes rest : List UInt8) :
    steps (bytes ++ 10 :: rest) = steps bytes ++ some '\n' :: steps rest := by
  fun_induction steps bytes with
  | case1 =>
    have hend : step 10 rest = (some '\n', rest) := step_one (by decide) rest
    rw [List.nil_append, List.nil_append, steps, hend]
  | case2 b bytes ih => rw [List.cons_append, steps, step_append_lineEnd, ih, List.cons_append]

/-- Bytes are a text when all that is read of them are characters. -/
lemma steps_of_decode? {bytes : List UInt8} {t : Text} (h : decode? bytes = some t) :
    steps bytes = t.map some := by
  rw [decode?] at h
  generalize steps bytes = cs at h
  induction cs generalizing t with
  | nil =>
    cases h
    rfl
  | cons c cs ih =>
    rw [List.mapM_cons] at h
    cases c with
    | none => cases h
    | some c =>
      cases hcs : cs.mapM id with
      | none =>
        rw [hcs] at h
        cases h
      | some u =>
        rw [hcs] at h
        cases h
        rw [ih hcs, List.map_cons]

/-- No bytes are the empty text. -/
lemma decode?_nil : decode? [] = some [] := by
  rw [decode?, steps]
  rfl

/-- Other bytes are not. -/
lemma decode?_ne_some_nil {bytes : List UInt8} (h : bytes ≠ []) : decode? bytes ≠ some [] := by
  obtain ⟨b, bytes, rfl⟩ := List.exists_cons_of_ne_nil h
  intro hnil
  have hsteps := steps_of_decode? hnil
  rw [steps] at hsteps
  cases hsteps

/-- The text of bytes with a line end among them. -/
lemma decode?_append_lineEnd (bytes rest : List UInt8) :
    decode? (bytes ++ 10 :: rest) =
      (decode? bytes).bind fun t => (decode? rest).map fun u => t ++ '\n' :: u := by
  have htail : (some '\n' :: steps rest).mapM id = (decode? rest).map ('\n' :: ·) := by
    rw [List.mapM_cons, decode?]
    cases (steps rest).mapM id <;> rfl
  have happend : decode? (bytes ++ 10 :: rest) =
      (decode? bytes >>= fun t => (decode? rest).map ('\n' :: ·) >>= fun u => pure (t ++ u)) := by
    rw [decode?, steps_append_lineEnd, List.mapM_append, htail]
    rfl
  rw [happend]
  cases decode? bytes with
  | none => rfl
  | some t => cases decode? rest <;> rfl

/-! ## What is read as a line end -/

/-- Only ten is the value of a line end. -/
lemma eq_ten_of_ofNat_eq {v : ℕ} (h : Char.ofNat v = '\n') : v = 10 := by
  by_cases hv : v.isValidChar
  · have hvalue : (Char.ofNat v).toNat = v := by
      rw [Char.ofNat, dif_pos hv]
      rfl
    rw [← hvalue, h]
    rfl
  · rw [Char.ofNat, dif_neg hv] at h
    exact absurd h (by decide)

/-- Bytes that follow only add to the value. -/
lemma le_of_follow {bs : List (UInt8 × UInt8)} {value v : ℕ} {bytes : List UInt8}
    (h : (follow bs value bytes).1 = some v) : value ≤ v := by
  induction bytes generalizing bs value with
  | nil =>
    cases bs with
    | nil => exact Nat.le_of_eq (Option.some.inj h)
    | cons p bs => cases h
  | cons b bytes ih =>
    cases bs with
    | nil => exact Nat.le_of_eq (Option.some.inj h)
    | cons p bs =>
      rw [follow] at h
      split at h
      · have hle := ih h
        omega
      · cases h

/-- The bytes that are left are at the end of the source. -/
lemma follow_suffix (bs : List (UInt8 × UInt8)) (value : ℕ) (bytes : List UInt8) :
    (follow bs value bytes).2 <:+ bytes := by
  induction bytes generalizing bs value with
  | nil => cases bs <;> exact List.suffix_rfl
  | cons b bytes ih =>
    cases bs with
    | nil => exact List.suffix_rfl
    | cons p bs =>
      rw [follow]
      split
      · exact (ih bs _).trans (List.suffix_cons b bytes)
      · exact List.suffix_rfl

lemma step_suffix (b : UInt8) (bytes : List UInt8) : (step b bytes).2 <:+ bytes := by
  unfold step
  split
  · exact List.suffix_rfl
  · exact follow_suffix _ _ _

/-- The first two of several bytes have a value of sixteen at least. -/
lemma sixteen_le_of_bounds? {b b' low high : UInt8} {bs : List (UInt8 × UInt8)}
    (hb : bounds? b = some ((low, high) :: bs)) (hb' : low ≤ b' ∧ b' ≤ high) :
    16 ≤ 64 * firstBits b (bs.length + 1) + b'.toNat % 64 := by
  rcases exists_of_bounds? hb with h | ⟨low, high, n, h, hlow, hhigh, hvalue⟩
  · cases h
  · cases h
    rw [UInt8.le_iff_toNat_le, UInt8.le_iff_toNat_le] at hb'
    rw [List.length_replicate]
    omega

/-- Only the byte of a line end begins one. -/
lemma eq_lineEnd_of_step {b : UInt8} {bytes : List UInt8} (h : (step b bytes).1 = some '\n') :
    b = 10 := by
  unfold step at h
  split at h
  · cases h
  · next bs hb =>
    obtain ⟨v, hv, hchar⟩ := Option.map_eq_some_iff.mp h
    obtain rfl : v = 10 := eq_ten_of_ofNat_eq hchar
    cases bs with
    | nil => exact UInt8.toNat_inj.mp (Option.some.inj hv)
    | cons p bs =>
      -- With the second byte the value is above that of a line end already.
      cases bytes with
      | nil => cases hv
      | cons b' bytes =>
        rw [follow] at hv
        split at hv
        · next hbounds =>
          have hvalue := sixteen_le_of_bounds? hb hbounds
          have hle := le_of_follow hv
          rw [List.length_cons] at hle
          omega
        · cases hv

/-- Where a line end is read, its byte stands. -/
lemma lineEnd_mem_of_mem_steps {bytes : List UInt8} (h : some '\n' ∈ steps bytes) : 10 ∈ bytes := by
  fun_induction steps bytes with
  | case1 => cases h
  | case2 b bytes ih =>
    rcases List.mem_cons.mp h with h | h
    · rw [eq_lineEnd_of_step h.symm]
      exact List.mem_cons_self ..
    · exact List.mem_cons_of_mem b ((step_suffix b bytes).mem (ih h))

/-- Bytes without that of a line end are a text without line ends. -/
lemma lineEnd_not_mem_of_decode? {bytes : List UInt8} {t : Text} (ht : decode? bytes = some t)
    (hbytes : 10 ∉ bytes) : '\n' ∉ t := by
  intro hmem
  apply hbytes
  apply lineEnd_mem_of_mem_steps
  rw [steps_of_decode? ht]
  exact List.mem_map_of_mem hmem

end Utf8

/-! ## Lines -/

/-- What holds of a list without line ends, and of a list with a first line when it holds of what
comes after that line, holds of every list. -/
@[elab_as_elim]
lemma induction_on_lines {α : Type} [DecidableEq α] {e : α} {P : List α → Prop}
    (last : ∀ l, e ∉ l → P l) (line : ∀ l rest, e ∉ l → P rest → P (l ++ e :: rest))
    (l : List α) : P l := by
  induction hn : l.length using Nat.strongRecOn generalizing l with
  | ind n ih =>
    by_cases hmem : e ∈ l
    · obtain ⟨before, rest, rfl, hbefore⟩ := List.eq_append_cons_of_mem hmem
      have hlength : rest.length < n := by
        rw [List.length_append, List.length_cons] at hn
        omega
      exact line before rest hbefore (ih rest.length hlength rest rfl)
    · exact last l hmem

namespace Text

/-- A text up to a line end is a line. -/
lemma linesWithEnds_append {t : Text} (ht : '\n' ∉ t) (rest : Text) :
    linesWithEnds (t ++ '\n' :: rest) = (t ++ ['\n']) :: linesWithEnds rest := by
  induction t with
  | nil => rw [List.nil_append, linesWithEnds, if_pos rfl, List.nil_append]
  | cons c t ih =>
    rw [List.mem_cons, not_or] at ht
    rw [List.cons_append, linesWithEnds, if_neg (Ne.symm ht.1), ih ht.2, List.cons_append]

/-- A text without a line end is a line, unless it is empty. -/
lemma linesWithEnds_of_not_mem {t : Text} (ht : '\n' ∉ t) (hne : t ≠ []) :
    linesWithEnds t = [t] := by
  induction t with
  | nil => exact absurd rfl hne
  | cons c t ih =>
    rw [List.mem_cons, not_or] at ht
    rw [linesWithEnds, if_neg (Ne.symm ht.1)]
    cases t with
    | nil => rfl
    | cons d t => rw [ih ht.2 (List.cons_ne_nil _ _)]

end Text

namespace Grep

open Utf8

/-- Reading a source line by line, the first line is read and then the others. -/
lemma readLines_append {bytes : List UInt8} (h : 10 ∉ bytes) (rest : List UInt8) :
    readLines (bytes ++ 10 :: rest) =
      (decode? bytes).bind fun t => (readLines rest).map ((t ++ ['\n']) :: ·) := by
  have hline : decode? (bytes ++ [10]) = (decode? bytes).map (· ++ ['\n']) := by
    rw [decode?_append_lineEnd, decode?_nil]
    cases decode? bytes <;> rfl
  rw [readLines, byteLines_append h, List.mapM_cons, hline]
  cases decode? bytes with
  | none => rfl
  | some t =>
    rw [readLines]
    cases (byteLines rest).mapM decode? <;> rfl

/-- A source without line ends is read as one line, unless it is empty. -/
lemma readLines_of_not_mem {bytes : List UInt8} (h : 10 ∉ bytes) :
    readLines bytes = (decode? bytes).map Text.linesWithEnds := by
  by_cases hnil : bytes = []
  · rw [hnil, decode?_nil]
    rfl
  · rw [readLines, byteLines_of_not_mem h hnil, List.mapM_cons, List.mapM_nil]
    cases ht : decode? bytes with
    | none => rfl
    | some t =>
      have hne : t ≠ [] := by
        rintro rfl
        exact decode?_ne_some_nil hnil ht
      rw [Option.map_some, Text.linesWithEnds_of_not_mem (lineEnd_not_mem_of_decode? ht h) hne]
      rfl

/-- Reading a source line by line gives the lines of its text, and fails exactly when the source
is no text. -/
lemma readLines_eq (bytes : List UInt8) :
    readLines bytes = (decode? bytes).map Text.linesWithEnds := by
  induction bytes using induction_on_lines (e := (10 : UInt8)) with
  | last bytes h => exact readLines_of_not_mem h
  | line bytes rest h ih =>
    rw [readLines_append h, ih, decode?_append_lineEnd]
    cases hline : decode? bytes with
    | none => rfl
    | some t =>
      have ht := lineEnd_not_mem_of_decode? hline h
      cases decode? rest with
      | none => rfl
      | some u => exact congrArg some (Text.linesWithEnds_append ht u).symm

-- A line end in the middle of a character breaks it off in both readings.
example : readLines [0xC3, 10, 0xA9] = none ∧ decode? [0xC3, 10, 0xA9] = none := by
  decide +kernel

end Grep

end CommandShell
