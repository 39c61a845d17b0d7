import CommandShell.Proofs.Runs
import CommandShell.Text.Number

/-!
# Numbers as they are written

A number is written as its decimal digits and read back from them: as a machine word, which has to
lie below the limit at every digit (`Text.readWord_ofNat`), or without a limit
(`Text.decimal?_ofNat`).  A reader goes on from the value that it has read so far, and no digit
makes that value smaller, so a number that fits at its last digit fits at all of them.
-/

namespace CommandShell.Text

/-- The digits of a number are digits. -/
lemma isDigit_of_mem_ofNat {n : ℕ} {c : Char} (hc : c ∈ ofNat n) : isDigit c = true := by
  have h : c.isDigit = true := Nat.isDigit_of_mem_toDigits (by decide) (by decide) hc
  rw [isDigit_iff]
  simpa [Char.isDigit, UInt32.le_iff_toNat_le] using h

/-- More digits do not make a number smaller. -/
lemma le_ofDigitChars (t : Text) (value : ℕ) : value ≤ Nat.ofDigitChars 10 t value := by
  induction t generalizing value with
  | nil => exact Nat.le_refl value
  | cons c t ih =>
    have hstep := ih (10 * value + (c.toNat - '0'.toNat))
    rw [Nat.ofDigitChars_cons]
    omega

/-- Digits are read as long as the number that they make is a machine word. -/
lemma readDigits_of_lt {t : Text} (ht : ∀ c ∈ t, isDigit c = true) {value : ℕ}
    (hlt : Nat.ofDigitChars 10 t value < wordLimit) :
    readDigits value t = .ok (Nat.ofDigitChars 10 t value) := by
  induction t generalizing value with
  | nil => rfl
  | cons c t ih =>
    obtain ⟨hc, ht⟩ := List.forall_mem_cons.mp ht
    rw [Nat.ofDigitChars_cons] at hlt ⊢
    have hle := le_ofDigitChars t (10 * value + (c.toNat - '0'.toNat))
    have hsmall : ¬ wordLimit ≤ 10 * value + digitValue c := by
      rw [digitValue]
      omega
    rw [readDigits, hc, if_neg (by decide), if_neg hsmall]
    exact ih ht hlt

/-- A number that is a machine word is read back from its digits. -/
lemma readWord_ofNat {n : ℕ} (hn : n < wordLimit) : readWord (ofNat n) = .ok n := by
  have hdigits : ∀ c ∈ ofNat n, isDigit c = true := fun c => isDigit_of_mem_ofNat
  have hvalue : Nat.ofDigitChars 10 (ofNat n) 0 = n := Nat.ofDigitChars_ten_toDigits
  have hread : readDigits 0 (ofNat n) = .ok n := by
    rw [readDigits_of_lt hdigits (by rwa [hvalue]), hvalue]
  obtain ⟨c, t, ht⟩ := List.exists_cons_of_ne_nil (l := ofNat n) Nat.toDigits_ne_nil
  have hplus : c ≠ '+' := by
    rintro rfl
    exact absurd (hdigits '+' (by simp [ht])) (by decide)
  have hstart : readWord (c :: t) = readDigits 0 (c :: t) := by
    rw [readWord]
    · simp
    · simp [hplus]
    · simp [hplus]
  rw [ht] at hread ⊢
  rw [hstart, hread]

/-- The number that a text of digits stands for. -/
def decimal? (t : Text) : Option ℕ :=
  if t ≠ [] ∧ ∀ c ∈ t, isDigit c = true then some (Nat.ofDigitChars 10 t 0) else none

/-- Every number is read back from its digits. -/
lemma decimal?_ofNat (n : ℕ) : decimal? (ofNat n) = some n := by
  have hdigits : ofNat n ≠ [] ∧ ∀ c ∈ ofNat n, isDigit c = true :=
    ⟨Nat.toDigits_ne_nil, fun c => isDigit_of_mem_ofNat⟩
  rw [decimal?, if_pos hdigits]
  exact congrArg some Nat.ofDigitChars_ten_toDigits

end CommandShell.Text
