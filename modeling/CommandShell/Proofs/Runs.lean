import CommandShell.Text.Cursor
import Mathlib.Data.List.Chain
import Mathlib.Data.List.TakeWhile

/-!
# Runs of characters

Every reader of a line moves by longest runs: it takes the characters of a class up to the
first one outside of it.  A run is therefore read back exactly when what follows it does not
begin with a character of the class.  `Text.Stops` names this side condition, and
`Cursor.run_append` and `Cursor.skipWhile_append` are the two halves of "read back".

The first section relates the classes of characters to each other.  All that the readers need
is that names lie among the characters of a word, and that blanks do not.

A line falls into parts in a row, fragments of a word or regions of a raw line, and a longest
run must not have been cut in two.  `Linked` says that each part is fit by itself and may stand
before the next one.
-/

namespace CommandShell

namespace Text

/-! ## The classes of characters -/

/-- Letters, by their scalar values. -/
lemma isLetter_iff (c : Char) :
    isLetter c = true ↔ (97 ≤ c.toNat ∧ c.toNat ≤ 122) ∨ (65 ≤ c.toNat ∧ c.toNat ≤ 90) := by
  simp only [isLetter, Bool.or_eq_true, Bool.and_eq_true, decide_eq_true_eq]
  rfl

/-- Digits, by their scalar values. -/
lemma isDigit_iff (c : Char) : isDigit c = true ↔ 48 ≤ c.toNat ∧ c.toNat ≤ 57 := by
  simp only [isDigit, Bool.and_eq_true, decide_eq_true_eq]
  rfl

/-- A character that may continue a variable name may stand in a command name. -/
lemma isCommandChar_of_isNameChar {c : Char} (h : isNameChar c = true) :
    isCommandChar c = true := by
  simp only [isNameChar, isCommandChar, Bool.or_eq_true] at h ⊢
  rcases h with h | h
  · simp [h]
  · simp [h]

/-- The characters of a command name lie between `-` and `z`, away from every blank. -/
lemma toNat_of_isCommandChar {c : Char} (h : isCommandChar c = true) :
    45 ≤ c.toNat ∧ c.toNat ≤ 122 := by
  simp only [isCommandChar, Bool.or_eq_true, isLetter_iff, isDigit_iff, beq_iff_eq] at h
  rcases h with ((((h | h) | rfl) | rfl) | rfl) | rfl
  · omega
  · omega
  all_goals decide

/-- A character of a command name stands for itself in a word. -/
lemma isBare_of_isCommandChar {c : Char} (h : isCommandChar c = true) : isBare c = true := by
  obtain ⟨hlo, hhi⟩ := toNat_of_isCommandChar h
  have hblank : isBlank c = false := by
    simp only [isBlank, Bool.or_eq_false_iff, Bool.and_eq_false_iff, decide_eq_false_iff_not,
      beq_eq_false_iff_ne]
    omega
  have hquote : c ≠ '\'' := by rintro rfl; exact absurd hlo (by decide)
  have hdouble : c ≠ '"' := by rintro rfl; exact absurd hlo (by decide)
  have hbar : c ≠ '|' := by rintro rfl; exact absurd hhi (by decide)
  simp [isBare, hblank, hquote, hdouble, hbar]

/-- A text of blanks, by its characters. -/
lemma isBlankText_iff {t : Text} : t.isBlankText = true ↔ ∀ c ∈ t, isBlank c = true :=
  List.all_eq_true

/-- Whether all characters of a text are of a class is found by going through the text. -/
instance decidableAllOfClass (keep : Char → Bool) (t : Text) :
    Decidable (∀ c ∈ t, keep c = true) :=
  decidable_of_iff (t.all keep = true) List.all_eq_true

/-! ## Names -/

/-- A variable name: a letter or `_`, and then letters, digits and `_`. -/
def IsIdentifier : Text → Prop
  | [] => False
  | c :: rest => isNameStart c = true ∧ ∀ d ∈ rest, isNameChar d = true

instance : DecidablePred IsIdentifier
  | [] => inferInstanceAs (Decidable False)
  | c :: rest =>
    inferInstanceAs (Decidable (isNameStart c = true ∧ ∀ d ∈ rest, isNameChar d = true))

/-- A command name: letters, digits and the characters `_`, `.`, `/` and `-`, at least one. -/
def IsCommandName (t : Text) : Prop :=
  t ≠ [] ∧ ∀ c ∈ t, isCommandChar c = true

instance : DecidablePred IsCommandName := fun t =>
  inferInstanceAs (Decidable (t ≠ [] ∧ ∀ c ∈ t, isCommandChar c = true))

/-- All characters of a variable name may continue one. -/
lemma IsIdentifier.isNameChar {t : Text} (h : t.IsIdentifier) :
    ∀ c ∈ t, isNameChar c = true := by
  cases t with
  | nil => exact h.elim
  | cons c rest => exact List.forall_mem_cons.mpr ⟨isNameChar_of_isNameStart h.1, h.2⟩

/-! ## Where a run stops -/

/-- The text does not begin with a character of the class. -/
def Stops (keep : Char → Bool) (t : Text) : Prop :=
  ∀ c ∈ t.head?, keep c = false

instance (keep : Char → Bool) : DecidablePred (Stops keep)
  | [] => isTrue (by simp [Stops])
  | c :: t => decidable_of_iff (keep c = false) (by simp [Stops])

/-- Every run stops at the end of a line. -/
@[simp] lemma stops_nil (keep : Char → Bool) : Stops keep [] := by
  simp [Stops]

/-- Whether a run stops is seen at the next character. -/
@[simp] lemma stops_cons (keep : Char → Bool) (c : Char) (t : Text) :
    Stops keep (c :: t) ↔ keep c = false := by
  simp [Stops]

/-- Where a run does not stop there is a next character, and it continues the run. -/
lemma exists_cons_of_not_stops {keep : Char → Bool} {t : Text} (h : ¬ Stops keep t) :
    ∃ c rest, t = c :: rest ∧ keep c = true := by
  cases t with
  | nil => exact absurd (stops_nil keep) h
  | cons c rest => exact ⟨c, rest, rfl, by simpa using h⟩

/-- Only the first character of a text decides whether a run stops before it. -/
lemma stops_append {keep : Char → Bool} {t rest : Text} (ht : t ≠ []) :
    Stops keep (t ++ rest) ↔ Stops keep t := by
  obtain ⟨c, t, rfl⟩ := List.exists_cons_of_ne_nil ht
  simp

/-- A run that stops before a text stops before each beginning of it. -/
lemma Stops.of_append {keep : Char → Bool} {t rest : Text} (h : Stops keep (t ++ rest)) :
    Stops keep t := by
  by_cases ht : t = []
  · rw [ht]
    exact stops_nil keep
  · exact (stops_append ht).mp h

/-- A run of a class stops where a run of a wider class does. -/
lemma Stops.of_imp {keep wider : Char → Bool} {t : Text}
    (hk : ∀ c, keep c = true → wider c = true) (h : Stops wider t) : Stops keep t := by
  intro c hc
  rw [Bool.eq_false_iff]
  intro hkeep
  have hwider : wider c = false := h c hc
  simp [hk c hkeep] at hwider

/-- What is left after the longest run does not continue it. -/
lemma stops_dropWhile (keep : Char → Bool) (t : Text) : Stops keep (t.dropWhile keep) := by
  induction t with
  | nil => exact stops_nil keep
  | cons c t ih =>
    by_cases hc : keep c = true
    · rwa [List.dropWhile_cons_of_pos hc]
    · rw [List.dropWhile_cons_of_neg hc, stops_cons]
      exact Bool.eq_false_iff.mpr hc

/-- Where a run stops, the longest run is empty. -/
lemma Stops.takeWhile {keep : Char → Bool} {t : Text} (h : Stops keep t) :
    t.takeWhile keep = [] := by
  cases t with
  | nil => rfl
  | cons c t => exact List.takeWhile_cons_of_neg (by simpa using h)

/-- Where a run stops, nothing is skipped. -/
lemma Stops.dropWhile {keep : Char → Bool} {t : Text} (h : Stops keep t) :
    t.dropWhile keep = t := by
  cases t with
  | nil => rfl
  | cons c t => exact List.dropWhile_cons_of_neg (by simpa using h)

/-- A run before a place where it stops is the longest one. -/
lemma takeWhile_append_of_stops {keep : Char → Bool} {t rest : Text}
    (ht : ∀ c ∈ t, keep c = true) (hr : Stops keep rest) :
    (t ++ rest).takeWhile keep = t := by
  rw [List.takeWhile_append_of_pos ht, hr.takeWhile, List.append_nil]

/-- What is left after a run is what stood there, when the run stops. -/
lemma dropWhile_append_of_stops {keep : Char → Bool} {t rest : Text}
    (ht : ∀ c ∈ t, keep c = true) (hr : Stops keep rest) :
    (t ++ rest).dropWhile keep = rest := by
  rw [List.dropWhile_append_of_pos ht, hr.dropWhile]

/-- A text without the quote consists of characters that a quoted run keeps. -/
lemma ne_of_not_mem {quote : Char} {t : Text} (h : quote ∉ t) :
    ∀ c ∈ t, (c != quote) = true := by
  intro c hc
  rw [bne_iff_ne]
  rintro rfl
  exact h hc

/-- A quoted run that does not reach the end of the line stops at its closing quote. -/
lemma eq_of_dropWhile_ne_quote {quote d : Char} {t rest : Text}
    (h : t.dropWhile (· != quote) = d :: rest) :
    quote ∉ t.takeWhile (· != quote) ∧ t = t.takeWhile (· != quote) ++ quote :: rest := by
  have hstop : Stops (· != quote) (d :: rest) := h ▸ stops_dropWhile (· != quote) t
  obtain rfl : d = quote := by simpa using hstop
  refine ⟨?_, ?_⟩
  · intro hq
    have := List.mem_takeWhile_imp hq
    simp at this
  · rw [← h, List.takeWhile_append_dropWhile]

end Text

namespace Cursor

open Text

/-- The longest run at a place is the run that stands there, when it stops. -/
lemma run_append {keep : Char → Bool} {n : ℕ} {t rest : Text}
    (ht : ∀ c ∈ t, keep c = true) (hr : Stops keep rest) :
    run keep ⟨n, t ++ rest⟩ = t :=
  takeWhile_append_of_stops ht hr

/-- Skipping a run moves the column by its length. -/
lemma skipWhile_append {keep : Char → Bool} {n : ℕ} {t rest : Text}
    (ht : ∀ c ∈ t, keep c = true) (hr : Stops keep rest) :
    skipWhile keep ⟨n, t ++ rest⟩ = ⟨n + t.length, rest⟩ := by
  rw [skipWhile, run_append ht hr]
  simp only [dropWhile_append_of_stops ht hr]

/-- A longest run consists of characters of its class. -/
lemma of_mem_run {keep : Char → Bool} {c : Cursor} {d : Char} (h : d ∈ c.run keep) :
    keep d = true :=
  List.mem_takeWhile_imp h

/-- From a character that may begin a name, the longest run of name characters is a name. -/
lemma isIdentifier_run {c : Cursor} {d : Char} {t : Text} (hc : c.rest = d :: t)
    (hd : isNameStart d = true) : (c.run isNameChar).IsIdentifier := by
  rw [run, hc, List.takeWhile_cons_of_pos (isNameChar_of_isNameStart hd)]
  exact ⟨hd, fun e => List.mem_takeWhile_imp⟩

end Cursor

/-! ## Parts in a row -/

/-- Parts in a row: each is fit by itself, and each may stand before the next. -/
structure Linked {α : Type} (fit : α → Prop) (next : α → α → Prop) (xs : List α) : Prop where
  /-- Each part is fit by itself. -/
  each : ∀ x ∈ xs, fit x
  /-- Each part may stand before the next. -/
  chain : xs.IsChain next

instance {α : Type} (fit : α → Prop) (next : α → α → Prop) [DecidablePred fit]
    [DecidableRel next] : DecidablePred (Linked fit next) := fun xs =>
  decidable_of_iff ((∀ x ∈ xs, fit x) ∧ xs.IsChain next)
    ⟨fun h => ⟨h.1, h.2⟩, fun h => ⟨h.each, h.chain⟩⟩

namespace Linked

variable {α : Type} {fit : α → Prop} {next : α → α → Prop} {x : α} {xs : List α}

lemma nil : Linked fit next [] :=
  ⟨by simp, .nil⟩

/-- A part is put in front when it may stand before the first of the others. -/
lemma cons (hx : fit x) (hxs : Linked fit next xs) (h : ∀ y ∈ xs.head?, next x y) :
    Linked fit next (x :: xs) where
  each := List.forall_mem_cons.mpr ⟨hx, hxs.each⟩
  chain := List.isChain_cons.mpr ⟨h, hxs.chain⟩

/-- What holds of parts in a row holds of the first and of the others. -/
lemma of_cons (h : Linked fit next (x :: xs)) :
    fit x ∧ Linked fit next xs ∧ ∀ y ∈ xs.head?, next x y := by
  obtain ⟨hhead, hchain⟩ := List.isChain_cons.mp h.chain
  obtain ⟨hx, hxs⟩ := List.forall_mem_cons.mp h.each
  exact ⟨hx, ⟨hxs, hchain⟩, hhead⟩

end Linked

end CommandShell
