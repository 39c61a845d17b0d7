import CommandShell.Proofs.Faults

/-!
# Viable texts

A text is viable when some line begins with it.  Since the readers follow the automaton, the lines
are the texts that end in an accepting state, and the viable texts are those that do not end in
`dead`.  Hence the fault of a text that is no line stands one past its longest viable prefix, or at
the end of a text that is viable and only unfinished.
-/

namespace CommandShell.Line

open Text LineState

variable {line : Text}

/-- The text is a line. -/
def Accepted (line : Text) : Prop :=
  ∃ l, parse line = .ok l

/-- Some line begins with the text. -/
def Viable (t : Text) : Prop :=
  ∃ u, Accepted (t ++ u)

/-- A line that only lacks its end is neither finished nor beyond hope. -/
lemma Unfinished.after_line {e : ParseError} (h : Unfinished line e) :
    ¬ (start.after line).IsAccepting ∧ start.after line ≠ .dead := by
  cases h with
  | quote _ _ hend =>
    rw [hend]
    exact ⟨id, nofun⟩
  | command hend =>
    rcases hend with hend | hend
    · rw [hend]
      exact ⟨id, nofun⟩
    · rw [hend]
      exact ⟨id, nofun⟩
  | value hb hname hline =>
    rw [hline, after_start_assignment hb hname]
    exact ⟨id, nofun⟩

/-- The lines are the texts that end in an accepting state. -/
lemma accepted_iff : Accepted line ↔ (start.after line).IsAccepting := by
  have hparse := parse_explained line
  constructor
  · rintro ⟨l, hl⟩
    rwa [hl] at hparse
  · intro haccept
    cases hl : parse line with
    | ok l => exact ⟨l, hl⟩
    | error e =>
      rw [hl] at hparse
      cases hparse with
      | unfinished h => exact absurd haccept h.after_line.1
      | refused hline _ hd =>
        rw [hline, after_eq_dead hd] at haccept
        exact haccept.elim

/-- The texts that some line begins with are those that do not end in `dead`. -/
lemma viable_iff {t : Text} : Viable t ↔ start.after t ≠ .dead := by
  constructor
  · rintro ⟨u, hu⟩ hdead
    rw [accepted_iff, after_append, hdead, after_dead] at hu
    exact hu
  · intro hne
    refine ⟨(start.after t).completion, accepted_iff.mpr ?_⟩
    rw [after_append]
    exact isAccepting_completion hne

/-- Up to a character that is refused, all prefixes are viable, and after it none is. -/
lemma viable_take_iff {p rest : Text} {d : Char} (hp : start.after p ≠ .dead)
    (hd : (start.after p).next d = .dead) (j : ℕ) :
    Viable ((p ++ d :: rest).take j) ↔ j ≤ p.length := by
  rw [viable_iff]
  constructor
  · intro hviable
    by_contra hlt
    obtain ⟨i, rfl⟩ : ∃ i, j = p.length + (i + 1) := ⟨j - p.length - 1, by omega⟩
    rw [List.take_length_add_append, List.take_succ_cons] at hviable
    exact hviable (after_eq_dead hd _)
  · intro hle hdead
    refine hp ?_
    rw [List.take_append_of_le_length hle] at hdead
    rw [← List.take_append_drop j p, after_append, hdead, after_dead]

/-- The fault of a text that is no line stands one past its longest prefix that some line begins
with.  If the text is viable, it ends inside of quotes that the next quote would close, or where a
command or a value has to begin.  Otherwise the first `k` characters are the longest viable prefix,
and either they are a line themselves and the next character is not expected, or a command or a
value had to begin with it. -/
theorem parse_error_at_longest_viable {s : Text} {e : ParseError} (h : parse s = .error e) :
    (Viable s →
      (∃ quote k, e = .unfinishedQuote quote (k + 1) ∧ s[k]? = some quote ∧
        quote ∉ s.drop (k + 1) ∧ Accepted (s ++ [quote])) ∨
      (e = .missingCommandName (s.length + 1) ∧ Accepted (s ++ ['a'])) ∨
      ∃ b name : Text, b.isBlankText = true ∧ name.IsIdentifier ∧ e = .missingValue name ∧
        s = b ++ (name ++ ['='])) ∧
    (¬ Viable s →
      ∃ k < s.length, (∀ j ≤ s.length, Viable (s.take j) ↔ j ≤ k) ∧
        ((∃ found, e = .unexpectedCharacter found (k + 1) ∧ s[k]? = some found ∧
            Accepted (s.take k)) ∨
          e = .missingCommandName (k + 1) ∨
          ∃ b name : Text, b.isBlankText = true ∧ name.IsIdentifier ∧ e = .missingValue name ∧
            s.take k = b ++ (name ++ ['=']))) := by
  have hbreaks : Breaks s e := by
    have hparse := parse_explained s
    rwa [h] at hparse
  cases hbreaks with
  | unfinished hend =>
    refine ⟨fun _ => ?_, fun hviable => absurd (viable_iff.mpr hend.after_line.2) hviable⟩
    cases hend with
    | @quote p t role quote hline hquote hend =>
      refine .inl ⟨quote, p.length, rfl, ?_, ?_, accepted_iff.mpr ?_⟩
      · simp [hline]
      · simpa [hline] using hquote
      · rw [after_append, hend, after_cons, next, if_pos rfl]
        trivial
    | command hend =>
      refine .inr (.inl ⟨rfl, accepted_iff.mpr ?_⟩)
      rw [after_append]
      rcases hend with hend | hend
      · rw [hend]
        trivial
      · rw [hend]
        trivial
    | value hb hname hline => exact .inr (.inr ⟨_, _, hb, hname, rfl, hline⟩)
  | @refused p rest d hline hp hd hfault =>
    have htake : s.take p.length = p := by simp [hline]
    refine ⟨fun hviable => ?_, fun _ => ⟨p.length, by simp [hline], ?_, ?_⟩⟩
    · rw [viable_iff, hline] at hviable
      exact absurd (after_eq_dead hd rest) hviable
    · intro j _
      rw [hline]
      exact viable_take_iff hp hd j
    · cases hfault with
      | character haccept =>
        refine .inl ⟨d, rfl, by simp [hline], ?_⟩
        rw [htake]
        exact accepted_iff.mpr haccept
      | command => exact .inr (.inl rfl)
      | value hb hname hvalue => exact .inr (.inr ⟨_, _, hb, hname, rfl, htake.trans hvalue⟩)

/-- No line begins with `ls | |`, while any command may follow `ls | `; and inside of single quotes
a double quote opens none. -/
theorem parse_error_at_longest_viable_bars :
    parse "ls | | wc".toList = .error (.missingCommandName 6) ∧
      (∀ j ≤ 9, Viable ("ls | | wc".toList.take j) ↔ j ≤ 5) ∧
      parse "echo 'a \"b".toList = .error (.unfinishedQuote '\'' 6) ∧
      Accepted ("echo 'a \"b".toList ++ ['\'']) := by
  have hbars : parse "ls | | wc".toList = .error (.missingCommandName 6) := by decide +kernel
  have hquote : parse "echo 'a \"b".toList = .error (.unfinishedQuote '\'' 6) := by decide +kernel
  have hdead : ¬ Viable "ls | | wc".toList := by
    rw [viable_iff]
    decide +kernel
  have hopen : Viable "echo 'a \"b".toList := by
    rw [viable_iff]
    decide +kernel
  obtain ⟨k, -, hprefix, hfault⟩ := (parse_error_at_longest_viable hbars).2 hdead
  obtain rfl : k = 5 := by simpa using hfault
  refine ⟨hbars, hprefix, hquote, ?_⟩
  simpa using (parse_error_at_longest_viable hquote).1 hopen

end CommandShell.Line
