import CommandShell.Proofs.Alternatives
import CommandShell.Proofs.LineStates

/-!
# The faults of a line

The readers of a line keep no state, but each of them stands at a place whose state is known, and
the column of its cursor counts the characters before that place (`Line.At`).  What a reader does is
followed through the automaton: it goes on from a place with the state that the next reader expects,
and a fault that it reports is one that the automaton sees (`Line.Breaks`), at the same place.
`Line.Explained` says both, and there is one lemma of this form for each reader.  For a whole line
it is `Line.parse_explained`: a text is read when it ends in an accepting state, and its fault is
explained by the automaton when it does not.
-/

namespace CommandShell.Line

open Text LineState

variable {α β : Type} {line : Text} {s : LineState} {role : WordRole} {c : Cursor}

/-! ## Places and faults -/

/-- The characters before a place lead to a state, and the column counts them from one. -/
def At (line : Text) (s : LineState) (c : Cursor) : Prop :=
  ∃ p, line = p ++ c.rest ∧ c.column = p.length + 1 ∧ start.after p = s

lemma at_start (line : Text) : At line .start (.start line) :=
  ⟨[], rfl, rfl, rfl⟩

/-- Going over a text leads to the state after it. -/
lemma At.append {n : ℕ} {t rest : Text} (h : At line s ⟨n, t ++ rest⟩) :
    At line (s.after t) ⟨n + t.length, rest⟩ := by
  obtain ⟨p, hline, hcolumn, rfl⟩ := h
  refine ⟨p ++ t, by simpa using hline, ?_, after_append ..⟩
  simp only at hcolumn ⊢
  rw [hcolumn, List.length_append]
  omega

/-- Going over one character leads to the state after it. -/
lemma At.cons {n : ℕ} {d : Char} {rest : Text} (h : At line s ⟨n, d :: rest⟩) :
    At line (s.next d) ⟨n + 1, rest⟩ :=
  At.append (t := [d]) h

/-- Skipping a run leads to the state after it. -/
lemma At.skipWhile (h : At line s c) (keep : Char → Bool) :
    At line (s.after (c.run keep)) (c.skipWhile keep) := by
  have hrun : At line s ⟨c.column, c.run keep ++ (c.skipWhile keep).rest⟩ := by
    rwa [c.run_append_skipWhile keep]
  exact hrun.append

/-- A bare run leads into a word. -/
lemma At.skipWhile_isBare (h : At line s c) (hs : Begins role s) (hne : c.run isBare ≠ []) :
    At line (word role) (c.skipWhile isBare) := by
  have hrun := h.skipWhile isBare
  rwa [hs.after_bare hne fun _ => Cursor.of_mem_run] at hrun

/-- The faults of a line that only lacks its end. -/
inductive Unfinished (line : Text) : ParseError → Prop
  /-- The line ends inside of quotes, which were opened at this column. -/
  | quote {p t : Text} {role : WordRole} {quote : Char} (hline : line = p ++ quote :: t)
      (hquote : quote ∉ t) (hend : start.after line = .quoted role quote) :
      Unfinished line (.unfinishedQuote quote (p.length + 1))
  /-- The line ends where a command has to begin. -/
  | command (hend : start.after line = .start ∨ start.after line = .bar) :
      Unfinished line (.missingCommandName (line.length + 1))
  /-- The line ends after `name=`. -/
  | value {b name : Text} (hb : b.isBlankText = true) (hname : name.IsIdentifier)
      (hline : line = b ++ (name ++ ['='])) : Unfinished line (.missingValue name)

/-- The faults of a line that goes on after a text with a character that is refused there. -/
inductive Refused (p : Text) (d : Char) : ParseError → Prop
  /-- The line could have ended before the character. -/
  | character (hp : (start.after p).IsAccepting) :
      Refused p d (.unexpectedCharacter d (p.length + 1))
  /-- A command has to begin with the character. -/
  | command : Refused p d (.missingCommandName (p.length + 1))
  /-- A value has to begin with the character. -/
  | value {b name : Text} (hb : b.isBlankText = true) (hname : name.IsIdentifier)
      (hp : p = b ++ (name ++ ['='])) : Refused p d (.missingValue name)

/-- Where and why the automaton finds a fault in a line. -/
inductive Breaks (line : Text) (e : ParseError) : Prop
  | unfinished (h : Unfinished line e)
  /-- Some line begins with the text before the character, and none with both. -/
  | refused {p rest : Text} {d : Char} (hline : line = p ++ d :: rest)
      (hp : start.after p ≠ .dead) (hd : (start.after p).next d = .dead)
      (h : Refused p d e)

/-- A reader has come to a result as expected, or to a fault of the line. -/
def Explained (line : Text) (expected : α → Prop) : Except ParseError α → Prop
  | .ok a => expected a
  | .error e => Breaks line e

lemma Explained.map {expected : α → Prop} {expected' : β → Prop} {r : Except ParseError α}
    (h : Explained line expected r) {f : α → β} (hf : ∀ a, expected a → expected' (f a)) :
    Explained line expected' (r.map f) := by
  cases r with
  | ok a => exact hf a h
  | error e => exact h

/-! ## Words -/

/-- Quotes that are not closed are the fault of a quoted text. -/
lemma readQuoted_of_not_mem {quote : Char} {n : ℕ} {t : Text} (h : quote ∉ t) :
    readQuoted quote ⟨n, quote :: t⟩ = .error (.unfinishedQuote quote n) := by
  have hend : t.dropWhile (· != quote) = [] := List.dropWhile_eq_nil_iff.mpr (ne_of_not_mem h)
  simp [readQuoted, Cursor.skip, Cursor.skipWhile, hend]

/-- A quoted text is read to its closing quote, or it is open to the end of the line. -/
lemma readQuoted_explained {quote : Char} {t : Text} (h : At line s c) (hc : c.rest = quote :: t)
    (hs : s.next quote = quoted role quote) :
    Explained line (fun r => At line (word role) r.2) (readQuoted quote c) := by
  obtain ⟨n, u⟩ := c
  obtain rfl : u = quote :: t := hc
  have hopen : At line (quoted role quote) ⟨n + 1, t⟩ := hs ▸ h.cons
  by_cases hmem : quote ∈ t
  · obtain ⟨text, rest, rfl, htext⟩ := List.eq_append_cons_of_mem hmem
    rw [readQuoted_complete htext]
    have hclose := hopen.append.cons
    rwa [after_quoted htext, next, if_pos rfl] at hclose
  · rw [readQuoted_of_not_mem hmem]
    obtain ⟨p, hline, hcolumn, hp⟩ := h
    obtain rfl : n = p.length + 1 := hcolumn
    have hend : start.after line = quoted role quote := by
      rw [hline, after_append, hp, after_cons, hs, after_quoted hmem]
    exact .unfinished (.quote hline hmem hend)

/-- What the reader of a word gives at a place: nothing where no word begins, and else the
place where the word ends. -/
def WordRead (line : Text) (role : WordRole) (c : Cursor) : List Fragment × Cursor → Prop
  | ([], c') => c' = c ∧ Stops isWordChar c.rest
  | (_ :: _, c') => At line (word role) c' ∧ Stops isWordChar c'.rest

/-- Inside of a word, the place where it ends is reached with or without further fragments. -/
lemma WordRead.at_end {r : List Fragment × Cursor} (h : WordRead line role c r)
    (hc : At line (word role) c) : At line (word role) r.2 ∧ Stops isWordChar r.2.rest := by
  obtain ⟨fs, c'⟩ := r
  cases fs with
  | nil =>
    obtain ⟨rfl, hstop⟩ := h
    exact ⟨hc, hstop⟩
  | cons f fs => exact h

/-- The fragments of a word are read to the end of the word. -/
lemma readFragments_explained (hs : Begins role s) (h : At line s c) :
    Explained line (WordRead line role c) (readFragments c) := by
  fun_induction readFragments c generalizing s with
  | case1 c hc => exact ⟨rfl, by simp [hc]⟩
  | case2 c t e hq hc =>
    have hquoted := readQuoted_explained h hc (hs '\'' (by decide))
    rwa [hq] at hquoted
  | case3 c t text c₁ hq e hr hc ih =>
    have hquoted := readQuoted_explained h hc (hs '\'' (by decide))
    rw [hq] at hquoted
    have hrest := ih (begins_word role) hquoted
    rwa [hr] at hrest
  | case4 c t text c₁ hq fs c₂ hr hc ih =>
    have hquoted := readQuoted_explained h hc (hs '\'' (by decide))
    rw [hq] at hquoted
    have hrest := ih (begins_word role) hquoted
    rw [hr] at hrest
    exact hrest.at_end hquoted
  | case5 c t e hq hc =>
    have hquoted := readQuoted_explained h hc (hs '"' (by decide))
    rwa [hq] at hquoted
  | case6 c t text c₁ hq e hr hc _ ih =>
    have hquoted := readQuoted_explained h hc (hs '"' (by decide))
    rw [hq] at hquoted
    have hrest := ih (begins_word role) hquoted
    rwa [hr] at hrest
  | case7 c t text c₁ hq fs c₂ hr hc _ ih =>
    have hquoted := readQuoted_explained h hc (hs '"' (by decide))
    rw [hq] at hquoted
    have hrest := ih (begins_word role) hquoted
    rw [hr] at hrest
    exact hrest.at_end hquoted
  | case8 c d t hc _ _ hb e hr ih =>
    have hbare := h.skipWhile_isBare hs (Cursor.run_ne_nil hc hb)
    have hrest := ih (begins_word role) hbare
    rwa [hr] at hrest
  | case9 c d t hc _ _ hb fs c₂ hr ih =>
    have hbare := h.skipWhile_isBare hs (Cursor.run_ne_nil hc hb)
    have hrest := ih (begins_word role) hbare
    rw [hr] at hrest
    exact hrest.at_end hbare
  | case10 c d t hc h₁ h₂ hb =>
    refine ⟨rfl, ?_⟩
    rw [hc, stops_cons, Bool.eq_false_iff]
    exact fun hd => hb (isBare_of_isWordChar hd h₁ h₂)

/-! ## Commands -/

/-- After a name or a word of a command, where no character of a word may follow. -/
def WordEnd (line : Text) (c : Cursor) : Prop :=
  ∃ s, At line s c ∧ s.IsCommand ∧ ∀ d ∈ c.rest.head?, isWordChar d = true → s.next d = .dead

/-- After a command, where nothing but a `|` may follow the blanks. -/
def CommandEnd (line : Text) (c : Cursor) : Prop :=
  ∃ s, At line s (c.skipWhile isBlank) ∧ s.IsCommand ∧
    ∀ d ∈ (c.skipWhile isBlank).rest.head?, d ≠ '|' → s.next d = .dead

lemma wordEnd_of_stops (h : At line s c) (hs : s.IsCommand) (hstop : Stops isWordChar c.rest) :
    WordEnd line c :=
  ⟨s, h, hs, fun d hd hword => absurd hword (by simp [hstop d hd])⟩

/-- Blanks lead to the words of the command. -/
lemma WordEnd.at_words (h : WordEnd line c) (hne : c.run isBlank ≠ []) :
    At line (word .argument) (c.skipWhile isBlank) := by
  obtain ⟨s, hc, hs, -⟩ := h
  have hblanks := hc.skipWhile isBlank
  rwa [hs.after_blanks hne fun _ => Cursor.of_mem_run] at hblanks

/-- A command ends after a word when the blanks that follow are not followed by another word. -/
lemma WordEnd.commandEnd (h : WordEnd line c)
    (hstop : c.run isBlank ≠ [] → Stops isWordChar (c.skipWhile isBlank).rest) :
    CommandEnd line c := by
  obtain ⟨s, hc, hs, hdead⟩ := h
  refine ⟨_, hc.skipWhile isBlank, hs.isCommand_after fun _ => Cursor.of_mem_run, ?_⟩
  intro d hd hbar
  have hblank : isBlank d = false := stops_dropWhile isBlank c.rest d hd
  have hword : isWordChar d = true := by simp [isWordChar, hblank, hbar]
  by_cases hrun : c.run isBlank = []
  · rw [hrun, after_nil]
    refine hdead d ?_ hword
    rwa [← c.run_append_skipWhile isBlank, hrun]
  · simp [hstop hrun d hd] at hword

/-- The words of a command are read to the end of the command. -/
lemma readArguments_explained (h : WordEnd line c) :
    Explained line (fun r => CommandEnd line r.2) (readArguments c) := by
  fun_induction readArguments c with
  | case1 c hb => exact h.commandEnd fun hne => absurd hb hne
  | case2 c hb e hf =>
    have hword := readFragments_explained (begins_word .argument) (h.at_words hb)
    rwa [hf] at hword
  | case3 c hb c' hf =>
    have hword := readFragments_explained (begins_word .argument) (h.at_words hb)
    rw [hf] at hword
    exact h.commandEnd fun _ => hword.2
  | case4 c hb f fs c₁ hf e hr ih =>
    have hword := readFragments_explained (begins_word .argument) (h.at_words hb)
    rw [hf] at hword
    have hrest := ih (wordEnd_of_stops hword.1 trivial hword.2)
    rwa [hr] at hrest
  | case5 c hb f fs c₁ hf ws c₂ hr ih =>
    have hword := readFragments_explained (begins_word .argument) (h.at_words hb)
    rw [hf] at hword
    have hrest := ih (wordEnd_of_stops hword.1 trivial hword.2)
    rwa [hr] at hrest

/-- Where a command has to begin, its name is missing or the command is read to its end. -/
lemma readCommand_explained (h : At line s c) (hs : s = .start ∨ s = .bar)
    (hblank : Stops isBlank c.rest)
    (hname : (c.run isCommandChar).IsCommandName → WordEnd line (c.skipWhile isCommandChar)) :
    Explained line (fun r => CommandEnd line r.2) (readCommand c) := by
  simp only [readCommand]
  split
  · next hnil =>
    obtain ⟨p, hline, hcolumn, rfl⟩ := h
    rw [hcolumn]
    cases hrest : c.rest with
    | nil =>
      obtain rfl : line = p := by rw [hline, hrest, List.append_nil]
      exact .unfinished (.command hs)
    | cons d rest =>
      rw [hrest] at hline hblank
      have hd : isBlank d = false := by simpa using hblank
      have hcommand : isCommandChar d = false :=
        Bool.eq_false_iff.mpr fun hd => Cursor.run_ne_nil hrest hd hnil
      exact .refused hline (by rcases hs with hs | hs <;> simp [hs])
        (next_eq_dead_of_not_isCommandChar hs hd hcommand) .command
  · next hne =>
    have hwords := readArguments_explained (hname ⟨hne, fun _ => Cursor.of_mem_run⟩)
    split
    · next ha => rwa [ha] at hwords
    · next ha => rwa [ha] at hwords

/-- The longest name is not followed by a further character of one, and the state `command` refuses
all other characters of a word. -/
lemma wordEnd_of_command (h : At line .command (c.skipWhile isCommandChar)) :
    WordEnd line (c.skipWhile isCommandChar) := by
  refine ⟨_, h, trivial, fun d hd hword => ?_⟩
  have hcommand : isCommandChar d = false := stops_dropWhile isCommandChar c.rest d hd
  simp [next, hcommand, afterCommand_of_isWordChar hword]

/-- After a name that may be that of a variable the same holds, unless `=` follows. -/
lemma wordEnd_of_identifier (h : At line .identifier (c.skipWhile isCommandChar))
    (hequals : Stops (· == '=') (c.skipWhile isCommandChar).rest) :
    WordEnd line (c.skipWhile isCommandChar) := by
  refine ⟨_, h, trivial, fun d hd hword => ?_⟩
  have hcommand : isCommandChar d = false := stops_dropWhile isCommandChar c.rest d hd
  have hname : isNameChar d = false :=
    Bool.eq_false_iff.mpr fun hn => by simp [isCommandChar_of_isNameChar hn] at hcommand
  have hne : d ≠ '=' := by simpa using hequals d hd
  simp [next, hname, hcommand, hne, afterCommand_of_isWordChar hword]

/-- The first command of a line is read to its end, unless the line looks like an assignment. -/
lemma readCommand_explained_of_start (hlook : looksLikeAssignment line = false) :
    Explained line (fun r => CommandEnd line r.2)
      (readCommand ((Cursor.start line).skipWhile isBlank)) := by
  let c := (Cursor.start line).skipWhile isBlank
  have hstart : At line .start c :=
    after_start_blanks (fun _ => Cursor.of_mem_run) ▸ (at_start line).skipWhile isBlank
  refine readCommand_explained hstart (.inl rfl) (stops_dropWhile isBlank line) fun hname => ?_
  have hend := hstart.skipWhile isCommandChar
  rcases after_start hname with hcommand | ⟨hident, hidentifier⟩
  · exact wordEnd_of_command (hcommand ▸ hend)
  · refine wordEnd_of_identifier (hidentifier ▸ hend) fun d hd => ?_
    rw [Bool.eq_false_iff]
    intro hequals
    obtain rfl : d = '=' := by simpa using hequals
    obtain ⟨rest, hrest⟩ := List.head?_eq_some_iff.mp hd
    have hline : line = line.takeWhile isBlank ++ (c.run isCommandChar ++ '=' :: rest) := by
      rw [← hrest, c.run_append_skipWhile isCommandChar]
      exact List.takeWhile_append_dropWhile.symm
    have hblank : isBlankText (line.takeWhile isBlank) = true :=
      isBlankText_iff.mpr fun _ => List.mem_takeWhile_imp
    have htrue := looksLikeAssignment_iff.mpr ⟨_, _, rest, hblank, hident, hline⟩
    simp [htrue] at hlook

/-- The command after a `|` is read to its end. -/
lemma readCommand_explained_of_bar {rest : Text} (h : CommandEnd line c)
    (hc : (c.skipWhile isBlank).rest = '|' :: rest) :
    Explained line (fun r => CommandEnd line r.2)
      (readCommand (Cursor.skipWhile isBlank ⟨(c.skipWhile isBlank).column + 1, rest⟩)) := by
  obtain ⟨s, hat, hs, -⟩ := h
  have hplace : At line s ⟨(c.skipWhile isBlank).column, '|' :: rest⟩ := by rwa [← hc]
  have hbar : s.next '|' = .bar := hs.next_eq (by decide)
  have hafter : At line .bar ⟨(c.skipWhile isBlank).column + 1, rest⟩ := hbar ▸ hplace.cons
  have hblanks : At line .bar
      (Cursor.skipWhile isBlank ⟨(c.skipWhile isBlank).column + 1, rest⟩) :=
    after_bar_blanks (fun _ => Cursor.of_mem_run) ▸ hafter.skipWhile isBlank
  refine readCommand_explained hblanks (.inr rfl) (stops_dropWhile isBlank rest) fun hname => ?_
  exact wordEnd_of_command (after_bar hname ▸ hblanks.skipWhile isCommandChar)

/-! ## Whole lines -/

/-- The commands after the first are read up to where no `|` follows. -/
lemma readStages_explained (h : CommandEnd line c) :
    Explained line
      (fun r => CommandEnd line r.2 ∧ Stops (· == '|') (r.2.skipWhile isBlank).rest)
      (readStages c) := by
  fun_induction readStages c with
  | case1 c c₁ rest hc e hr =>
    have hcommand := readCommand_explained_of_bar h hc
    rwa [hr] at hcommand
  | case2 c c₁ rest hc cmd c₂ hr e hs =>
    rename_i ih
    have hcommand := readCommand_explained_of_bar h hc
    rw [hr] at hcommand
    have hrest := ih hcommand
    rwa [hs] at hrest
  | case3 c c₁ rest hc cmd c₂ hr cmds c₃ hs =>
    rename_i ih
    have hcommand := readCommand_explained_of_bar h hc
    rw [hr] at hcommand
    have hrest := ih hcommand
    rwa [hs] at hrest
  | case4 c c₁ hbar =>
    refine ⟨h, fun d hd => ?_⟩
    obtain ⟨rest, hrest⟩ := List.head?_eq_some_iff.mp hd
    rw [beq_eq_false_iff_ne]
    rintro rfl
    exact hbar rest hrest

/-- A line ends after its blanks, or it goes on with a character that is refused there. -/
lemma expectEnd_explained (h : At line s (c.skipWhile isBlank)) (hs : s.IsAccepting)
    (hdead : ∀ d ∈ (c.skipWhile isBlank).rest.head?, s.next d = .dead) :
    Explained line (fun _ => (start.after line).IsAccepting) (expectEnd c) := by
  obtain ⟨p, hline, hcolumn, rfl⟩ := h
  simp only [expectEnd]
  split
  · next hnil =>
    rw [hnil, List.append_nil] at hline
    rwa [hline]
  · next d rest hrest =>
    rw [hrest] at hline hdead
    rw [hcolumn]
    exact .refused hline hs.ne_dead (hdead d rfl) (.character hs)

/-- A line that does not look like an assignment is read as a pipeline to its end. -/
lemma readPipeline_explained (hlook : looksLikeAssignment line = false) :
    Explained line (fun _ => (start.after line).IsAccepting) (readPipeline line) := by
  have hcommand := readCommand_explained_of_start hlook
  simp only [readPipeline]
  split
  · next hr => rwa [hr] at hcommand
  · next cmd c hr =>
    rw [hr] at hcommand
    have hstages := readStages_explained hcommand
    split
    · next hs => rwa [hs] at hstages
    · next cmds c' hs =>
      rw [hs] at hstages
      obtain ⟨⟨s, hat, hstate, hdead⟩, hbar⟩ := hstages
      have hend := expectEnd_explained hat hstate.isAccepting fun d hd =>
        hdead d hd (by simpa using hbar d hd)
      split
      · next he => rwa [he] at hend
      · next he => rwa [he] at hend

/-- After the value of an assignment nothing but blanks may follow. -/
lemma expectEnd_explained_of_value (h : At line (word .value) c)
    (hstop : Stops isWordChar c.rest) :
    Explained line (fun _ => (start.after line).IsAccepting) (expectEnd c) := by
  have hskip := h.skipWhile isBlank
  have hblank : Stops isBlank (c.skipWhile isBlank).rest := stops_dropWhile isBlank c.rest
  cases hrun : c.run isBlank with
  | nil =>
    rw [hrun] at hskip
    refine expectEnd_explained hskip trivial fun d hd => ?_
    have hword : isWordChar d = false :=
      hstop d (by rwa [← c.run_append_skipWhile isBlank, hrun])
    simp [next, hword, hblank d hd]
  | cons b bs =>
    have hb : ∀ d ∈ b :: bs, isBlank d = true := fun d hd => Cursor.of_mem_run (hrun ▸ hd)
    have hended : (word .value).after (b :: bs) = ended := by
      obtain ⟨hb, hbs⟩ := List.forall_mem_cons.mp hb
      rw [after_cons, next, if_neg (by simp [isWordChar, hb]), if_pos hb]
      exact after_eq_self fun d hd => by rw [next, if_pos (hbs d hd)]
    rw [hrun, hended] at hskip
    exact expectEnd_explained hskip trivial fun d hd => by simp [next, hblank d hd]

/-- Where no word follows `name=`, the value is missing. -/
lemma breaks_of_no_value {b name rest : Text} (hb : b.isBlankText = true)
    (hname : name.IsIdentifier) (hline : line = b ++ (name ++ '=' :: rest))
    (hstop : Stops isWordChar rest) : Breaks line (.missingValue name) := by
  cases rest with
  | nil => exact .unfinished (.value hb hname hline)
  | cons d rest =>
    have hequals := after_start_assignment hb hname
    have hd : isWordChar d = false := by simpa using hstop
    have hcut : line = b ++ (name ++ ['=']) ++ d :: rest := by simpa using hline
    refine .refused hcut ?_ ?_ (.value hb hname rfl)
    · simp [hequals]
    · rw [hequals, next, if_neg (by simp [hd])]

/-- A line that looks like an assignment is read as one to its end. -/
lemma readAssignment_explained (hlook : looksLikeAssignment line = true) :
    Explained line (fun _ => (start.after line).IsAccepting) (readAssignment line) := by
  obtain ⟨b, name, rest, hb, hname, hline⟩ := looksLikeAssignment_iff.mp hlook
  have hequals : Stops isNameChar ('=' :: rest) := (stops_cons ..).mpr (by decide)
  have hread : readIdentifier ((Cursor.start line).skipWhile isBlank) =
      .ok (name, ⟨1 + b.length + name.length, '=' :: rest⟩) := by
    rw [hline, Cursor.start, Cursor.skipWhile_append (isBlankText_iff.mp hb)
      (hname.stops_isBlank _), readIdentifier_complete hname hequals]
  have hat : At line .equals ⟨1 + b.length + name.length + 1, rest⟩ := by
    refine ⟨b ++ (name ++ ['=']), by simpa using hline, ?_, after_start_assignment hb hname⟩
    simp only [List.length_append, List.length_singleton]
    omega
  have hvalue := readFragments_explained begins_equals hat
  simp only [readAssignment, hread, ne_eq, not_true_eq_false, if_false]
  split
  · next hf => rwa [hf] at hvalue
  · next hf =>
    rw [hf] at hvalue
    exact breaks_of_no_value hb hname hline hvalue.2
  · next f fs c' hf =>
    rw [hf] at hvalue
    have hend := expectEnd_explained_of_value hvalue.1 hvalue.2
    split
    · next he => rwa [he] at hend
    · next he => rwa [he] at hend

/-- A line is read when it ends in an accepting state, and else its fault is one that the automaton
sees. -/
lemma parse_explained (line : Text) :
    Explained line (fun _ => (start.after line).IsAccepting) (parse line) := by
  cases hlook : looksLikeAssignment line with
  | true =>
    rw [parse_of_looksLikeAssignment hlook]
    exact (readAssignment_explained hlook).map fun _ h => h
  | false =>
    rw [parse_of_not_looksLikeAssignment hlook]
    exact (readPipeline_explained hlook).map fun _ h => h

end CommandShell.Line
