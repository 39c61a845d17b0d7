import CommandShell.Proofs.Grammar

/-!
# How far a line has come

Going through a line from left to right, the characters so far decide what may follow.
`LineState` is this automaton.  Nothing but the first name of a line matters beyond its own end,
and of it only whether `=` may follow, so a handful of states suffices.  A state is accepting when
a line may end in it, and `dead` is the state of a text that no line begins with.

The lemmas say where each part of a line leads: blanks, names, bare runs and quoted texts.
-/

namespace CommandShell

open Text

/-! ## The states of a line -/

/-- What a word of a line is for. -/
inductive WordRole where
  /-- A word of a command. -/
  | argument
  /-- The value of an assignment. -/
  | value
deriving Repr, DecidableEq

/-- What the characters of a line so far amount to. -/
inductive LineState where
  /-- Only blanks. -/
  | start
  /-- A first name that may be that of a variable or of a command. -/
  | identifier
  /-- A command up to its name. -/
  | command
  /-- Up to a place inside of a word.  Between the words of a command is such a place. -/
  | word (role : WordRole)
  /-- Up to a place inside of quotes that this character closes. -/
  | quoted (role : WordRole) (quote : Char)
  /-- Commands and a `|`. -/
  | bar
  /-- A name and `=`. -/
  | equals
  /-- An assignment and a blank. -/
  | ended
  /-- No line begins like this. -/
  | dead
deriving Repr, DecidableEq

namespace LineState

/-- The state after a character of a word, quotes included. -/
def inWord (role : WordRole) (c : Char) : LineState :=
  if c = '\'' ∨ c = '"' then quoted role c else word role

/-- The state after a character that ends a name or a word of a command. -/
def afterCommand (c : Char) : LineState :=
  if isBlank c then word .argument else if c = '|' then bar else dead

/-- A character of a word does not end a name or a word. -/
lemma afterCommand_of_isWordChar {c : Char} (h : isWordChar c = true) : afterCommand c = dead := by
  simp only [isWordChar, Bool.and_eq_true, Bool.not_eq_true', bne_iff_ne] at h
  rw [afterCommand, if_neg (by simp [h.1]), if_neg h.2]

/-- The state after one more character. -/
def next : LineState → Char → LineState
  | start, c =>
    if isBlank c then start
    else if isNameStart c then identifier
    else if isCommandChar c then command
    else dead
  | identifier, c =>
    if isNameChar c then identifier
    else if isCommandChar c then command
    else if c = '=' then equals
    else afterCommand c
  | command, c => if isCommandChar c then command else afterCommand c
  | word .argument, c => if isWordChar c then inWord .argument c else afterCommand c
  | word .value, c =>
    if isWordChar c then inWord .value c else if isBlank c then ended else dead
  | quoted role quote, c => if c = quote then word role else quoted role quote
  | bar, c => if isBlank c then bar else if isCommandChar c then command else dead
  | equals, c => if isWordChar c then inWord .value c else dead
  | ended, c => if isBlank c then ended else dead
  | dead, _ => dead

/-- The state at the end of a text that begins in a state. -/
def after (s : LineState) (t : Text) : LineState :=
  t.foldl next s

@[simp] lemma after_nil (s : LineState) : s.after [] = s :=
  rfl

@[simp] lemma after_cons (s : LineState) (c : Char) (t : Text) :
    s.after (c :: t) = (s.next c).after t :=
  rfl

@[simp] lemma after_append (s : LineState) (t u : Text) :
    s.after (t ++ u) = (s.after t).after u :=
  List.foldl_append

/-- Characters that leave a state as it is may be skipped. -/
lemma after_eq_self {s : LineState} {t : Text} (h : ∀ c ∈ t, s.next c = s) : s.after t = s := by
  induction t with
  | nil => rfl
  | cons c t ih =>
    obtain ⟨hc, ht⟩ := List.forall_mem_cons.mp h
    rw [after_cons, hc, ih ht]

/-- Nothing makes a line of a text that no line begins with. -/
@[simp] lemma after_dead (t : Text) : dead.after t = dead :=
  after_eq_self fun _ _ => rfl

/-- Whatever follows a character that is refused, no line begins like this. -/
lemma after_eq_dead {s : LineState} {p : Text} {c : Char} (h : (s.after p).next c = dead)
    (rest : Text) : s.after (p ++ c :: rest) = dead := by
  rw [after_append, after_cons, h, after_dead]

/-- The states that a line may end in. -/
def IsAccepting : LineState → Prop
  | identifier | command | word _ | ended => True
  | start | quoted _ _ | bar | equals | dead => False

lemma IsAccepting.ne_dead {s : LineState} (h : s.IsAccepting) : s ≠ dead := by
  rintro rfl
  exact h

/-- What makes a line of a text that ends in this state. -/
def completion : LineState → Text
  | identifier | command | word _ | ended | dead => []
  | start | bar | equals => ['a']
  | quoted _ quote => [quote]

/-- Every state but `dead` can be completed. -/
lemma isAccepting_completion {s : LineState} (h : s ≠ dead) :
    (s.after s.completion).IsAccepting := by
  cases s with
  | identifier | command | word | ended => trivial
  | start | bar | equals => trivial
  | quoted role quote =>
    rw [completion, after_cons, next, if_pos rfl]
    trivial
  | dead => exact absurd rfl h

/-- Where a command has to begin, only blanks and the characters of its name may stand. -/
lemma next_eq_dead_of_not_isCommandChar {s : LineState} (hs : s = start ∨ s = bar) {c : Char}
    (hblank : isBlank c = false) (hc : isCommandChar c = false) : s.next c = dead := by
  have hname : isNameStart c = false := Bool.eq_false_iff.mpr fun hn => by
    simp [isCommandChar_of_isNameChar (isNameChar_of_isNameStart hn)] at hc
  rcases hs with rfl | rfl
  · simp [next, hblank, hname, hc]
  · simp [next, hblank, hc]

/-- The states inside of a command, in which it may end. -/
def IsCommand : LineState → Prop
  | identifier | command | word .argument => True
  | start | word .value | quoted _ _ | bar | equals | ended | dead => False

lemma IsCommand.isAccepting {s : LineState} (h : s.IsCommand) : s.IsAccepting := by
  cases s <;> trivial

/-- A blank or a `|` leads to the same state from every place of a command. -/
lemma IsCommand.next_eq {s : LineState} (h : s.IsCommand) {c : Char}
    (hc : isWordChar c = false) : s.next c = afterCommand c := by
  have hcommand : isCommandChar c = false :=
    Bool.eq_false_iff.mpr fun hn => by simp [isWordChar_of_isCommandChar hn] at hc
  have hname : isNameChar c = false :=
    Bool.eq_false_iff.mpr fun hn => by simp [isCommandChar_of_isNameChar hn] at hcommand
  have heq : c ≠ '=' := by rintro rfl; exact absurd hc (by decide)
  cases s with
  | identifier => simp [next, hname, hcommand, heq]
  | command => simp [next, hcommand]
  | word role =>
    cases role with
    | argument => simp [next, hc]
    | value => exact h.elim
  | start | quoted | bar | equals | ended | dead => exact h.elim

/-- Blanks inside of a command lead to its words. -/
lemma IsCommand.after_blanks {s : LineState} (h : s.IsCommand) {b : Text} (hne : b ≠ [])
    (hb : ∀ c ∈ b, isBlank c = true) : s.after b = word .argument := by
  have hblank : ∀ {s : LineState} {c : Char}, s.IsCommand → isBlank c = true →
      s.next c = word .argument := fun hs hc => by
    rw [hs.next_eq (by simp [isWordChar, hc]), afterCommand, if_pos hc]
  obtain ⟨c, b, rfl⟩ := List.exists_cons_of_ne_nil hne
  obtain ⟨hc, hb⟩ := List.forall_mem_cons.mp hb
  rw [after_cons, hblank h hc]
  exact after_eq_self fun d hd => hblank trivial (hb d hd)

/-- A command stays one after blanks. -/
lemma IsCommand.isCommand_after {s : LineState} (h : s.IsCommand) {b : Text}
    (hb : ∀ c ∈ b, isBlank c = true) : (s.after b).IsCommand := by
  by_cases hne : b = []
  · rwa [hne]
  · rw [h.after_blanks hne hb]
    trivial

/-- In these states the next character of a word belongs to a word of the role. -/
def Begins (role : WordRole) (s : LineState) : Prop :=
  ∀ c, isWordChar c = true → s.next c = inWord role c

lemma begins_word (role : WordRole) : Begins role (word role) := by
  intro c hc
  cases role <;> simp [next, hc]

lemma begins_equals : Begins .value equals := by
  intro c hc
  simp [next, hc]

/-- A bare run of a word stays in it. -/
lemma Begins.after_bare {role : WordRole} {s : LineState} (h : Begins role s) {t : Text}
    (hne : t ≠ []) (ht : ∀ c ∈ t, isBare c = true) : s.after t = word role := by
  have hbare : ∀ {s : LineState} {c : Char}, Begins role s → isBare c = true →
      s.next c = word role := fun {s c} hs hc => by
    have h₁ : c ≠ '\'' := by rintro rfl; exact absurd hc (by decide)
    have h₂ : c ≠ '"' := by rintro rfl; exact absurd hc (by decide)
    rw [hs c (isWordChar_of_isBare hc), inWord, if_neg (by simp [h₁, h₂])]
  obtain ⟨c, t, rfl⟩ := List.exists_cons_of_ne_nil hne
  obtain ⟨hc, ht⟩ := List.forall_mem_cons.mp ht
  rw [after_cons, hbare h hc]
  exact after_eq_self fun d hd => hbare (begins_word role) (ht d hd)

/-- Quotes stay open as long as the quote does not come again. -/
lemma after_quoted {role : WordRole} {quote : Char} {t : Text} (h : quote ∉ t) :
    (quoted role quote).after t = quoted role quote := by
  refine after_eq_self fun c hc => ?_
  rw [next, if_neg]
  rintro rfl
  exact h hc

/-- Further characters of a command name change nothing. -/
lemma after_command {t : Text} (ht : ∀ c ∈ t, isCommandChar c = true) :
    command.after t = command :=
  after_eq_self fun c hc => by rw [next, if_pos (ht c hc)]

/-- After a `|` stands the name of a command. -/
lemma after_bar {name : Text} (h : name.IsCommandName) : bar.after name = command := by
  obtain ⟨hne, hname⟩ := h
  obtain ⟨c, t, rfl⟩ := List.exists_cons_of_ne_nil hne
  obtain ⟨hc, ht⟩ := List.forall_mem_cons.mp hname
  have hblank : isBlank c = false := isBlank_eq_false_of_isWordChar (isWordChar_of_isCommandChar hc)
  rw [after_cons, next, if_neg (by simp [hblank]), if_pos hc]
  exact after_command ht

/-- A first name stays a variable name, or becomes the name of a command for good. -/
lemma after_identifier {t : Text} (ht : ∀ c ∈ t, isCommandChar c = true) :
    identifier.after t = command ∨
      (∀ c ∈ t, isNameChar c = true) ∧ identifier.after t = identifier := by
  induction t with
  | nil => exact .inr ⟨by simp, rfl⟩
  | cons c t ih =>
    obtain ⟨hc, ht⟩ := List.forall_mem_cons.mp ht
    by_cases hn : isNameChar c = true
    · rw [after_cons, next, if_pos hn]
      refine (ih ht).imp_right fun ⟨hname, hafter⟩ => ?_
      exact ⟨List.forall_mem_cons.mpr ⟨hn, hname⟩, hafter⟩
    · rw [after_cons, next, if_neg hn, if_pos hc]
      exact .inl (after_command ht)

/-- At the end of the first name of a line it is known whether a variable can have this name. -/
lemma after_start {name : Text} (h : name.IsCommandName) :
    start.after name = command ∨ name.IsIdentifier ∧ start.after name = identifier := by
  obtain ⟨hne, hname⟩ := h
  obtain ⟨c, t, rfl⟩ := List.exists_cons_of_ne_nil hne
  obtain ⟨hc, ht⟩ := List.forall_mem_cons.mp hname
  have hblank : isBlank c = false := isBlank_eq_false_of_isWordChar (isWordChar_of_isCommandChar hc)
  by_cases hn : isNameStart c = true
  · rw [after_cons, next, if_neg (by simp [hblank]), if_pos hn]
    exact (after_identifier ht).imp_right fun ⟨hrest, hafter⟩ => ⟨⟨hn, hrest⟩, hafter⟩
  · rw [after_cons, next, if_neg (by simp [hblank]), if_neg hn, if_pos hc]
    exact .inl (after_command ht)

/-- Blanks at the beginning of a line change nothing. -/
lemma after_start_blanks {b : Text} (hb : ∀ c ∈ b, isBlank c = true) : start.after b = start :=
  after_eq_self fun c hc => by rw [next, if_pos (hb c hc)]

/-- Blanks after a `|` change nothing. -/
lemma after_bar_blanks {b : Text} (hb : ∀ c ∈ b, isBlank c = true) : bar.after b = bar :=
  after_eq_self fun c hc => by rw [next, if_pos (hb c hc)]

/-- The state after a name and `=`. -/
lemma after_start_assignment {b name : Text} (hb : b.isBlankText = true)
    (hname : name.IsIdentifier) : start.after (b ++ (name ++ ['='])) = equals := by
  have hidentifier : start.after name = identifier := by
    cases name with
    | nil => exact hname.elim
    | cons c t =>
      have hblank : isBlank c = false := by simpa using hname.stops_isBlank []
      rw [after_cons, next, if_neg (by simp [hblank]), if_pos hname.1]
      exact after_eq_self fun d hd => by rw [next, if_pos (hname.2 d hd)]
  rw [after_append, after_start_blanks (isBlankText_iff.mp hb), after_append, hidentifier]
  rfl

end LineState

end CommandShell
