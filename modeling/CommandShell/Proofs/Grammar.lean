import CommandShell.Line
import CommandShell.Proofs.Runs

/-!
# The grammar of a line

This file says what a line is without saying how one is read.  A tree is well formed when its
names are names and its words are canonical (`Line.IsWellFormed`), and a text is a layout of a
tree when it writes the tree down with blanks where the grammar has them (`Line.Layout`):

    Line       := Blank* (Assignment | Pipeline) Blank*
    Assignment := Identifier "=" Word
    Pipeline   := Command (Blank* "|" Blank* Command)*
    Command    := Name (Blank+ Word)*

A word is canonical when no other fragments are written like it: bare fragments are not empty
and never adjacent, and a quoted fragment does not hold its own quote.

The last section collects what the reader of a part needs to know of the text after it.  A word
ends before a blank, a `|` and the end of the line, which is `Stops isWordChar`; the words of a
command end where only blanks precede a `|` or the end of the line, which is `StageEnd`.
-/

namespace CommandShell

/-! ## Words -/

namespace Fragment

/-- A fragment that is read back from how it is written. -/
def IsCanonical : Fragment → Prop
  | bare text => text ≠ [] ∧ ∀ c ∈ text, Text.isBare c = true
  | single text => '\'' ∉ text
  | double text => '"' ∉ text

instance : DecidablePred IsCanonical
  | bare text => inferInstanceAs (Decidable (text ≠ [] ∧ ∀ c ∈ text, Text.isBare c = true))
  | single text => inferInstanceAs (Decidable ('\'' ∉ text))
  | double text => inferInstanceAs (Decidable ('"' ∉ text))

/-- Two bare fragments never stand side by side, because they would be read as one. -/
def MayPrecede : Fragment → Fragment → Prop
  | bare _, bare _ => False
  | _, _ => True

instance : DecidableRel MayPrecede
  | bare _, bare _ => inferInstanceAs (Decidable False)
  | bare _, single _ | bare _, double _ | single _, _ | double _, _ =>
    inferInstanceAs (Decidable True)

/-- Adjacent fragments that are read back from how they are written. -/
def AreCanonical (fs : List Fragment) : Prop :=
  Linked IsCanonical MayPrecede fs

instance : DecidablePred AreCanonical := fun fs =>
  inferInstanceAs (Decidable (Linked IsCanonical MayPrecede fs))

end Fragment

/-- A word of at least one fragment that is read back from how it is written. -/
def Word.IsCanonical (w : Word) : Prop :=
  w.fragments ≠ [] ∧ Fragment.AreCanonical w.fragments

/-! ## Trees and their layouts -/

/-- A command with a command name and canonical words. -/
def Command.IsWellFormed (cmd : Command) : Prop :=
  cmd.name.IsCommandName ∧ ∀ w ∈ cmd.arguments, w.IsCanonical

/-- The words of a command written after its name, each after at least one blank. -/
inductive ArgumentsLayout : List Word → Text → Prop
  | nil : ArgumentsLayout [] []
  | cons {gap t : Text} {w : Word} {ws : List Word} (hne : gap ≠ [])
      (hgap : gap.isBlankText = true) (ht : ArgumentsLayout ws t) :
      ArgumentsLayout (w :: ws) (gap ++ (w.verbatim ++ t))

/-- A command written down: its name, and then its words. -/
def Command.Layout (cmd : Command) (t : Text) : Prop :=
  ∃ u, ArgumentsLayout cmd.arguments u ∧ t = cmd.name ++ u

/-- The commands after the first written down, each after a `|` with blanks on either side. -/
inductive StagesLayout : List Command → Text → Prop
  | nil : StagesLayout [] []
  | cons {before after t u : Text} {cmd : Command} {cmds : List Command}
      (hbefore : before.isBlankText = true) (hafter : after.isBlankText = true)
      (ht : cmd.Layout t) (hu : StagesLayout cmds u) :
      StagesLayout (cmd :: cmds) (before ++ '|' :: (after ++ (t ++ u)))

/-- A pipeline written down, without blanks around it. -/
inductive PipelineLayout : List Command → Text → Prop
  | mk {t u : Text} {cmd : Command} {cmds : List Command} (ht : cmd.Layout t)
      (hu : StagesLayout cmds u) : PipelineLayout (cmd :: cmds) (t ++ u)

namespace Line

/-- A tree that a line can have. -/
def IsWellFormed : Line → Prop
  | .assignment name value => name.IsIdentifier ∧ value.IsCanonical
  | .pipeline cmds => cmds ≠ [] ∧ ∀ cmd ∈ cmds, cmd.IsWellFormed

/-- A tree written down, with blanks around it. -/
def Layout : Line → Text → Prop
  | .assignment name value, s => ∃ b₁ b₂ : Text, b₁.isBlankText = true ∧ b₂.isBlankText = true ∧
      s = b₁ ++ (name ++ '=' :: (value.verbatim ++ b₂))
  | .pipeline cmds, s => ∃ b₁ t b₂ : Text, b₁.isBlankText = true ∧ b₂.isBlankText = true ∧
      PipelineLayout cmds t ∧ s = b₁ ++ (t ++ b₂)

end Line

/-! ## Where the parts of a line end -/

namespace Text

/-- The characters that begin or continue a word: all but blanks and `|`. -/
def isWordChar (c : Char) : Bool :=
  !isBlank c && c != '|'

/-- Only blanks precede the next `|` or the end of the line. -/
def StageEnd (t : Text) : Prop :=
  Stops (· != '|') (t.dropWhile isBlank)

lemma isWordChar_of_isBare {c : Char} (h : isBare c = true) : isWordChar c = true := by
  simp only [isBare, Bool.and_eq_true] at h
  simp only [isWordChar, Bool.and_eq_true]
  exact ⟨h.1.1.1, h.2⟩

/-- A character of a word that is not a quote stands for itself. -/
lemma isBare_of_isWordChar {c : Char} (h : isWordChar c = true) (h₁ : c ≠ '\'') (h₂ : c ≠ '"') :
    isBare c = true := by
  simp only [isWordChar, Bool.and_eq_true] at h
  simp only [isBare, Bool.and_eq_true, bne_iff_ne]
  exact ⟨⟨⟨h.1, h₁⟩, h₂⟩, bne_iff_ne.mp h.2⟩

lemma isWordChar_of_isCommandChar {c : Char} (h : isCommandChar c = true) :
    isWordChar c = true :=
  isWordChar_of_isBare (isBare_of_isCommandChar h)

/-- No word begins with a blank. -/
lemma isBlank_eq_false_of_isWordChar {c : Char} (h : isWordChar c = true) :
    isBlank c = false := by
  simp only [isWordChar, Bool.and_eq_true, Bool.not_eq_true'] at h
  exact h.1

/-- No word continues at the end of a stage. -/
lemma StageEnd.stops {t : Text} (h : StageEnd t) : Stops isWordChar t := by
  cases t with
  | nil => exact stops_nil _
  | cons c t =>
    rw [stops_cons]
    by_cases hc : isBlank c = true
    · simp [isWordChar, hc]
    · rw [StageEnd, List.dropWhile_cons_of_neg hc, stops_cons] at h
      simp [isWordChar, h]

/-- Blanks may be put before the end of a stage. -/
lemma StageEnd.append {b t : Text} (hb : b.isBlankText = true) (h : StageEnd t) :
    StageEnd (b ++ t) := by
  rw [StageEnd, List.dropWhile_append_of_pos (isBlankText_iff.mp hb)]
  exact h

lemma stageEnd_nil : StageEnd [] :=
  stops_nil _

lemma stageEnd_bar (t : Text) : StageEnd ('|' :: t) := by
  simp [StageEnd, isBlank]

/-- Blanks up to the end of the line end a stage. -/
lemma stageEnd_of_isBlankText {b : Text} (hb : b.isBlankText = true) : StageEnd b := by
  have h : StageEnd (b ++ []) := stageEnd_nil.append hb
  rwa [List.append_nil] at h

end Text

open Text

/-- A variable name is not written with a blank first. -/
lemma Text.IsIdentifier.stops_isBlank {name : Text} (h : name.IsIdentifier) (rest : Text) :
    Stops isBlank (name ++ rest) := by
  cases name with
  | nil => exact h.elim
  | cons c name =>
    have hc : isCommandChar c = true :=
      isCommandChar_of_isNameChar (isNameChar_of_isNameStart h.1)
    simpa using isBlank_eq_false_of_isWordChar (isWordChar_of_isCommandChar hc)

/-- A canonical fragment begins with a character of a word. -/
lemma Fragment.IsCanonical.exists_verbatim {f : Fragment} (h : f.IsCanonical) :
    ∃ c t, f.verbatim = c :: t ∧ isWordChar c = true := by
  cases f with
  | bare text =>
    obtain ⟨c, t, rfl⟩ := List.exists_cons_of_ne_nil h.1
    exact ⟨c, t, rfl, isWordChar_of_isBare (h.2 c (List.mem_cons_self ..))⟩
  | single text => exact ⟨'\'', text ++ ['\''], rfl, by decide⟩
  | double text => exact ⟨'"', text ++ ['"'], rfl, by decide⟩

/-- A canonical word is not written with a blank first. -/
lemma Word.IsCanonical.stops_isBlank {w : Word} (h : w.IsCanonical) (rest : Text) :
    Stops isBlank (w.verbatim ++ rest) := by
  obtain ⟨f, fs, hw⟩ := List.exists_cons_of_ne_nil h.1
  obtain ⟨c, t, hf, hc⟩ := (h.2.each f (hw ▸ List.mem_cons_self ..)).exists_verbatim
  rw [Word.verbatim, hw, List.flatMap_cons, hf]
  simpa using isBlank_eq_false_of_isWordChar hc

/-- A command is not written with a blank first. -/
lemma Command.Layout.stops_isBlank {cmd : Command} {t : Text} (ht : cmd.Layout t)
    (hcmd : cmd.IsWellFormed) (rest : Text) : Stops isBlank (t ++ rest) := by
  obtain ⟨u, -, rfl⟩ := ht
  obtain ⟨c, name, hname⟩ := List.exists_cons_of_ne_nil hcmd.1.1
  have hc : isCommandChar c = true := hcmd.1.2 c (hname ▸ List.mem_cons_self ..)
  rw [hname]
  simpa using isBlank_eq_false_of_isWordChar (isWordChar_of_isCommandChar hc)

/-- No word continues where the words of a command are written. -/
lemma ArgumentsLayout.stops {ws : List Word} {t rest : Text} (h : ArgumentsLayout ws t)
    (hr : StageEnd rest) : Stops isWordChar (t ++ rest) := by
  cases h with
  | nil => exact hr.stops
  | @cons gap t w ws hne hgap ht =>
    obtain ⟨c, g, rfl⟩ := List.exists_cons_of_ne_nil hne
    have hc : isBlank c = true := isBlankText_iff.mp hgap c (List.mem_cons_self ..)
    simp [isWordChar, hc]

/-- The commands after the first are written at the end of a stage. -/
lemma StagesLayout.stageEnd {cmds : List Command} {u b : Text} (h : StagesLayout cmds u)
    (hb : b.isBlankText = true) : StageEnd (u ++ b) := by
  cases h with
  | nil => exact stageEnd_of_isBlankText hb
  | cons hbefore hafter ht hu =>
    rw [List.append_assoc]
    exact (stageEnd_bar _).append hbefore

end CommandShell
