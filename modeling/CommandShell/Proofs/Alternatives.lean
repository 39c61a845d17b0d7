import CommandShell.Proofs.Reading

/-!
# The two alternatives of a line

A line is tried as an assignment and then as a pipeline, and `looksLikeAssignment` is asked only
when both have failed.  It decides more than that: a line that begins with a name and `=` is never
a pipeline, because no command name is followed by `=`, and any other line is never an assignment.
So at most one alternative can take a line, it can be told from the beginning of the line which one,
and both the tree and the fault of the line are those of that alternative.
-/

namespace CommandShell.Line

open Text

/-- A line looks like an assignment when a variable name and `=` follow its blanks. -/
lemma looksLikeAssignment_iff {line : Text} :
    looksLikeAssignment line = true ↔ ∃ b name rest : Text, b.isBlankText = true ∧
      name.IsIdentifier ∧ line = b ++ (name ++ '=' :: rest) := by
  constructor
  · intro h
    simp only [looksLikeAssignment] at h
    split at h
    · cases h
    · next c t hline =>
      rw [Bool.and_eq_true, beq_iff_eq, List.find?_eq_some_iff_append] at h
      obtain ⟨hstart, -, name, rest, rfl, hname⟩ := h
      refine ⟨line.takeWhile isBlank, c :: name, rest, ?_, ⟨hstart, ?_⟩, ?_⟩
      · exact isBlankText_iff.mpr fun d => List.mem_takeWhile_imp
      · simpa using hname
      · rw [List.cons_append, ← hline, List.takeWhile_append_dropWhile]
  · rintro ⟨b, name, rest, hb, hname, rfl⟩
    rw [looksLikeAssignment, dropWhile_append_of_stops (isBlankText_iff.mp hb)
      (hname.stops_isBlank _)]
    cases name with
    | nil => exact hname.elim
    | cons c name =>
      obtain ⟨hstart, hname⟩ := hname
      have hfind : (name ++ '=' :: rest).find? (!isNameChar ·) = some '=' :=
        List.find?_eq_some_iff_append.mpr ⟨by decide, name, rest, rfl, by simpa using hname⟩
      simp [hstart, hfind]

/-- A line that begins with a name and `=` is not a pipeline. -/
lemma readPipeline_ne_ok_of_looksLikeAssignment {line : Text}
    (h : looksLikeAssignment line = true) (cmds : List Command) :
    readPipeline line ≠ .ok cmds := by
  intro hread
  obtain ⟨b, name, rest, hb, hname, rfl⟩ := looksLikeAssignment_iff.mp h
  obtain ⟨hwf, hlayout⟩ := readPipeline_sound hread
  -- What stands after the `=` does not matter, so it may be taken for a value.
  have hassign : (Line.assignment name ⟨[.bare rest]⟩).Layout (b ++ (name ++ '=' :: rest)) :=
    ⟨b, [], hb, rfl, by simp [Word.verbatim, Fragment.verbatim]⟩
  exact not_layout_pipeline_of_assignment hname hassign hwf hlayout

/-- An assignment begins with a name and `=`. -/
lemma looksLikeAssignment_of_readAssignment {line name : Text} {value : Word}
    (h : readAssignment line = .ok (name, value)) : looksLikeAssignment line = true := by
  obtain ⟨hwf, b₁, b₂, hb₁, -, hline⟩ := readAssignment_sound h
  exact looksLikeAssignment_iff.mpr ⟨b₁, name, value.verbatim ++ b₂, hb₁, hwf.1, hline⟩

/-- A line that begins with a name and `=` is read as an assignment, also where it is none. -/
lemma parse_of_looksLikeAssignment {line : Text} (h : looksLikeAssignment line = true) :
    parse line = (readAssignment line).map fun p => .assignment p.1 p.2 := by
  simp only [parse]
  cases readAssignment line with
  | ok p => rfl
  | error fault =>
    cases hp : readPipeline line with
    | ok cmds => exact absurd hp (readPipeline_ne_ok_of_looksLikeAssignment h cmds)
    | error e =>
      simp only [if_pos h]
      rfl

/-- Any other line is read as a pipeline, also where it is none. -/
lemma parse_of_not_looksLikeAssignment {line : Text} (h : looksLikeAssignment line = false) :
    parse line = (readPipeline line).map .pipeline := by
  simp only [parse]
  cases ha : readAssignment line with
  | ok p => simp [looksLikeAssignment_of_readAssignment ha] at h
  | error fault =>
    cases readPipeline line with
    | ok cmds => rfl
    | error e =>
      simp only [h, Bool.false_eq_true, if_false]
      rfl

/-- Read a line as the alternative that it begins like, without trying the other one. -/
def predict (line : Text) : Except ParseError Line :=
  if looksLikeAssignment line then (readAssignment line).map fun p => .assignment p.1 p.2
  else (readPipeline line).map .pipeline

/-- Trying one alternative after the other comes to the same as reading the line as the one that it
begins like, for every line and with the same fault where there is one.  The other alternative
always fails: a line that begins with a name and `=` is no pipeline, and no other line is an
assignment. -/
theorem parse_eq_predict (line : Text) :
    parse line = predict line ∧
    (looksLikeAssignment line = true → ∃ fault, readPipeline line = .error fault) ∧
    (looksLikeAssignment line = false → ∃ fault, readAssignment line = .error fault) := by
  constructor
  · unfold predict
    split
    · next h => exact parse_of_looksLikeAssignment h
    · next h => exact parse_of_not_looksLikeAssignment (Bool.eq_false_iff.mpr h)
  constructor
  · intro h
    cases hread : readPipeline line with
    | error fault => exact ⟨fault, rfl⟩
    | ok cmds => exact absurd hread (readPipeline_ne_ok_of_looksLikeAssignment h cmds)
  · intro h
    cases hread : readAssignment line with
    | error fault => exact ⟨fault, rfl⟩
    | ok p =>
      have hlooks : looksLikeAssignment line = true := looksLikeAssignment_of_readAssignment hread
      simp [hlooks] at h

/-- The `=` decides, although what stands after the `|` would be a command: the fault is the one of
the assignment. -/
theorem parse_eq_predict_bar :
    looksLikeAssignment "\u3000x=1 | cat".toList = true ∧
    (∃ fault, readPipeline "\u3000x=1 | cat".toList = .error fault) ∧
    parse "\u3000x=1 | cat".toList = .error (.unexpectedCharacter '|' 6) :=
  have hlooks : looksLikeAssignment "\u3000x=1 | cat".toList = true := by decide
  have hpredict := parse_eq_predict "\u3000x=1 | cat".toList
  ⟨hlooks, hpredict.2.1 hlooks, hpredict.1.trans (by decide +kernel)⟩

end CommandShell.Line
