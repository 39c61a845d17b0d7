import CommandShell.Proofs.Reading
import CommandShell.Proofs.Scanning

/-!
# References inside double quotes

A reference inside double quotes stands for its value and for nothing else: whatever the value
holds, blanks, `|`, apostrophes or dollar signs, the line keeps its structure, as long as the
value does not close the quotes.

The proof follows two runs of the readers side by side, one on the raw line and one on the line
with the references replaced.  The two texts have different lengths, but they are in step
(`InStep`): outside of quotes they have the same characters, and a quoted region of one faces
the same region of the other with its references replaced.  Each reader, started on texts in
step, either fails on both with the same fault or reads two parts of which the second is the
first with its references replaced, and leaves texts in step.
-/

namespace CommandShell

open Text

/-! ## Replacing references in what was read -/

/-- The contents of double quotes with each reference replaced by its value.  A `$` that no name
follows stands for itself. -/
def Text.expandReferences (value : Text → Text) : Text → Text
  | [] => []
  | c :: t =>
    if c = '$' ∧ t.head?.any isNameStart = true then
      value (t.takeWhile isNameChar) ++ expandReferences value (t.dropWhile isNameChar)
    else c :: expandReferences value t
termination_by t => t.length
decreasing_by
  · exact Nat.lt_succ_of_le (Cursor.length_dropWhile_le isNameChar t)
  · exact Nat.lt_succ_self t.length

/-- A fragment with the references inside double quotes replaced. -/
def Fragment.expand (value : Text → Text) : Fragment → Fragment
  | bare text => bare text
  | single text => single text
  | double text => double (expandReferences value text)

/-- A word with the references inside double quotes replaced, fragment by fragment. -/
def Word.expand (value : Text → Text) (w : Word) : Word :=
  ⟨w.fragments.map (Fragment.expand value)⟩

/-- A command with the references inside double quotes replaced.  It keeps its name. -/
def Command.expand (value : Text → Text) (cmd : Command) : Command :=
  ⟨cmd.name, cmd.arguments.map (Word.expand value)⟩

/-- A line with the references inside double quotes replaced.  It keeps its kind. -/
def Line.expand (value : Text → Text) : Line → Line
  | .assignment name w => .assignment name (w.expand value)
  | .pipeline cmds => .pipeline (cmds.map (Command.expand value))

/-- Text without a dollar sign has no references. -/
lemma Text.expandReferences_append {value : Text → Text} {t rest : Text}
    (ht : ∀ c ∈ t, Region.isPlainQuoted c = true) :
    expandReferences value (t ++ rest) = t ++ expandReferences value rest := by
  induction t with
  | nil => rfl
  | cons c t ih =>
    have hc : c ≠ '$' := by
      rintro rfl
      exact absurd (ht '$' (List.mem_cons_self ..)) (by decide)
    rw [List.cons_append, expandReferences, if_neg fun h => hc h.1,
      ih fun d hd => ht d (List.mem_cons_of_mem c hd), List.cons_append]

/-- A reference is replaced by the value of its name. -/
lemma Text.expandReferences_reference {value : Text → Text} {name rest : Text}
    (hname : name.IsIdentifier) (hr : Stops isNameChar rest) :
    expandReferences value ('$' :: (name ++ rest)) =
      value name ++ expandReferences value rest := by
  have hstart : (name ++ rest).head?.any isNameStart = true := by
    cases name with
    | nil => exact hname.elim
    | cons c name => simpa using hname.1
  rw [expandReferences, if_pos ⟨rfl, hstart⟩, takeWhile_append_of_stops hname.isNameChar hr,
    dropWhile_append_of_stops hname.isNameChar hr]

/-- Replacing references in the text of canonical pieces replaces them in the pieces. -/
lemma Piece.expandReferences_flatMap_render {value : Text → Text} {ps : List Piece}
    (hps : Piece.AreCanonical ps) :
    expandReferences value (ps.flatMap Piece.render) = ps.flatMap (Piece.expand value) := by
  induction ps with
  | nil => rw [List.flatMap_nil, expandReferences, List.flatMap_nil]
  | cons p ps ih =>
    obtain ⟨hp, htail, hnext⟩ := hps.of_cons
    rw [List.flatMap_cons, List.flatMap_cons, ← ih htail]
    cases p with
    | plain text => exact expandReferences_append hp.2
    | reference name =>
      have hend : Stops isNameChar (ps.flatMap Piece.render ++ ['"']) :=
        (Piece.mayPrecede_iff htail).mp hnext
      exact expandReferences_reference hp hend.of_append

/-! ## Texts in step -/

/-- Two texts outside of quotes, the second of which is the first with the references inside
double quotes replaced.  All quotes are closed. -/
inductive InStep (value : Text → Text) : Text → Text → Prop
  | nil : InStep value [] []
  | plain {c : Char} {t u : Text} (hc : c ≠ '\'' ∧ c ≠ '"') (h : InStep value t u) :
      InStep value (c :: t) (c :: u)
  | single {text t u : Text} (htext : '\'' ∉ text) (h : InStep value t u) :
      InStep value ('\'' :: (text ++ '\'' :: t)) ('\'' :: (text ++ '\'' :: u))
  | double {text t u : Text} (htext : '"' ∉ text) (hexpand : '"' ∉ expandReferences value text)
      (h : InStep value t u) :
      InStep value ('"' :: (text ++ '"' :: t)) ('"' :: (expandReferences value text ++ '"' :: u))

namespace InStep

variable {value : Text → Text} {t u : Text}

/-- Texts in step begin with the same character. -/
lemma head?_eq (h : InStep value t u) : t.head? = u.head? := by
  cases h <;> rfl

/-- Texts in step are both at their end, or go on with the same character. -/
lemma nil_or_cons (h : InStep value t u) :
    (t = [] ∧ u = []) ∨ ∃ c t' u', t = c :: t' ∧ u = c :: u' := by
  cases h with
  | nil => exact .inl ⟨rfl, rfl⟩
  | plain _ _ => exact .inr ⟨_, _, _, rfl, rfl⟩
  | single _ _ => exact .inr ⟨_, _, _, rfl, rfl⟩
  | double _ _ _ => exact .inr ⟨_, _, _, rfl, rfl⟩

/-- A run stops at both of two texts in step or at none. -/
lemma stops_iff (h : InStep value t u) (keep : Char → Bool) : Stops keep t ↔ Stops keep u := by
  rw [Stops, Stops, h.head?_eq]

/-- After a character outside of quotes, texts in step go on in step. -/
lemma of_cons {c : Char} (hc : c ≠ '\'' ∧ c ≠ '"') (h : InStep value (c :: t) u) :
    ∃ v, u = c :: v ∧ InStep value t v := by
  cases h with
  | plain _ h => exact ⟨_, rfl, h⟩
  | single _ _ => exact absurd rfl hc.1
  | double _ _ _ => exact absurd rfl hc.2

/-- Texts in step that begin with a character outside of quotes go on in step. -/
lemma tail {c : Char} (hc : c ≠ '\'' ∧ c ≠ '"') (h : InStep value (c :: t) (c :: u)) :
    InStep value t u := by
  obtain ⟨v, hv, hin⟩ := h.of_cons hc
  rwa [(List.cons.inj hv).2]

/-- Text without quotes may be put before texts in step. -/
lemma append {text : Text} (htext : ∀ c ∈ text, Region.isPlain c = true) (h : InStep value t u) :
    InStep value (text ++ t) (text ++ u) := by
  induction text with
  | nil => exact h
  | cons c text ih =>
    obtain ⟨hc, htext⟩ := List.forall_mem_cons.mp htext
    simp only [Region.isPlain, Bool.and_eq_true, bne_iff_ne] at hc
    exact .plain ⟨hc.1.2, hc.2⟩ (ih htext)

/-- The longest runs of a class without quotes are the same, and leave texts in step. -/
lemma takeWhile_dropWhile {keep : Char → Bool} (h₁ : keep '\'' = false) (h₂ : keep '"' = false)
    (h : InStep value t u) :
    t.takeWhile keep = u.takeWhile keep ∧
      InStep value (t.dropWhile keep) (u.dropWhile keep) := by
  induction h with
  | nil => exact ⟨rfl, .nil⟩
  | @plain c t u hc h ih =>
    by_cases hk : keep c = true
    · rw [List.takeWhile_cons_of_pos hk, List.takeWhile_cons_of_pos hk,
        List.dropWhile_cons_of_pos hk, List.dropWhile_cons_of_pos hk]
      exact ⟨congrArg (List.cons c) ih.1, ih.2⟩
    · rw [List.takeWhile_cons_of_neg hk, List.takeWhile_cons_of_neg hk,
        List.dropWhile_cons_of_neg hk, List.dropWhile_cons_of_neg hk]
      exact ⟨rfl, .plain hc h⟩
  | single htext h ih => simpa [h₁] using InStep.single htext h
  | double htext hexpand h ih => simpa [h₂] using InStep.double htext hexpand h

/-- Two cursors in step read the same run of a class without quotes, and stay in step. -/
lemma run {keep : Char → Bool} {c c' : Cursor} (h₁ : keep '\'' = false)
    (h₂ : keep '"' = false) (h : InStep value c.rest c'.rest) :
    c.run keep = c'.run keep ∧
      InStep value (c.skipWhile keep).rest (c'.skipWhile keep).rest :=
  h.takeWhile_dropWhile h₁ h₂

end InStep

/-! ## Readers in step -/

/-- The same fault, apart from the column. -/
inductive ParseError.SameFault : ParseError → ParseError → Prop
  | missingCommandName (n m : ℕ) : SameFault (.missingCommandName n) (.missingCommandName m)
  | unfinishedQuote (quote : Char) (n m : ℕ) :
      SameFault (.unfinishedQuote quote n) (.unfinishedQuote quote m)
  | unexpectedCharacter (found : Char) (n m : ℕ) :
      SameFault (.unexpectedCharacter found n) (.unexpectedCharacter found m)
  | missingValue (name : Text) : SameFault (.missingValue name) (.missingValue name)

/-- Two readings agree when both fail with the same fault or both succeed with related
results. -/
inductive Agree {α β : Type} (related : α → β → Prop) :
    Except ParseError α → Except ParseError β → Prop
  | error {e f : ParseError} (h : e.SameFault f) : Agree related (.error e) (.error f)
  | ok {a : α} {b : β} (h : related a b) : Agree related (.ok a) (.ok b)

/-- Readings that agree have both failed or both succeeded. -/
lemma Agree.error_or_ok {α β : Type} {related : α → β → Prop} {x : Except ParseError α}
    {y : Except ParseError β} (h : Agree related x y) :
    (∃ e f, x = .error e ∧ y = .error f ∧ e.SameFault f) ∨
      ∃ a b, x = .ok a ∧ y = .ok b ∧ related a b := by
  cases h with
  | error h => exact .inl ⟨_, _, rfl, rfl, h⟩
  | ok h => exact .inr ⟨_, _, rfl, rfl, h⟩

namespace Line

open Fragment

variable {value : Text → Text}

/-- On texts in step the fragments of a word are read without a fault, because all quotes are
closed, and the texts that are left are in step. -/
lemma readFragments_inStep {c c' : Cursor} (h : InStep value c.rest c'.rest) :
    ∃ fs c₁ c₁', readFragments c = .ok (fs, c₁) ∧
      readFragments c' = .ok (fs.map (Fragment.expand value), c₁') ∧
      InStep value c₁.rest c₁'.rest := by
  obtain ⟨n, t⟩ := c
  obtain ⟨m, u⟩ := c'
  change InStep value t u at h
  -- The induction is on the length of the raw text, since a bare run takes many characters.
  induction hlen : t.length using Nat.strong_induction_on generalizing n m t u with
  | _ k ih =>
    cases h with
    | nil =>
      exact ⟨[], ⟨n, []⟩, ⟨m, []⟩, readFragments_of_stops (stops_nil _),
        readFragments_of_stops (stops_nil _), .nil⟩
    | @single text t u htext h =>
      have hlt : t.length < k := by
        rw [← hlen, List.length_cons, List.length_append, List.length_cons]
        omega
      obtain ⟨fs, c, c', hread, hread', hrest⟩ := ih _ hlt _ t _ u h rfl
      refine ⟨.single text :: fs, c, c', ?_, ?_, hrest⟩
      · rw [readFragments_single htext, hread]
        rfl
      · rw [readFragments_single htext, hread']
        rfl
    | @double text t u htext hexpand h =>
      have hlt : t.length < k := by
        rw [← hlen, List.length_cons, List.length_append, List.length_cons]
        omega
      obtain ⟨fs, c, c', hread, hread', hrest⟩ := ih _ hlt _ t _ u h rfl
      refine ⟨.double text :: fs, c, c', ?_, ?_, hrest⟩
      · rw [readFragments_double htext, hread]
        rfl
      · rw [readFragments_double hexpand, hread']
        rfl
    | @plain d t u hd h =>
      have hcons : InStep value (d :: t) (d :: u) := .plain hd h
      by_cases hb : isBare d = true
      · obtain ⟨hrun, hdrop⟩ :=
          hcons.takeWhile_dropWhile (show isBare '\'' = false by decide) (by decide)
        have hne : Cursor.run isBare ⟨n, d :: t⟩ ≠ [] := Cursor.run_ne_nil rfl hb
        have hne' : Cursor.run isBare ⟨m, d :: u⟩ ≠ [] := Cursor.run_ne_nil rfl hb
        have hlt : ((d :: t).dropWhile isBare).length < k := by
          rw [← hlen]
          exact Cursor.skipWhile_length_lt hne
        obtain ⟨fs, c, c', hread, hread', hrest⟩ := ih _ hlt _ _ _ _ hdrop rfl
        refine ⟨.bare ((d :: t).takeWhile isBare) :: fs, c, c', ?_, ?_, hrest⟩
        · rw [readFragments_run hne]
          exact congrArg (Except.map _) hread
        · rw [readFragments_run hne', hrun]
          exact congrArg (Except.map _) hread'
      · have hstop : isWordChar d = false :=
          Bool.eq_false_iff.mpr fun hw => hb (isBare_of_isWordChar hw hd.1 hd.2)
        refine ⟨[], ⟨n, d :: t⟩, ⟨m, d :: u⟩, ?_, ?_, hcons⟩
        · exact readFragments_of_stops ((stops_cons ..).mpr hstop)
        · exact readFragments_of_stops ((stops_cons ..).mpr hstop)

/-- On texts in step the words of a command are read without a fault. -/
lemma readArguments_inStep {c c' : Cursor} (h : InStep value c.rest c'.rest) :
    ∃ ws c₁ c₁', readArguments c = .ok (ws, c₁) ∧
      readArguments c' = .ok (ws.map (Word.expand value), c₁') ∧
      InStep value c₁.rest c₁'.rest := by
  induction hlen : c.rest.length using Nat.strong_induction_on generalizing c c' with
  | _ k ih =>
    obtain ⟨hrun, hskip⟩ := h.run (show isBlank '\'' = false by decide) (by decide)
    by_cases hb : c.run isBlank = []
    · refine ⟨[], c, c', readArguments_of_run_eq_nil hb, ?_, h⟩
      exact readArguments_of_run_eq_nil (hrun.symm.trans hb)
    · have hb' : c'.run isBlank ≠ [] := fun hnil => hb (hrun.trans hnil)
      obtain ⟨fs, c₁, c₁', hread, hread', hrest⟩ := readFragments_inStep hskip
      cases fs with
      | nil =>
        exact ⟨[], c, c', readArguments_of_fragments_nil hread,
          readArguments_of_fragments_nil hread', h⟩
      | cons f fs =>
        have hlt : c₁.rest.length < k := by
          rw [← hlen]
          exact lt_of_le_of_lt (readFragments_length_le hread) (Cursor.skipWhile_length_lt hb)
        obtain ⟨ws, c₂, c₂', hargs, hargs', hrest'⟩ := ih _ hlt hrest rfl
        refine ⟨⟨f :: fs⟩ :: ws, c₂, c₂', ?_, ?_, hrest'⟩
        · rw [readArguments_of_fragments_cons hb hread, hargs]
          rfl
        · rw [readArguments_of_fragments_cons hb' hread', hargs']
          rfl

/-- On texts in step a command is read on both sides or missing on both. -/
lemma readCommand_inStep {c c' : Cursor} (h : InStep value c.rest c'.rest) :
    Agree (fun p q => q.1 = p.1.expand value ∧ InStep value p.2.rest q.2.rest)
      (readCommand c) (readCommand c') := by
  obtain ⟨hname, hskip⟩ := h.run (show isCommandChar '\'' = false by decide) (by decide)
  obtain ⟨ws, c₁, c₁', hargs, hargs', hrest⟩ := readArguments_inStep hskip
  by_cases hne : c'.run isCommandChar = []
  · simp only [readCommand, hname, hne, if_true]
    exact .error (.missingCommandName c.column c'.column)
  · simp only [readCommand, hname, if_neg hne, hargs, hargs']
    exact .ok ⟨rfl, hrest⟩

/-- On texts in step the commands after the first are read on both sides, or fail on both. -/
lemma readStages_inStep {c c' : Cursor} (h : InStep value c.rest c'.rest) :
    Agree (fun p q => q.1 = p.1.map (Command.expand value) ∧ InStep value p.2.rest q.2.rest)
      (readStages c) (readStages c') := by
  induction hlen : c.rest.length using Nat.strong_induction_on generalizing c c' with
  | _ k ih =>
    obtain ⟨-, hskip⟩ := h.run (show isBlank '\'' = false by decide) (by decide)
    by_cases hstop : Stops (· == '|') (c.skipWhile isBlank).rest
    · have hstop' : Stops (· == '|') (c'.skipWhile isBlank).rest := (hskip.stops_iff _).mp hstop
      rw [readStages_of_stops hstop, readStages_of_stops hstop']
      exact .ok ⟨rfl, h⟩
    · obtain ⟨d, t, hbar, hd⟩ := exists_cons_of_not_stops hstop
      obtain rfl : d = '|' := beq_iff_eq.mp hd
      rw [hbar] at hskip
      obtain ⟨u, hbar', hin⟩ := hskip.of_cons (by decide)
      rw [readStages_of_bar hbar, readStages_of_bar hbar']
      have hcursor : InStep value (Cursor.mk ((c.skipWhile isBlank).column + 1) t).rest
          (Cursor.mk ((c'.skipWhile isBlank).column + 1) u).rest := hin
      obtain ⟨-, hnext⟩ := hcursor.run (show isBlank '\'' = false by decide) (by decide)
      obtain ⟨e, f, hx, hy, he⟩ | ⟨p, q, hx, hy, hcmd, hrest⟩ :=
        (readCommand_inStep hnext).error_or_ok
      · simp only [hx, hy]
        exact .error he
      · have hlt : p.2.rest.length < k := by
          have h₁ := readCommand_length_le hx
          have h₂ := Cursor.skipWhile_length_le isBlank ⟨(c.skipWhile isBlank).column + 1, t⟩
          have h₃ := c.skipWhile_length_le isBlank
          rw [hbar, List.length_cons] at h₃
          rw [← hlen]
          exact lt_of_le_of_lt (h₁.trans h₂) h₃
        obtain ⟨e, f, hz, hz', he⟩ | ⟨r, r', hz, hz', hcmds, hrest'⟩ :=
          (ih _ hlt hrest rfl).error_or_ok
        · simp only [hx, hy, hz, hz']
          exact .error he
        · simp only [hx, hy, hz, hz']
          exact .ok ⟨by simp [hcmd, hcmds], hrest'⟩

/-- On texts in step the end of the line is reached on both sides or on none. -/
lemma expectEnd_inStep {c c' : Cursor} (h : InStep value c.rest c'.rest) :
    Agree (fun _ _ => True) (expectEnd c) (expectEnd c') := by
  obtain ⟨-, hskip⟩ := h.run (show isBlank '\'' = false by decide) (by decide)
  obtain ⟨ht, hu⟩ | ⟨found, t, u, ht, hu⟩ := hskip.nil_or_cons
  · simp only [expectEnd, ht, hu]
    exact .ok trivial
  · simp only [expectEnd, ht, hu]
    exact .error (.unexpectedCharacter found _ _)

/-- On texts in step a pipeline is read on both sides, or the same fault is found. -/
lemma readPipeline_inStep {s s' : Text} (h : InStep value s s') :
    Agree (fun cmds cmds' => cmds' = cmds.map (Command.expand value))
      (readPipeline s) (readPipeline s') := by
  have hstart : InStep value (Cursor.start s).rest (Cursor.start s').rest := h
  obtain ⟨-, hskip⟩ := hstart.run (show isBlank '\'' = false by decide) (by decide)
  obtain ⟨e, f, hx, hy, he⟩ | ⟨p, q, hx, hy, hcmd, hrest⟩ :=
    (readCommand_inStep hskip).error_or_ok
  · simp only [readPipeline, hx, hy]
    exact .error he
  obtain ⟨e, f, hz, hz', he⟩ | ⟨r, r', hz, hz', hcmds, hrest'⟩ :=
    (readStages_inStep hrest).error_or_ok
  · simp only [readPipeline, hx, hy, hz, hz']
    exact .error he
  obtain ⟨e, f, hend, hend', he⟩ | ⟨_, _, hend, hend', -⟩ :=
    (expectEnd_inStep hrest').error_or_ok
  · simp only [readPipeline, hx, hy, hz, hz', hend, hend']
    exact .error he
  · simp only [readPipeline, hx, hy, hz, hz', hend, hend']
    exact .ok (by rw [hcmd, hcmds, List.map_cons])

/-- On texts in step a variable name is read on both sides, or the same fault is found. -/
lemma readIdentifier_inStep {c c' : Cursor} (h : InStep value c.rest c'.rest) :
    Agree (fun p q => q.1 = p.1 ∧ InStep value p.2.rest q.2.rest)
      (readIdentifier c) (readIdentifier c') := by
  obtain ⟨hrun, hskip⟩ := h.run (show isNameChar '\'' = false by decide) (by decide)
  obtain ⟨ht, hu⟩ | ⟨found, t, u, ht, hu⟩ := h.nil_or_cons
  · simp only [readIdentifier, ht, hu]
    exact .error (.missingCommandName _ _)
  · by_cases hfound : isNameStart found = true
    · simp only [readIdentifier, ht, hu, if_pos hfound]
      exact .ok ⟨hrun.symm, hskip⟩
    · simp only [readIdentifier, ht, hu, if_neg hfound]
      exact .error (.unexpectedCharacter found _ _)

/-- On texts in step an assignment is read on both sides, or the same fault is found. -/
lemma readAssignment_inStep {s s' : Text} (h : InStep value s s') :
    Agree (fun p q => q = (p.1, p.2.expand value)) (readAssignment s) (readAssignment s') := by
  have hstart : InStep value (Cursor.start s).rest (Cursor.start s').rest := h
  obtain ⟨-, hskip⟩ := hstart.run (show isBlank '\'' = false by decide) (by decide)
  obtain ⟨e, f, hx, hy, he⟩ | ⟨⟨name, c⟩, ⟨name', c'⟩, hx, hy, hname, hrest⟩ :=
    (readIdentifier_inStep hskip).error_or_ok
  · simp only [readAssignment, hx, hy]
    exact .error he
  obtain rfl : name' = name := hname
  change InStep value c.rest c'.rest at hrest
  obtain ⟨ht, hu⟩ | ⟨found, t, u, ht, hu⟩ := hrest.nil_or_cons
  · simp only [readAssignment, hx, hy, ht, hu]
    exact .error (.missingValue name')
  by_cases hfound : found = '='
  swap
  · simp only [readAssignment, hx, hy, ht, hu, if_pos hfound]
    exact .error (.unexpectedCharacter found _ _)
  subst hfound
  rw [ht, hu] at hrest
  have hcursor : InStep value (Cursor.mk (c.column + 1) t).rest
      (Cursor.mk (c'.column + 1) u).rest := hrest.tail (by decide)
  obtain ⟨fs, c₁, c₁', hread, hread', hleft⟩ := readFragments_inStep hcursor
  cases fs with
  | nil =>
    simp only [readAssignment, hx, hy, ht, hu, hread, hread']
    exact .error (.missingValue name')
  | cons f fs =>
    rw [List.map_cons] at hread'
    obtain ⟨e, g, hend, hend', he⟩ | ⟨_, _, hend, hend', -⟩ :=
      (expectEnd_inStep hleft).error_or_ok
    · simp only [readAssignment, hx, hy, ht, hu, hread, hread', hend, hend', ne_eq,
        not_true_eq_false, if_false]
      exact .error he
    · simp only [readAssignment, hx, hy, ht, hu, hread, hread', hend, hend', ne_eq,
        not_true_eq_false, if_false]
      exact .ok rfl

/-- Texts in step begin like an assignment both or not at all. -/
lemma looksLikeAssignment_inStep {s s' : Text} (h : InStep value s s') :
    looksLikeAssignment s = looksLikeAssignment s' := by
  obtain ⟨-, hskip⟩ := h.takeWhile_dropWhile (show isBlank '\'' = false by decide) (by decide)
  obtain ⟨ht, hu⟩ | ⟨d, t, u, ht, hu⟩ := hskip.nil_or_cons
  · simp only [looksLikeAssignment, ht, hu]
  · simp only [looksLikeAssignment, ht, hu]
    by_cases hd : isNameStart d = true
    · have hquote : d ≠ '\'' ∧ d ≠ '"' :=
        ⟨by rintro rfl; exact absurd hd (by decide), by rintro rfl; exact absurd hd (by decide)⟩
      rw [ht, hu] at hskip
      have hfind : t.find? (!isNameChar ·) = u.find? (!isNameChar ·) := by
        obtain ⟨-, hnext⟩ := (hskip.tail hquote).takeWhile_dropWhile
          (show isNameChar '\'' = false by decide) (by decide)
        rw [List.find?_not_eq_head?_dropWhile, List.find?_not_eq_head?_dropWhile, hnext.head?_eq]
      rw [hfind]
    · simp [hd]

/-- On texts in step a line is read on both sides, or the same fault is found. -/
lemma parse_inStep {s s' : Text} (h : InStep value s s') :
    Agree (fun l l' => l' = l.expand value) (parse s) (parse s') := by
  obtain ⟨e, f, hx, hy, he⟩ | ⟨⟨name, w⟩, _, hx, hy, rfl⟩ := (readAssignment_inStep h).error_or_ok
  swap
  · simp only [parse, hx, hy]
    exact .ok rfl
  obtain ⟨e', f', hz, hz', he'⟩ | ⟨cmds, _, hz, hz', rfl⟩ := (readPipeline_inStep h).error_or_ok
  swap
  · simp only [parse, hx, hy, hz, hz']
    exact .ok rfl
  simp only [parse, hx, hy, hz, hz', looksLikeAssignment_inStep h]
  by_cases hlook : looksLikeAssignment s' = true
  · simp only [hlook, if_true]
    exact .error he
  · simp only [hlook]
    exact .error he'

end Line

/-! ## Whole lines -/

/-- The text of canonical pieces does not hold the quote that closes them. -/
lemma Piece.not_mem_flatMap_render {ps : List Piece} (hps : ∀ p ∈ ps, p.IsCanonical) :
    '"' ∉ ps.flatMap Piece.render := by
  intro hmem
  obtain ⟨p, hp, hq⟩ := List.mem_flatMap.mp hmem
  have hcanonical := hps p hp
  cases p with
  | plain text => exact absurd (hcanonical.2 '"' hq) (by decide)
  | reference name =>
    rcases List.mem_cons.mp hq with heq | hq
    · exact absurd heq (by decide)
    · exact absurd (hcanonical.isNameChar '"' hq) (by decide)

/-- A character that ends plain text inside of double quotes, as the closing quote does, comes into
them only with a value. -/
lemma Piece.not_mem_flatMap_expand {value : Text → Text} {ps : List Piece} {d : Char}
    (hd : Region.isPlainQuoted d = false) (hps : ∀ p ∈ ps, p.IsCanonical)
    (hvalue : ∀ name, Piece.reference name ∈ ps → d ∉ value name) :
    d ∉ ps.flatMap (Piece.expand value) := by
  intro hmem
  obtain ⟨p, hp, hq⟩ := List.mem_flatMap.mp hmem
  have hcanonical := hps p hp
  cases p with
  | plain text => exact absurd (hcanonical.2 d hq) (by simp [hd])
  | reference name => exact hvalue name hp hq

/-- A line whose references all stand inside double quotes is in step with the line in which they
are replaced. -/
lemma inStep_flatMap_expand {value : Text → Text} {rs : List Region}
    (hrs : ∀ r ∈ rs, r.IsCanonical) (hquoted : ∀ name, Region.reference name ∉ rs)
    (hvalue : ∀ ps, Region.double ps ∈ rs → ∀ name, Piece.reference name ∈ ps → '"' ∉ value name) :
    InStep value (rs.flatMap Region.render) (rs.flatMap (Region.expand value)) := by
  induction rs with
  | nil => exact .nil
  | cons r rs ih =>
    obtain ⟨hr, hrs⟩ := List.forall_mem_cons.mp hrs
    have htail : InStep value (rs.flatMap Region.render) (rs.flatMap (Region.expand value)) :=
      ih hrs (fun name hname => hquoted name (List.mem_cons_of_mem r hname))
        (fun ps hps => hvalue ps (List.mem_cons_of_mem r hps))
    cases r with
    | plain text => exact htail.append hr.2
    | single text =>
      simp only [List.flatMap_cons, Region.render, Region.expand, List.cons_append,
        List.append_assoc, List.nil_append]
      exact .single hr htail
    | double ps =>
      have hexpand : '"' ∉ ps.flatMap (Piece.expand value) :=
        Piece.not_mem_flatMap_expand rfl hr.each (hvalue ps (List.mem_cons_self ..))
      simp only [List.flatMap_cons, Region.render, Region.expand, List.cons_append,
        List.append_assoc, List.nil_append]
      rw [← Piece.expandReferences_flatMap_render hr] at hexpand ⊢
      exact .double (Piece.not_mem_flatMap_render hr.each) hexpand htail
    | reference name => exact absurd (List.mem_cons_self ..) (hquoted name)

/-- References inside double quotes do not change the structure of a line.  Where all references
of a line stand inside double quotes and no value of them holds `"`, the line with its references
replaced is read exactly when the raw line is, as the same tree with the references in its double
quoted fragments replaced; and where the raw line has a fault, so has the other. -/
theorem parse_substitute_of_quoted {value : Text → Text} {line : Text} {rs : List Region}
    (hscan : Region.scan line = .ok rs) (hquoted : ∀ name, Region.reference name ∉ rs)
    (hvalue : ∀ ps, Region.double ps ∈ rs → ∀ name, Piece.reference name ∈ ps → '"' ∉ value name) :
    ∃ s, substitute value line = .ok s ∧
      (∀ l', Line.parse s = .ok l' ↔ ∃ l, Line.parse line = .ok l ∧ l' = l.expand value) ∧
      ∀ e, Line.parse line = .error e → ∃ e', Line.parse s = .error e' ∧ e.SameFault e' := by
  obtain ⟨hcanonical, hrender⟩ := Region.scanFrom_sound hscan
  have hin := inStep_flatMap_expand hcanonical.each hquoted hvalue
  obtain rfl : rs.flatMap Region.render = line := hrender
  refine ⟨rs.flatMap (Region.expand value), ?_, ?_, ?_⟩
  · rw [substitute, hscan]
    rfl
  all_goals
    obtain ⟨e, f, hx, hy, he⟩ | ⟨l, _, hx, hy, rfl⟩ := (Line.parse_inStep hin).error_or_ok
  · simp [hx, hy]
  · simp [hx, hy, eq_comm]
  · intro e' he'
    rw [hx] at he'
    cases he'
    exact ⟨f, hy, he⟩
  · simp [hx]

/-- A value with a blank, a `|`, an apostrophe, a dollar sign and `=` stays inside its quotes. -/
theorem parse_substitute_of_quoted_bar :
    ∃ s, substitute (fun _ => "a | 'b $c=".toList) "echo \"$x\" 'y'|wc".toList = .ok s ∧
      (∀ l', Line.parse s = .ok l' ↔ ∃ l, Line.parse "echo \"$x\" 'y'|wc".toList = .ok l ∧
        l' = l.expand fun _ => "a | 'b $c=".toList) ∧
      ∀ e, Line.parse "echo \"$x\" 'y'|wc".toList = .error e →
        ∃ e', Line.parse s = .error e' ∧ e.SameFault e' := by
  have hcanonical : Region.AreCanonical
      [.plain "echo ".toList, .double [.reference "x".toList], .plain " ".toList,
        .single "y".toList, .plain "|wc".toList] := by decide
  refine parse_substitute_of_quoted (Region.scanFrom_complete hcanonical) ?_ ?_
  · simp
  · simp

end CommandShell
