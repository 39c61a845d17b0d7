import CommandShell.Text.Cursor
import CommandShell.Word

/-!
# Lines

A line is one assignment or one pipeline:

    Line       := Blank* (Assignment | Pipeline) Blank*
    Assignment := Identifier "=" Word
    Pipeline   := Command (Blank* "|" Blank* Command)*
    Command    := Name (Blank+ Word)*
    Word       := (Double | Single | Bare)+

An alternative counts only when it takes the whole line.  Assignment is tried first;
when both fail, the fault reported is that of the alternative the line begins like.
-/

namespace CommandShell

/-- A command of a pipeline: its name and its words. -/
structure Command where
  name : Text
  arguments : List Word
deriving Repr, DecidableEq

/-- A line is one assignment or one pipeline. -/
inductive Line where
  /-- `name=value`. -/
  | assignment (name : Text) (value : Word)
  /-- Commands joined by `|`, in the order they run. -/
  | pipeline (commands : List Command)
deriving Repr, DecidableEq

/-- Why a text is not a line. -/
inductive ParseError where
  /-- A command name was expected at this column. -/
  | missingCommandName (column : Nat)
  /-- A quote opened at this column is never closed. -/
  | unfinishedQuote (quote : Char) (column : Nat)
  /-- The character at this column continues nothing. -/
  | unexpectedCharacter (found : Char) (column : Nat)
  /-- `name=` is not followed by a value. -/
  | missingValue (name : Text)
deriving Repr, DecidableEq

/-- The wording of a fault of a line. -/
def ParseError.message : ParseError → Text
  | .missingCommandName column =>
    "parse: command name expected at column ".toList ++ Text.ofNat column
  | .unfinishedQuote quote column =>
    "parse: unterminated ".toList ++ quote :: " quote starting at column ".toList ++
      Text.ofNat column
  | .unexpectedCharacter found column =>
    "parse: unexpected `".toList ++ found :: "` at column ".toList ++ Text.ofNat column
  | .missingValue name =>
    "parse: assignment to `".toList ++ name ++ "` has no value".toList

namespace Line

/-! ### Words -/

/-- The text of a quoted fragment and the place after it.  The cursor stands on the
opening quote. -/
def readQuoted (quote : Char) (c : Cursor) : Except ParseError (Text × Cursor) :=
  let text := c.skip.run (· != quote)
  let c₁ := c.skip.skipWhile (· != quote)
  match c₁.rest with
  | [] => .error (.unfinishedQuote quote c.column)
  | _ :: _ => .ok (text, c₁.skip)

theorem skip_length_le (c : Cursor) : c.skip.rest.length ≤ c.rest.length := by
  unfold Cursor.skip
  split <;> simp_all

theorem skip_length_lt {c : Cursor} {d : Char} {rest : Text} (h : c.rest = d :: rest) :
    c.skip.rest.length < c.rest.length := by
  simp [Cursor.skip, h]

theorem readQuoted_length_lt {quote : Char} {c c' : Cursor} {text : Text}
    (h : readQuoted quote c = .ok (text, c')) : c'.rest.length < c.rest.length := by
  simp only [readQuoted] at h
  split at h
  · cases h
  · next hc =>
    cases h
    exact Nat.lt_of_lt_of_le (skip_length_lt hc)
      (Nat.le_trans (Cursor.skipWhile_length_le _ _) (skip_length_le c))

-- The equations named in the matches are for the termination proof.
set_option linter.unusedVariables false in
/-- The adjacent fragments from a place on, up to the next blank, `|` or end, and the
place after them. -/
def readFragments (c : Cursor) : Except ParseError (List Fragment × Cursor) :=
  match hc : c.rest with
  | [] => .ok ([], c)
  | d :: _ =>
    if d = '\'' then
      match hq : readQuoted '\'' c with
      | .error e => .error e
      | .ok (text, c') =>
        match readFragments c' with
        | .error e => .error e
        | .ok (fs, c'') => .ok (.single text :: fs, c'')
    else if d = '"' then
      match hq : readQuoted '"' c with
      | .error e => .error e
      | .ok (text, c') =>
        match readFragments c' with
        | .error e => .error e
        | .ok (fs, c'') => .ok (.double text :: fs, c'')
    else if hb : Text.isBare d = true then
      match readFragments (c.skipWhile Text.isBare) with
      | .error e => .error e
      | .ok (fs, c') => .ok (.bare (c.run Text.isBare) :: fs, c')
    else .ok ([], c)
termination_by c.rest.length
decreasing_by
  · exact readQuoted_length_lt hq
  · exact readQuoted_length_lt hq
  · exact Cursor.skipWhile_length_lt (Cursor.run_ne_nil hc hb)

theorem readFragments_length_le {c c' : Cursor} {fs : List Fragment}
    (h : readFragments c = .ok (fs, c')) : c'.rest.length ≤ c.rest.length := by
  fun_induction readFragments c generalizing fs c' with
  | case1 => cases h; exact Nat.le_refl _
  | case2 => cases h
  | case3 => cases h
  | case4 _ _ _ _ hq _ _ hs _ ih =>
    cases h
    exact Nat.le_trans (ih hs) (Nat.le_of_lt (readQuoted_length_lt hq))
  | case5 => cases h
  | case6 => cases h
  | case7 _ _ _ _ hq _ _ hs _ _ ih =>
    cases h
    exact Nat.le_trans (ih hs) (Nat.le_of_lt (readQuoted_length_lt hq))
  | case8 => cases h
  | case9 => cases h; grind [Cursor.skipWhile_length_le]
  | case10 => cases h; exact Nat.le_refl _

/-! ### Commands -/

-- The equations named in the matches are for the termination proof.
set_option linter.unusedVariables false in
/-- The words of a command from a place on, and the place after the last.  Blanks that no
word follows are left. -/
def readArguments (c : Cursor) : Except ParseError (List Word × Cursor) :=
  if hb : c.run Text.isBlank = [] then .ok ([], c)
  else match hf : readFragments (c.skipWhile Text.isBlank) with
    | .error e => .error e
    | .ok ([], _) => .ok ([], c)
    | .ok (f :: fs, c') =>
      match readArguments c' with
      | .error e => .error e
      | .ok (ws, c'') => .ok (⟨f :: fs⟩ :: ws, c'')
termination_by c.rest.length
decreasing_by
  exact Nat.lt_of_le_of_lt (readFragments_length_le hf) (Cursor.skipWhile_length_lt hb)

theorem readArguments_length_le {c c' : Cursor} {ws : List Word}
    (h : readArguments c = .ok (ws, c')) : c'.rest.length ≤ c.rest.length := by
  fun_induction readArguments c generalizing ws c' with
  | case1 => cases h; exact Nat.le_refl _
  | case2 => cases h
  | case3 => cases h; exact Nat.le_refl _
  | case4 => cases h
  | case5 c _ _ _ _ hf _ _ hs ih =>
    cases h
    exact Nat.le_trans (ih hs)
      (Nat.le_trans (readFragments_length_le hf) (c.skipWhile_length_le _))

/-- A command: its name, which is not empty, and its words. -/
def readCommand (c : Cursor) : Except ParseError (Command × Cursor) :=
  let name := c.run Text.isCommandChar
  if name = [] then .error (.missingCommandName c.column)
  else match readArguments (c.skipWhile Text.isCommandChar) with
    | .error e => .error e
    | .ok (ws, c') => .ok (⟨name, ws⟩, c')

theorem readCommand_length_le {c c' : Cursor} {cmd : Command}
    (h : readCommand c = .ok (cmd, c')) : c'.rest.length ≤ c.rest.length := by
  simp only [readCommand] at h
  split at h
  · cases h
  · split at h
    · cases h
    · next ha =>
      cases h
      exact Nat.le_trans (readArguments_length_le ha) (Cursor.skipWhile_length_le _ _)

/-! ### The two alternatives -/

/-- Nothing but blanks may be left. -/
def expectEnd (c : Cursor) : Except ParseError Unit :=
  let c' := c.skipWhile Text.isBlank
  match c'.rest with
  | [] => .ok ()
  | found :: _ => .error (.unexpectedCharacter found c'.column)

-- The equations named in the matches are for the termination proof.
set_option linter.unusedVariables false in
/-- The commands after the first: each one follows a `|`, with blanks on either side. -/
def readStages (c : Cursor) : Except ParseError (List Command × Cursor) :=
  let c₁ := c.skipWhile Text.isBlank
  match hc : c₁.rest with
  | '|' :: rest =>
    match hr : readCommand (Cursor.skipWhile Text.isBlank ⟨c₁.column + 1, rest⟩) with
    | .error e => .error e
    | .ok (cmd, c₂) =>
      match readStages c₂ with
      | .error e => .error e
      | .ok (cmds, c₃) => .ok (cmd :: cmds, c₃)
  | _ => .ok ([], c)
termination_by c.rest.length
decreasing_by
  have h1 := readCommand_length_le hr
  have h2 := Cursor.skipWhile_length_le Text.isBlank ⟨c₁.column + 1, rest⟩
  have h3 := Cursor.skipWhile_length_le Text.isBlank c
  simp only [c₁] at hc
  simp only [hc, List.length_cons] at h3
  simp only at h2
  omega

/-- The whole line as a pipeline. -/
def readPipeline (line : Text) : Except ParseError (List Command) :=
  match readCommand ((Cursor.start line).skipWhile Text.isBlank) with
  | .error e => .error e
  | .ok (cmd, c) =>
    match readStages c with
    | .error e => .error e
    | .ok (cmds, c') =>
      match expectEnd c' with
      | .error e => .error e
      | .ok () => .ok (cmd :: cmds)

/-- A variable name. -/
def readIdentifier (c : Cursor) : Except ParseError (Text × Cursor) :=
  match c.rest with
  | [] => .error (.missingCommandName c.column)
  | found :: _ =>
    if Text.isNameStart found then .ok (c.run Text.isNameChar, c.skipWhile Text.isNameChar)
    else .error (.unexpectedCharacter found c.column)

/-- The whole line as an assignment. -/
def readAssignment (line : Text) : Except ParseError (Text × Word) :=
  match readIdentifier ((Cursor.start line).skipWhile Text.isBlank) with
  | .error e => .error e
  | .ok (name, c) =>
    match c.rest with
    | [] => .error (.missingValue name)
    | found :: rest =>
      if found ≠ '=' then .error (.unexpectedCharacter found c.column)
      else match readFragments ⟨c.column + 1, rest⟩ with
        | .error e => .error e
        | .ok ([], _) => .error (.missingValue name)
        | .ok (f :: fs, c') =>
          match expectEnd c' with
          | .error e => .error e
          | .ok () => .ok (name, ⟨f :: fs⟩)

/-- The line begins, after its blanks, with a name and `=`. -/
def looksLikeAssignment (line : Text) : Bool :=
  match line.dropWhile Text.isBlank with
  | [] => false
  | c :: rest => Text.isNameStart c && rest.find? (!Text.isNameChar ·) == some '='

/-- Read a line, of which all references have been replaced. -/
def parse (line : Text) : Except ParseError Line :=
  match readAssignment line with
  | .ok (name, value) => .ok (.assignment name value)
  | .error fault =>
    match readPipeline line with
    | .ok commands => .ok (.pipeline commands)
    | .error e => .error (if looksLikeAssignment line then fault else e)

end Line

end CommandShell
