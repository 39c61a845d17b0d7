import CommandShell.Text.Cursor

/-!
# Regions of a line

A raw line falls into regions: text without quotes, the contents of `'...'`, the
contents of `"..."`, and references `$name`.  A reference also counts inside double
quotes, where the apostrophe is an ordinary character; inside single quotes nothing
counts but the closing quote.

`Region.scan` cuts a line into its regions and `Region.render` writes them back.  The
scan takes the longest run at every step: a name ends at the first character that
cannot continue it, and plain text at the first quote or dollar sign.
-/

namespace CommandShell

/-- What a double quoted region is made of. -/
inductive Piece where
  /-- Text that stands for itself. -/
  | plain (text : Text)
  /-- A reference `$name`. -/
  | reference (name : Text)
deriving Repr, DecidableEq

/-- A region of a raw line. -/
inductive Region where
  /-- Text outside of quotes, without `$`, `'` and `"`. -/
  | plain (text : Text)
  /-- The contents of `'...'`, which are never expanded. -/
  | single (text : Text)
  /-- The contents of `"..."`. -/
  | double (inner : List Piece)
  /-- A reference `$name` outside of quotes. -/
  | reference (name : Text)
deriving Repr, DecidableEq

/-- Why a line cannot be cut into regions. -/
inductive ScanError where
  /-- A quote opened at this column is never closed. -/
  | unfinishedQuote (quote : Char) (column : Nat)
  /-- The `$` at this column is not followed by a name. -/
  | invalidVariable (column : Nat)
deriving Repr, DecidableEq

/-- The wording of a fault of the scan. -/
def ScanError.message : ScanError → Text
  | .unfinishedQuote quote column =>
    "substitution: unterminated ".toList ++ quote :: " quote starting at column ".toList ++
      Text.ofNat column
  | .invalidVariable column =>
    "substitution: `$` at column ".toList ++ Text.ofNat column ++
      " is not followed by a variable name".toList

/-! ### Writing regions -/

namespace Piece

/-- A piece as it is written in a line. -/
def render : Piece → Text
  | plain text => text
  | reference name => '$' :: name

/-- A piece with the reference replaced by its value. -/
def expand (value : Text → Text) : Piece → Text
  | plain text => text
  | reference name => value name

end Piece

namespace Region

/-- A region as it is written in a line. -/
def render : Region → Text
  | plain text => text
  | single text => '\'' :: text ++ ['\'']
  | double inner => '"' :: inner.flatMap Piece.render ++ ['"']
  | reference name => '$' :: name

/-- A region with its references replaced by their values.  Quotes are kept. -/
def expand (value : Text → Text) : Region → Text
  | plain text => text
  | single text => '\'' :: text ++ ['\'']
  | double inner => '"' :: inner.flatMap (Piece.expand value) ++ ['"']
  | reference name => value name

/-! ### Cutting a line -/

/-- Plain text outside of quotes ends before these. -/
def isPlain (c : Char) : Bool :=
  c != '$' && c != '\'' && c != '"'

/-- Plain text inside double quotes ends before these. -/
def isPlainQuoted (c : Char) : Bool :=
  c != '$' && c != '"'

/-- The name after a dollar sign at `dollar`, with the place after the name. -/
def scanName (dollar : Nat) (c : Cursor) : Except ScanError (Text × Cursor) :=
  match c.rest with
  | [] => .error (.invalidVariable dollar)
  | d :: _ =>
    if Text.isNameStart d then .ok (c.run Text.isNameChar, c.skipWhile Text.isNameChar)
    else .error (.invalidVariable dollar)

theorem scanName_length_le {dollar : Nat} {c c' : Cursor} {name : Text}
    (h : scanName dollar c = .ok (name, c')) : c'.rest.length ≤ c.rest.length := by
  unfold scanName at h
  split at h
  · cases h
  · split at h
    · cases h; exact c.skipWhile_length_le _
    · cases h

-- The equations named in the matches are for the termination proof.
set_option linter.unusedVariables false in
/-- The pieces up to the closing double quote, with the place after it.  The quote was
opened at `opened`. -/
def scanPieces (opened : Nat) (c : Cursor) : Except ScanError (List Piece × Cursor) :=
  match hc : c.rest with
  | [] => .error (.unfinishedQuote '"' opened)
  | d :: rest =>
    if d = '"' then .ok ([], ⟨c.column + 1, rest⟩)
    else if d = '$' then
      match hn : scanName c.column ⟨c.column + 1, rest⟩ with
      | .error e => .error e
      | .ok (name, c') =>
        match scanPieces opened c' with
        | .error e => .error e
        | .ok (ps, c'') => .ok (.reference name :: ps, c'')
    else
      match scanPieces opened (c.skipWhile isPlainQuoted) with
      | .error e => .error e
      | .ok (ps, c') => .ok (.plain (c.run isPlainQuoted) :: ps, c')
termination_by c.rest.length
decreasing_by
  · have := scanName_length_le hn
    simp only at this
    simp only [hc, List.length_cons]
    omega
  · next h1 h2 =>
    exact Cursor.skipWhile_length_lt
      (Cursor.run_ne_nil hc (by simp [isPlainQuoted, h1, h2]))

theorem scanPieces_length_lt {opened : Nat} {c c' : Cursor} {ps : List Piece}
    (h : scanPieces opened c = .ok (ps, c')) : c'.rest.length < c.rest.length := by
  fun_induction scanPieces opened c generalizing ps c' with
  | case1 => cases h
  | case2 c rest hc => cases h; simp [hc]
  | case3 => cases h
  | case4 => cases h
  | case5 c rest name c₁ hn ps₁ c₂ hs hc _ ih =>
    cases h
    have h1 := ih hs
    have h2 := scanName_length_le hn
    simp only at h2
    simp only [hc, List.length_cons]
    omega
  | case6 => cases h
  | case7 c d rest hc h1 h2 ps₁ c₁ hs ih =>
    cases h
    exact Nat.lt_of_lt_of_le (ih hs) (c.skipWhile_length_le _)

-- The equations named in the matches are for the termination proof.
set_option linter.unusedVariables false in
/-- The regions from a place on. -/
def scanFrom (c : Cursor) : Except ScanError (List Region) :=
  match hc : c.rest with
  | [] => .ok []
  | d :: rest =>
    let c₁ : Cursor := ⟨c.column + 1, rest⟩
    if d = '\'' then
      match hq : (c₁.skipWhile (· != '\'')).rest with
      | [] => .error (.unfinishedQuote '\'' c.column)
      | _ :: _ =>
        match scanFrom (c₁.skipWhile (· != '\'')).skip with
        | .error e => .error e
        | .ok rs => .ok (.single (c₁.run (· != '\'')) :: rs)
    else if d = '"' then
      match hp : scanPieces c.column c₁ with
      | .error e => .error e
      | .ok (ps, c₂) =>
        match scanFrom c₂ with
        | .error e => .error e
        | .ok rs => .ok (.double ps :: rs)
    else if d = '$' then
      match hn : scanName c.column c₁ with
      | .error e => .error e
      | .ok (name, c₂) =>
        match scanFrom c₂ with
        | .error e => .error e
        | .ok rs => .ok (.reference name :: rs)
    else
      match scanFrom (c.skipWhile isPlain) with
      | .error e => .error e
      | .ok rs => .ok (.plain (c.run isPlain) :: rs)
termination_by c.rest.length
decreasing_by
  · have := c₁.skipWhile_length_le (· != '\'')
    simp only [Cursor.skip, hq, List.length_cons, hc, c₁] at this ⊢
    omega
  · have := scanPieces_length_lt hp
    simp only [hc, List.length_cons, c₁] at this ⊢
    omega
  · have := scanName_length_le hn
    simp only [hc, List.length_cons, c₁] at this ⊢
    omega
  · next h1 h2 h3 =>
    exact Cursor.skipWhile_length_lt
      (Cursor.run_ne_nil hc (by simp [isPlain, h1, h2, h3]))

/-- The regions of a line. -/
def scan (line : Text) : Except ScanError (List Region) :=
  scanFrom (Cursor.start line)

end Region

/-- The line with every reference outside of single quotes replaced by its value.  Quotes
and spacing stay as they are. -/
def substitute (value : Text → Text) (line : Text) : Except ScanError Text :=
  (Region.scan line).map (·.flatMap (Region.expand value))

end CommandShell
