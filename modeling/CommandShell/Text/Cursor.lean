import CommandShell.Text.Basic

/-!
# Cursors

A cursor is a place in a line: the column of the next character, counted from one,
and the characters from there on.  Every reader of a line moves a cursor forward, so
a fault can name the column it was found at, and "what is left became shorter" is the
measure by which the readers terminate.
-/

namespace CommandShell

/-- A place in a line. -/
structure Cursor where
  /-- The column of the next character. -/
  column : Nat
  /-- The characters that are left. -/
  rest : Text
deriving Repr, DecidableEq

namespace Cursor

/-- The place before the first character. -/
def start (line : Text) : Cursor :=
  ⟨1, line⟩

/-- The next character, if there is one. -/
def peek? (c : Cursor) : Option Char :=
  c.rest.head?

/-- The place after the next character. -/
def skip (c : Cursor) : Cursor :=
  match c.rest with
  | [] => c
  | _ :: rest => ⟨c.column + 1, rest⟩

/-- The longest run of characters of a class from here on. -/
def run (keep : Char → Bool) (c : Cursor) : Text :=
  c.rest.takeWhile keep

/-- The place after the longest run of characters of a class. -/
def skipWhile (keep : Char → Bool) (c : Cursor) : Cursor :=
  ⟨c.column + (c.run keep).length, c.rest.dropWhile keep⟩

theorem length_dropWhile_le (keep : Char → Bool) (t : Text) :
    (t.dropWhile keep).length ≤ t.length :=
  (List.dropWhile_suffix keep).length_le

theorem skipWhile_length_le (keep : Char → Bool) (c : Cursor) :
    (c.skipWhile keep).rest.length ≤ c.rest.length :=
  length_dropWhile_le keep c.rest

theorem run_append_skipWhile (keep : Char → Bool) (c : Cursor) :
    c.run keep ++ (c.skipWhile keep).rest = c.rest :=
  List.takeWhile_append_dropWhile

theorem run_ne_nil {keep : Char → Bool} {c : Cursor} {d : Char} {rest : Text}
    (hc : c.rest = d :: rest) (hd : keep d = true) : c.run keep ≠ [] := by
  simp [run, hc, hd]

/-- A run that is not empty leaves less. -/
theorem skipWhile_length_lt {keep : Char → Bool} {c : Cursor} (h : c.run keep ≠ []) :
    (c.skipWhile keep).rest.length < c.rest.length := by
  have hl := congrArg List.length (run_append_skipWhile keep c)
  have hp : 0 < (c.run keep).length := List.length_pos_iff.mpr h
  simp only [List.length_append] at hl
  omega

end Cursor

end CommandShell
