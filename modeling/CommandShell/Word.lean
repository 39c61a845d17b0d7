import CommandShell.Text.Basic

/-!
# Words

A word is a run of adjacent fragments, such as `ab"cd"'ef'`, each with the quotes it was
written in.  It has two readings: its contents, with the quotes removed, and the text as
it was written.
-/

namespace CommandShell

/-- One part of a word, with the quotes around it. -/
inductive Fragment where
  /-- A run without blanks, quotes and `|`. -/
  | bare (text : Text)
  /-- The contents of `'...'`. -/
  | single (text : Text)
  /-- The contents of `"..."`. -/
  | double (text : Text)
deriving Repr, DecidableEq

namespace Fragment

/-- The text of a fragment without its quotes. -/
def content : Fragment → Text
  | bare text => text
  | single text => text
  | double text => text

/-- A fragment as it is written. -/
def verbatim : Fragment → Text
  | bare text => text
  | single text => '\'' :: text ++ ['\'']
  | double text => '"' :: text ++ ['"']

end Fragment

/-- A word of a line. -/
structure Word where
  fragments : List Fragment
deriving Repr, DecidableEq

namespace Word

/-- The word with its quotes removed. -/
def content (w : Word) : Text :=
  w.fragments.flatMap Fragment.content

/-- The word as it is written. -/
def verbatim (w : Word) : Text :=
  w.fragments.flatMap Fragment.verbatim

end Word

end CommandShell
