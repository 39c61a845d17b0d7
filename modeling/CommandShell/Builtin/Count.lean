import CommandShell.Text.Utf8

/-!
# Counting

The lines, words and bytes of a text.  A last line without a line end counts as a line, and
words are what blanks of all scripts separate.
-/

namespace CommandShell

/-- The numbers of lines, words and bytes of a text. -/
structure Count where
  lines : Nat
  words : Nat
  bytes : Nat
deriving Repr, DecidableEq

namespace Count

/-- The numbers of a text. -/
def ofText (t : Text) : Count :=
  ⟨(Text.linesWithEnds t).length, (Text.words t).length, Utf8.size t⟩

/-- The numbers with a space between each two. -/
def render (c : Count) : Text :=
  Text.ofNat c.lines ++ ' ' :: Text.ofNat c.words ++ ' ' :: Text.ofNat c.bytes

end Count

end CommandShell
