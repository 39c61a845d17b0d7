/-!
# Texts

A text is the list of its characters, each one a Unicode scalar value.  Lines,
words, variable values and the contents that flow through a pipeline are all texts;
a column of a line is the position of a character counted from one.

The character classes below are the ones the syntax of a line is made of: blanks,
the characters of a variable name, and the characters of a command name.
-/

namespace CommandShell

/-- A text is the list of its characters. -/
abbrev Text := List Char

namespace Text

/-! ### Character classes -/

/-- The characters with the Unicode property `White_Space`. -/
def isBlank (c : Char) : Bool :=
  let n := c.toNat
  (9 ≤ n && n ≤ 13) || n == 0x20 || n == 0x85 || n == 0xA0 || n == 0x1680 ||
    (0x2000 ≤ n && n ≤ 0x200A) || n == 0x2028 || n == 0x2029 || n == 0x202F ||
    n == 0x205F || n == 0x3000

/-- A letter of the Latin alphabet without marks. -/
def isLetter (c : Char) : Bool :=
  ('a' ≤ c && c ≤ 'z') || ('A' ≤ c && c ≤ 'Z')

/-- A decimal digit `0` to `9`. -/
def isDigit (c : Char) : Bool :=
  '0' ≤ c && c ≤ '9'

/-- The characters that may start a variable name. -/
def isNameStart (c : Char) : Bool :=
  isLetter c || c == '_'

/-- The characters that may continue a variable name. -/
def isNameChar (c : Char) : Bool :=
  isLetter c || isDigit c || c == '_'

/-- The characters of a command name. -/
def isCommandChar (c : Char) : Bool :=
  isLetter c || isDigit c || c == '_' || c == '.' || c == '/' || c == '-'

/-- The characters that stand for themselves in a word without quotes. -/
def isBare (c : Char) : Bool :=
  !isBlank c && c != '\'' && c != '"' && c != '|'

theorem isNameChar_of_isNameStart {c : Char} (h : isNameStart c = true) :
    isNameChar c = true := by
  simp only [isNameStart, isNameChar, Bool.or_eq_true] at h ⊢
  rcases h with h | h
  · exact Or.inl (Or.inl h)
  · exact Or.inr h

/-! ### Cutting and joining -/

/-- The words of a text: its maximal runs of characters that are not blank. -/
def words : Text → List Text
  | [] => []
  | c :: rest =>
    if isBlank c then words rest
    else match rest.head?.any (!isBlank ·), words rest with
      | true, w :: ws => (c :: w) :: ws
      | _, ws => [c] :: ws

/-- The text without the blanks it ends with. -/
def trimEnd (t : Text) : Text :=
  (t.reverse.dropWhile isBlank).reverse

/-- A text of blanks only. -/
def isBlankText (t : Text) : Bool :=
  t.all isBlank

/-- The text with a line end after it. -/
def line (t : Text) : Text :=
  t ++ ['\n']

/-- Texts, or strings of another kind, one after the other with the separator between each two. -/
def joinWith {α : Type} (separator : List α) : List (List α) → List α
  | [] => []
  | [t] => t
  | t :: u :: rest => t ++ separator ++ joinWith separator (u :: rest)

/-- The pieces between the occurrences of a character.  There is always at least one. -/
def pieces {α : Type} [DecidableEq α] (separator : α) : List α → List (List α)
  | [] => [[]]
  | c :: rest =>
    if c = separator then [] :: pieces separator rest
    else match pieces separator rest with
      | [] => [[c]]
      | p :: ps => (c :: p) :: ps

/-- The lines of a text, each with the line end it has.  Only the last may lack one. -/
def linesWithEnds : Text → List Text
  | [] => []
  | c :: rest =>
    if c = '\n' then ['\n'] :: linesWithEnds rest
    else match linesWithEnds rest with
      | [] => [[c]]
      | l :: ls => (c :: l) :: ls

@[simp] theorem flatten_linesWithEnds (t : Text) : (linesWithEnds t).flatten = t := by
  induction t with
  | nil => rfl
  | cons c rest ih =>
    unfold linesWithEnds
    split
    · next h => simp [ih, h]
    · cases hr : linesWithEnds rest with
      | nil => rw [hr] at ih; simp [← ih]
      | cons l ls => rw [hr] at ih; simp [← ih]

/-! ### Order -/

/-- Texts in the order of a dictionary over scalar values, not strict. -/
def le : Text → Text → Bool
  | [], _ => true
  | _ :: _, [] => false
  | c :: t, d :: u => if c = d then le t u else c.toNat < d.toNat

/-! ### Numbers -/

/-- The decimal digits of a number. -/
def ofNat (n : Nat) : Text :=
  Nat.toDigits 10 n

/-- The decimal digits of an integer, with a minus sign where it is negative. -/
def ofInt : Int → Text
  | .ofNat n => ofNat n
  | .negSucc n => '-' :: ofNat (n + 1)

end Text

end CommandShell
