import CommandShell.Text.Number

/-!
# Numbers in scripts

Numbers are machine words of 64 bits.  They are read with blanks and a sign before them, in
decimal notation or, where the base is left open, in the notation that their first digits
show.  What is too large counts as the largest word there is.
-/

namespace CommandShell.Script

/-- The blanks of the basic character set. -/
def isSpace (c : Char) : Bool :=
  c == ' ' || ('\t' ≤ c && c ≤ '\r')

/-- The value of a digit in the notations with up to sixteen digits. -/
def hexValue? (c : Char) : Option Nat :=
  if '0' ≤ c && c ≤ '9' then some (c.toNat - 48)
  else if 'a' ≤ c && c ≤ 'f' then some (c.toNat - 87)
  else if 'A' ≤ c && c ≤ 'F' then some (c.toNat - 55)
  else none

/-- The character is a digit of a notation. -/
def isDigitOf (base : Nat) (c : Char) : Bool :=
  (hexValue? c).any (· < base)

/-- The number that digits of a notation make. -/
def digitsValue (base : Nat) (t : Text) : Nat :=
  t.foldl (fun n c => base * n + (hexValue? c).getD 0) 0

/-- The notation that the first digits of a text show, and the digits after them. -/
def baseOf (t : Text) : Nat × Text :=
  match t with
  | '0' :: x :: c :: rest =>
    if (x == 'x' || x == 'X') && isDigitOf 16 c then (16, c :: rest)
    else if (x == 'b' || x == 'B') && isDigitOf 2 c then (2, c :: rest)
    else (8, t)
  | '0' :: _ => (8, t)
  | _ => (10, t)

/-- A number at the beginning of a text. -/
structure Numeral where
  negative : Bool
  magnitude : Nat
  /-- The text after the number, or the whole text if there is no number. -/
  rest : Text
  /-- There is a number. -/
  found : Bool
deriving Repr, DecidableEq

/-- The number at the beginning of a text, in decimal notation or an open one. -/
def Numeral.read (anyBase : Bool) (t : Text) : Numeral :=
  let body := t.dropWhile isSpace
  let (negative, body) := match body with
    | '-' :: rest => (true, rest)
    | '+' :: rest => (false, rest)
    | _ => (false, body)
  let (base, body) := if anyBase then baseOf body else (10, body)
  let digits := body.takeWhile (isDigitOf base)
  if digits.isEmpty then ⟨false, 0, t, false⟩
  else ⟨negative, digitsValue base digits, body.drop digits.length, true⟩

/-- The signed words lie below this, and not below its negative. -/
def signedLimit : Nat := 9223372036854775808

/-- An integer as the signed word with the same lowest 64 bits. -/
def wrap (n : Int) : Int :=
  (n + signedLimit) % Text.wordLimit - signedLimit

namespace Numeral

/-- The number does not fit a signed word. -/
def overflowsSigned (n : Numeral) : Bool :=
  if n.negative then signedLimit < n.magnitude else signedLimit ≤ n.magnitude

/-- The number as a signed word. -/
def signed (n : Numeral) : Int :=
  if n.overflowsSigned then (if n.negative then -signedLimit else signedLimit - 1)
  else if n.negative then -n.magnitude else n.magnitude

/-- The number does not fit an unsigned word. -/
def overflowsUnsigned (n : Numeral) : Bool :=
  Text.wordLimit ≤ n.magnitude

/-- The number as an unsigned word, of which the negative of a number wraps around. -/
def unsigned (n : Numeral) : Nat :=
  if n.overflowsUnsigned then Text.wordLimit - 1
  else if n.negative then (Text.wordLimit - n.magnitude) % Text.wordLimit
  else n.magnitude

end Numeral

/-- The signed word that a text is, with blanks around it. -/
def integer? (t : Text) : Option Int :=
  let n := Numeral.read false t
  if !n.found || n.overflowsSigned || !n.rest.all isSpace then none else some n.signed

/-- The signed word that the value of a variable is, with blanks around it.  A blank text is
zero. -/
def integerOrBlank? (t : Text) : Option Int :=
  let n := Numeral.read true t
  if n.overflowsSigned || !n.rest.all isSpace then none else some n.signed

/-- The number that a text is, if it is not negative and fits 31 bits. -/
def count? (t : Text) : Option Nat :=
  match integer? t with
  | some (.ofNat n) => if n < 2147483648 then some n else none
  | _ => none

end CommandShell.Script
