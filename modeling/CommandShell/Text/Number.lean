import CommandShell.Text.Basic

/-!
# Numbers in a text

Reading an unsigned number that has to fit a machine word.  The digits are taken from
left to right, so the first of the two faults wins: a character that is no digit, or a
value that has become too large.
-/

namespace CommandShell

/-- Why a text is not an unsigned number of 64 bits. -/
inductive NumberError where
  | empty
  | invalidDigit
  | tooLarge
deriving Repr, DecidableEq

/-- The wording of a fault of a number. -/
def NumberError.message : NumberError → Text
  | .empty => "cannot parse integer from empty string".toList
  | .invalidDigit => "invalid digit found in string".toList
  | .tooLarge => "number too large to fit in target type".toList

namespace Text

/-- Unsigned machine words of 64 bits lie below this. -/
def wordLimit : Nat := 18446744073709551616

/-- The value of a decimal digit. -/
def digitValue (c : Char) : Nat :=
  c.toNat - '0'.toNat

/-- Read on: the number that the given digits make after a value read so far. -/
def readDigits : Nat → Text → Except NumberError Nat
  | value, [] => .ok value
  | value, c :: rest =>
    if !isDigit c then .error .invalidDigit
    else if wordLimit ≤ 10 * value + digitValue c then .error .tooLarge
    else readDigits (10 * value + digitValue c) rest

/-- Read an unsigned number, which may have a leading `+`. -/
def readWord : Text → Except NumberError Nat
  | [] => .error .empty
  | ['+'] => .error .invalidDigit
  | '+' :: rest => readDigits 0 rest
  | t => readDigits 0 t

end Text

end CommandShell
