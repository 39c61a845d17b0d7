import CommandShell.Text.Basic

/-!
# UTF-8

The bytes of a text and the text of bytes.  A first byte says how many bytes follow and
between which bounds each of them lies; the bounds exclude overlong forms, surrogates and
values above the last scalar value, so what fits is a character.

Bytes that are no text are read in two ways: `decode?` refuses them, and `decodeLossy`
puts the replacement character for every longest part that begins a character without
completing it, and for every byte that begins none.
-/

namespace CommandShell.Utf8

/-- The bytes of a text. -/
def encode (t : Text) : List UInt8 :=
  t.flatMap String.utf8EncodeChar

/-- The number of bytes of a text. -/
def size (t : Text) : Nat :=
  (encode t).length

/-- The character put in place of bytes that are no text. -/
def replacement : Char := '\uFFFD'

/-- The bounds of a byte that continues a character. -/
def continuation : UInt8 × UInt8 := (0x80, 0xBF)

/-- The bounds of the bytes that follow a first byte, if it is one. -/
def bounds? (b : UInt8) : Option (List (UInt8 × UInt8)) :=
  if b < 0x80 then some []
  else if b < 0xC2 then none
  else if b < 0xE0 then some [continuation]
  else if b = 0xE0 then some [(0xA0, 0xBF), continuation]
  else if b = 0xED then some [(0x80, 0x9F), continuation]
  else if b < 0xF0 then some [continuation, continuation]
  else if b = 0xF0 then some [(0x90, 0xBF), continuation, continuation]
  else if b < 0xF4 then some [continuation, continuation, continuation]
  else if b = 0xF4 then some [(0x80, 0x8F), continuation, continuation]
  else none

/-- What a first byte contributes to a character of the given number of bytes. -/
def firstBits (b : UInt8) : Nat → Nat
  | 0 => b.toNat
  | 1 => b.toNat % 32
  | 2 => b.toNat % 16
  | _ => b.toNat % 8

/-- Follow the bounds as far as the bytes fit.  The result has the value read so far with
six bits added for each byte, unless a byte is out of bounds or missing, and the bytes
left. -/
def follow : List (UInt8 × UInt8) → Nat → List UInt8 → Option Nat × List UInt8
  | [], value, bytes => (some value, bytes)
  | _ :: _, _, [] => (none, [])
  | (low, high) :: bs, value, b :: bytes =>
    if low ≤ b ∧ b ≤ high then follow bs (64 * value + b.toNat % 64) bytes
    else (none, b :: bytes)

theorem follow_length_le (bs : List (UInt8 × UInt8)) (value : Nat) (bytes : List UInt8) :
    (follow bs value bytes).2.length ≤ bytes.length := by
  induction bytes generalizing bs value with
  | nil => cases bs <;> simp [follow]
  | cons b rest ih =>
    match bs with
    | [] => simp [follow]
    | (low, high) :: bs =>
      unfold follow
      split
      · exact Nat.le_succ_of_le (ih bs _)
      · exact Nat.le_refl _

/-- The character that starts with a byte, unless it is none, and the bytes left. -/
def step (b : UInt8) (bytes : List UInt8) : Option Char × List UInt8 :=
  match bounds? b with
  | none => (none, bytes)
  | some bs =>
    let (value, rest) := follow bs (firstBits b bs.length) bytes
    (value.map Char.ofNat, rest)

theorem step_length_le (b : UInt8) (bytes : List UInt8) :
    (step b bytes).2.length ≤ bytes.length := by
  unfold step
  split
  · exact Nat.le_refl _
  · exact follow_length_le _ _ _

/-- The characters and faults of bytes, in their order. -/
def steps : List UInt8 → List (Option Char)
  | [] => []
  | b :: bytes => (step b bytes).1 :: steps (step b bytes).2
termination_by bytes => bytes.length
decreasing_by exact Nat.lt_succ_of_le (step_length_le b bytes)

/-- The text of bytes, if they are one. -/
def decode? (bytes : List UInt8) : Option Text :=
  (steps bytes).mapM id

/-- The text of bytes, with the replacement character for what is none. -/
def decodeLossy (bytes : List UInt8) : Text :=
  (steps bytes).map (·.getD replacement)

end CommandShell.Utf8
