import CommandShell.Script.Number

/-!
# Binary fractions

Numbers with a fraction are kept as machines keep them: 53 binary digits and an exponent.  A
decimal number is rounded to the nearest of them, to the even one of two; printing is exact
and rounds the same way.
-/

namespace CommandShell.Script

/-- A number with a fraction. -/
inductive Real where
  /-- `mantissa * 2 ^ exponent`, possibly negative. -/
  | finite (negative : Bool) (mantissa : Nat) (exponent : Int)
  | infinite (negative : Bool)
  | undefined (negative : Bool)
deriving Repr, DecidableEq

namespace Real

/-- The integer nearest to a quotient, the even one of two. -/
def roundDiv (a b : Nat) : Nat :=
  let q := a / b
  let r := 2 * (a % b)
  if r < b then q else if b < r then q + 1 else q + q % 2

/-- A power with an exponent that may be negative, as a numerator and a denominator. -/
def powPair (base : Nat) (e : Int) : Nat × Nat :=
  match e with
  | .ofNat n => (base.pow n, 1)
  | .negSucc n => (1, base.pow (n + 1))

/-- The mantissa of a quotient for an exponent. -/
def mantissaAt (a b : Nat) (e : Int) : Nat :=
  let (p, q) := powPair 2 e
  roundDiv (a * q) (b * p)

/-- The number nearest to a quotient. -/
def ofQuotient (negative : Bool) (a b : Nat) : Real :=
  if a = 0 then .finite negative 0 0
  else
    let e : Int := (Nat.log2 a : Int) - Nat.log2 b - 52
    -- The quotient has 53 digits before the point, or one less.
    let (p, q) := powPair 2 e
    let e := if a * q < b * p * Nat.pow 2 52 then e - 1 else e
    let e := max e (-1074)
    let m := mantissaAt a b e
    let (m, e) := if m = Nat.pow 2 53 then (Nat.pow 2 52, e + 1) else (m, e)
    if 971 < e then .infinite negative else .finite negative m e

/-- The number nearest to `digits * 10 ^ exponent`. -/
def ofDecimal (negative : Bool) (digits : Nat) (exponent : Int) : Real :=
  let magnitude : Int := (Nat.toDigits 10 digits).length + exponent
  if digits = 0 || magnitude < -400 then .finite negative 0 0
  else if 400 < magnitude then .infinite negative
  else
    let (p, q) := powPair 10 exponent
    ofQuotient negative (digits * p) q

/-- The exponent at the beginning of a text, after one of the given letters, and the text after
it. -/
def readExponent (letters : List Char) (t : Text) : Int × Text :=
  match t with
  | e :: rest =>
    let n := Numeral.read false rest
    if letters.contains e && n.found && !rest.head?.any isSpace then
      let value : Int := min n.magnitude 100000
      (if n.negative then -value else value, n.rest)
    else (0, t)
  | [] => (0, t)

/-- The number at the beginning of a text, and the text after it.  If there is none, the whole
text is left. -/
def read (t : Text) : Real × Text :=
  let body := t.dropWhile isSpace
  let (negative, body) := match body with
    | '-' :: rest => (true, rest)
    | '+' :: rest => (false, rest)
    | _ => (false, body)
  let word (w : String) : Bool := w.toList.isPrefixOf (body.map Char.toLower)
  if word "infinity" then (.infinite negative, body.drop 8)
  else if word "inf" then (.infinite negative, body.drop 3)
  else if word "nan" then (.undefined negative, body.drop 3)
  else
    let isHex := word "0x" && (isDigitOf 16 ((body.drop 2).headD ' ') ||
      ((body.drop 2).head? == some '.' && isDigitOf 16 ((body.drop 3).headD ' ')))
    let base := if isHex then 16 else 10
    let body := if isHex then body.drop 2 else body
    let whole := body.takeWhile (isDigitOf base)
    let rest := body.drop whole.length
    let (fraction, rest) := match rest with
      | '.' :: after =>
        let digits := after.takeWhile (isDigitOf base)
        if whole.isEmpty && digits.isEmpty then ([], rest)
        else (digits, after.drop digits.length)
      | _ => ([], rest)
    if whole.isEmpty && fraction.isEmpty then (.finite false 0 0, t)
    else if isHex then
      let (e, rest) := readExponent ['p', 'P'] rest
      let (p, q) := powPair 2 (e - 4 * fraction.length)
      (ofQuotient negative (digitsValue 16 (whole ++ fraction) * p) q, rest)
    else
      let (e, rest) := readExponent ['e', 'E'] rest
      (ofDecimal negative (digitsValue 10 (whole ++ fraction)) (e - fraction.length), rest)

/-! ### Printing -/

/-- Digits with a point before the given number of them. -/
def withPoint (alternate : Bool) (places n : Nat) : Text :=
  let digits := Text.ofNat n
  let digits := List.replicate (places + 1 - digits.length) '0' ++ digits
  let whole := digits.take (digits.length - places)
  let fraction := digits.drop (digits.length - places)
  if places = 0 then (if alternate then whole ++ ['.'] else whole) else whole ++ '.' :: fraction

/-- A number without its sign, with a number of digits after the point. -/
def fixed (alternate : Bool) (places : Nat) (m : Nat) (e : Int) : Text :=
  let (p, q) := powPair 2 e
  withPoint alternate places (roundDiv (m * p * Nat.pow 10 places) q)

/-- A number that is not zero, with a number of digits after the first: the digits, and the
power of ten of the first. -/
def scientificDigits (places m : Nat) (e : Int) : Nat × Int :=
  let (p, q) := powPair 2 e
  let a := m * p
  -- The power is close to the difference of the lengths.
  let guess : Int := ((Text.ofNat a).length : Int) - (Text.ofNat q).length
  let (gp, gq) := powPair 10 guess
  let power := if a * gq < q * gp then guess - 1 else guess
  let (sp, sq) := powPair 10 (power - places)
  let n := roundDiv (a * sq) (q * sp)
  if n = Nat.pow 10 (places + 1) then (Nat.pow 10 places, power + 1) else (n, power)

/-- A power of ten as it is written behind a number. -/
def exponentText (letter : Char) (power : Int) : Text :=
  let digits := Text.ofNat power.natAbs
  let digits := if digits.length < 2 then '0' :: digits else digits
  [letter, if power < 0 then '-' else '+'] ++ digits

/-- A number without its sign, in scientific form. -/
def scientific (alternate : Bool) (letter : Char) (places m : Nat) (e : Int) : Text :=
  let (n, power) := if m = 0 then (0, 0) else scientificDigits places m e
  withPoint alternate places n ++ exponentText letter power

/-- A fraction without the zeros at its end. -/
def trimZeros (t : Text) : Text :=
  if t.contains '.' then
    let t := (t.reverse.dropWhile (· == '0')).reverse
    if t.getLast? == some '.' then t.dropLast else t
  else t

/-- A number without its sign, in the shorter of both forms. -/
def general (alternate : Bool) (letter : Char) (precision m : Nat) (e : Int) : Text :=
  let digits := max precision 1
  let power := if m = 0 then 0 else (scientificDigits (digits - 1) m e).2
  if -4 ≤ power && power < digits then
    let t := fixed alternate (digits - 1 - power).toNat m e
    if alternate then t else trimZeros t
  else
    let (n, power) := scientificDigits (digits - 1) m e
    let t := withPoint alternate (digits - 1) n
    (if alternate then t else trimZeros t) ++ exponentText letter power

/-- A number without its sign, in binary notation with digits of base sixteen: one before the
point, and as many after it as are asked for, or as it takes. -/
def hexadecimal (alternate : Bool) (precision : Option Nat) (m : Nat) (e : Int) : Text :=
  -- A number too small for 53 digits has a zero before the point.
  let shift := if e = -1074 then 0 else 52 - Nat.log2 m
  let power := if m = 0 then 0 else e - shift + 52
  let whole := m * Nat.pow 2 shift
  let places := min 13 (precision.getD 13)
  let kept := roundDiv whole (Nat.pow 16 (13 - places))
  let digits := Nat.toDigits 16 (kept % Nat.pow 16 places)
  let digits := if places = 0 then []
    else List.replicate (places - digits.length) '0' ++ digits
  let digits := match precision with
    | some n => digits ++ List.replicate (n - 13) '0'
    | none => (digits.reverse.dropWhile (· == '0')).reverse
  Nat.toDigits 16 (kept / Nat.pow 16 places) ++
    (if digits.isEmpty && !alternate then [] else '.' :: digits) ++
    ['p', if power < 0 then '-' else '+'] ++ Text.ofNat power.natAbs

/-- The number is below zero, or is the zero below zero. -/
def isNegative : Real → Bool
  | .finite negative _ _ => negative
  | .infinite negative => negative
  | .undefined negative => negative

/-- What stands between the sign and the digits. -/
def mark (conversion : Char) : Real → Text
  | .finite _ _ _ =>
    match conversion with
    | 'a' => "0x".toList
    | 'A' => "0X".toList
    | _ => []
  | _ => []

/-- A number without its sign and its mark, as a conversion asks for it. -/
def render (conversion : Char) (alternate : Bool) (precision : Option Nat) : Real → Text
  | .infinite _ => if conversion.isUpper then "INF".toList else "inf".toList
  | .undefined _ => if conversion.isUpper then "NAN".toList else "nan".toList
  | .finite _ m e =>
    let places := precision.getD 6
    match conversion with
    | 'e' => scientific alternate 'e' places m e
    | 'E' => scientific alternate 'E' places m e
    | 'g' => general alternate 'e' places m e
    | 'G' => general alternate 'E' places m e
    | 'a' => hexadecimal alternate precision m e
    | 'A' => (hexadecimal alternate precision m e).map Char.toUpper
    | _ => fixed alternate places m e

end Real

end CommandShell.Script
