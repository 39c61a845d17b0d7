import CommandShell.Script.Real

/-!
# Printing by a format

`printf` prints its arguments by a format, which is used again as long as arguments are left.
An argument that is missing counts as empty or zero; one that is no number is complained about
and counts as far as it is one.

`echo` and the conversion `%b` give backslashes a meaning of their own, of which `\c` ends
everything.
-/

namespace CommandShell.Script.Format

/-! ### Backslashes -/

/-- A digit of an octal number. -/
def isOctal (c : Char) : Bool :=
  '0' ≤ c && c ≤ '7'

/-- What the text after a backslash stands for, and what is left of it.  A character that has
no meaning there is left, and the backslash stands for itself. -/
def escape (t : Text) : Char × Text :=
  match t with
  | [] => ('\\', [])
  | c :: rest =>
    if isOctal c then
      let digits := (t.take 3).takeWhile isOctal
      (Char.ofNat (digitsValue 8 digits % 256), t.drop digits.length)
    else match c with
      | '\\' => ('\\', rest)
      | 'a' => ('\x07', rest)
      | 'b' => ('\x08', rest)
      | 'e' => ('\x1b', rest)
      | 'f' => ('\x0c', rest)
      | 'n' => ('\n', rest)
      | 'r' => ('\r', rest)
      | 't' => ('\t', rest)
      | 'v' => ('\x0b', rest)
      | _ => ('\\', t)

/-- A text with its backslashes replaced, the last character first.  The flag says that `\c`
ended it. -/
def unescapeOnto : Nat → Text → Text → Text × Bool
  | 0, done, _ => (done, false)
  | _, done, [] => (done, false)
  | n + 1, done, '\\' :: rest =>
    match rest with
    | 'c' :: _ => (done, true)
    | '0' :: d :: rest' =>
      let (c, after) := escape (if isOctal d then d :: rest' else rest)
      unescapeOnto n (c :: done) after
    | _ =>
      let (c, after) := escape rest
      unescapeOnto n (c :: done) after
  | n + 1, done, c :: rest => unescapeOnto n (c :: done) rest

/-- A text with its backslashes replaced.  The flag says that `\c` ended it. -/
def unescape (t : Text) : Text × Bool :=
  let (done, ended) := unescapeOnto (t.length + 1) [] t
  (done.reverse, ended)

/-- What `echo` prints. -/
def echo (arguments : List Text) : Text :=
  let (words, bare) := match arguments with
    | ['-', 'n'] :: rest => (rest, true)
    | words => (words, false)
  let (t, ended) := unescape (Text.joinWith [' '] words)
  if bare || ended then t else Text.line t

/-! ### Conversions -/

/-- How a conversion is laid out. -/
structure Layout where
  alternate : Bool
  left : Bool
  plus : Bool
  blank : Bool
  zero : Bool
  width : Nat
  precision : Option Nat
deriving Repr, DecidableEq

/-- A text in a field. -/
def Layout.pad (l : Layout) (t : Text) : Text :=
  let filling := List.replicate (l.width - t.length) ' '
  if l.left then t ++ filling else filling ++ t

/-- A number in a field: what stands before its digits, and the digits. -/
def Layout.padNumber (l : Layout) (zero : Bool) (sign digits : Text) : Text :=
  if zero && !l.left then
    sign ++ List.replicate (l.width - sign.length - digits.length) '0' ++ digits
  else l.pad (sign ++ digits)

/-- The sign of a number. -/
def Layout.sign (l : Layout) (negative : Bool) : Text :=
  if negative then ['-'] else if l.plus then ['+'] else if l.blank then [' '] else []

/-- The digits of a whole number, with zeros before them up to the precision. -/
def Layout.digits (l : Layout) (base n : Nat) : Text :=
  let digits := if n = 0 && l.precision == some 0 then [] else Nat.toDigits base n
  List.replicate (l.precision.getD 1 - digits.length) '0' ++ digits

/-- A signed whole number. -/
def Layout.signed (l : Layout) (n : Int) : Text :=
  l.padNumber (l.zero && l.precision.isNone) (l.sign (n < 0)) (l.digits 10 n.natAbs)

/-- An unsigned whole number. -/
def Layout.unsigned (l : Layout) (conversion : Char) (n : Nat) : Text :=
  let zero := l.zero && l.precision.isNone
  match conversion with
  | 'o' =>
    let digits := l.digits 8 n
    let digits := if l.alternate && digits.head? != some '0' then '0' :: digits else digits
    l.padNumber zero [] digits
  | 'x' => l.padNumber zero (if l.alternate && n ≠ 0 then "0x".toList else []) (l.digits 16 n)
  | 'X' =>
    l.padNumber zero (if l.alternate && n ≠ 0 then "0X".toList else [])
      ((l.digits 16 n).map Char.toUpper)
  | _ => l.padNumber zero [] (l.digits 10 n)

/-- A number with a fraction. -/
def Layout.real (l : Layout) (conversion : Char) (x : Real) : Text :=
  let isFinite := match x with
    | .finite _ _ _ => true
    | _ => false
  l.padNumber (l.zero && isFinite) (l.sign x.isNegative ++ x.mark conversion)
    (x.render conversion l.alternate l.precision)

/-- A text, cut at the precision. -/
def Layout.text (l : Layout) (t : Text) : Text :=
  l.pad (match l.precision with
    | some n => t.take n
    | none => t)

/-! ### Printing -/

/-- What was printed so far. -/
structure State where
  arguments : List Text
  /-- The texts that were printed, the last first. -/
  output : List Text
  warnings : List Text
  /-- Nothing more is printed. -/
  ended : Bool
  /-- The format cannot be used. -/
  fault : Option Text

namespace State

/-- Print a text. -/
def print (s : State) (t : Text) : State :=
  { s with output := t :: s.output }

/-- The next argument. -/
def next (s : State) : Option Text × State :=
  (s.arguments.head?, { s with arguments := s.arguments.tail })

/-- Complain about an argument of which a number was read. -/
def check (s : State) (t rest : Text) (overflow : Bool) : State :=
  let warn (reason : String) : State :=
    { s with warnings := s.warnings ++ [t ++ ": ".toList ++ reason.toList] }
  if !rest.isEmpty then
    warn (if rest.length = t.length then "expected numeric value" else "not completely converted")
  else if overflow then warn "Numerical result out of range"
  else s

/-- The code of a character that an argument names by a quotation mark before it. -/
def quotedCode? (t : Text) : Option Nat :=
  match t with
  | '"' :: rest => some ((rest.head?.map Char.toNat).getD 0)
  | '\'' :: rest => some ((rest.head?.map Char.toNat).getD 0)
  | _ => none

/-- The next argument as a signed number. -/
def nextSigned (s : State) : Int × State :=
  match s.next with
  | (none, s) => (0, s)
  | (some t, s) =>
    match quotedCode? t with
    | some n => (n, s)
    | none =>
      let n := Numeral.read true t
      (n.signed, s.check t n.rest n.overflowsSigned)

/-- The next argument as an unsigned number. -/
def nextUnsigned (s : State) : Nat × State :=
  match s.next with
  | (none, s) => (0, s)
  | (some t, s) =>
    match quotedCode? t with
    | some n => (n, s)
    | none =>
      let n := Numeral.read true t
      (n.unsigned, s.check t n.rest n.overflowsUnsigned)

/-- The next argument as a number with a fraction. -/
def nextReal (s : State) : Real × State :=
  match s.next with
  | (none, s) => (.finite false 0 0, s)
  | (some t, s) =>
    match quotedCode? t with
    | some n => (.ofQuotient false n 1, s)
    | none =>
      let (x, rest) := Real.read t
      let overflow := match x with
        | .infinite _ => !t.any Char.isAlpha || (t.any Char.isDigit)
        | _ => false
      (x, s.check t rest overflow)

/-- Print the next argument by a conversion. -/
def convert (s : State) (l : Layout) (conversion : Char) (directive : Text) : State :=
  match conversion with
  | 's' =>
    let (t, s) := s.next
    s.print (l.text (t.getD []))
  | 'b' =>
    let (t, s) := s.next
    let (t, ended) := unescape (t.getD [])
    { s.print (l.text t) with ended := ended }
  | 'c' =>
    let (t, s) := s.next
    s.print (l.pad [((t.getD []).head?).getD '\x00'])
  | 'd' =>
    let (n, s) := s.nextSigned
    s.print (l.signed n)
  | 'i' =>
    let (n, s) := s.nextSigned
    s.print (l.signed n)
  | c =>
    if "ouxX".toList.contains c then
      let (n, s) := s.nextUnsigned
      s.print (l.unsigned c n)
    else if "aAeEfFgG".toList.contains c then
      let (x, s) := s.nextReal
      s.print (l.real c x)
    else { s with fault := some (directive ++ ": invalid directive".toList) }

/-- A width or a precision: from an argument after `*`, of which 32 bits count, or from
digits. -/
def size (s : State) (t : Text) : Option Int × Text × State :=
  match t with
  | '*' :: rest =>
    let (n, s) := s.nextSigned
    (some (n.bmod (Nat.pow 2 32)), rest, s)
  | _ =>
    let digits := t.takeWhile Text.isDigit
    (if digits.isEmpty then none else some (digitsValue 10 digits), t.drop digits.length, s)

/-- Print by the directive after a percent sign; the text after it is left. -/
def directive (s : State) (t : Text) : State × Text :=
  let flags := t.takeWhile ("#-+ 0".toList.contains ·)
  let (width, rest, s) := s.size (t.drop flags.length)
  let (precision, rest, s) := match rest with
    | '.' :: rest =>
      let (p, rest, s) := s.size rest
      (some (p.getD 0), rest, s)
    | _ => (none, rest, s)
  let width := width.getD 0
  let l : Layout := {
    alternate := flags.contains '#'
    left := flags.contains '-' || width < 0
    plus := flags.contains '+'
    blank := flags.contains ' '
    zero := flags.contains '0'
    width := width.natAbs
    precision := precision.bind fun p => if p < 0 then none else some p.toNat }
  match rest with
  | [] => ({ s with fault := some "missing format character".toList }, [])
  | c :: after =>
    (s.convert l c ('%' :: t.take (t.length - after.length)), after)

/-- Print by a format once; the number bounds its length. -/
def pass : Nat → State → Text → State
  | 0, s, _ => s
  | n + 1, s, t =>
    if s.ended || s.fault.isSome then s
    else match t with
      | [] => s
      | '\\' :: rest =>
        let (c, after) := escape rest
        pass n (s.print [c]) after
      | '%' :: '%' :: rest => pass n (s.print ['%']) rest
      | '%' :: rest =>
        let (s, after) := s.directive rest
        pass n s after
      | c :: rest => pass n (s.print [c]) rest

/-- Print by a format as long as it takes arguments and some are left. -/
def passes (format : Text) : Nat → State → State
  | 0, s => s
  | n + 1, s =>
    let s' := pass (format.length + 1) s format
    if s'.ended || s'.fault.isSome || s'.arguments.isEmpty ||
        s'.arguments.length = s.arguments.length then s'
    else passes format n s'

end State

/-- Print arguments by a format. -/
def printf (format : Text) (arguments : List Text) : State :=
  State.passes format (arguments.length + 1) ⟨arguments, [], [], false, none⟩

end CommandShell.Script.Format
