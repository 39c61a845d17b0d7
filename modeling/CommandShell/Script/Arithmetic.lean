import CommandShell.Script.Number

/-!
# Arithmetic

Expressions over signed words of 64 bits, with the operators, the assignments and the
precedence of most languages.  An expression is worked out while it is read, so of two faults
the one that is met first counts.  Where only one of two branches counts, the other is read
without effect.

Variables are read through a function; the assignments are kept in their order, so that
whoever owns the variables can carry them out.
-/

namespace CommandShell.Script.Arithmetic

/-! ### Tokens -/

/-- The operators that take two operands, and may stand before `=`. -/
inductive Binary where
  | times | divide | remainder | plus | minus | shiftLeft | shiftRight
  | less | lessEqual | greater | greaterEqual | equal | notEqual
  | bitAnd | bitXor | bitOr
deriving Repr, DecidableEq

/-- How loosely an operator binds. -/
def Binary.looseness : Binary → Nat
  | .times | .divide | .remainder => 0
  | .plus | .minus => 1
  | .shiftLeft | .shiftRight => 2
  | .less | .lessEqual | .greater | .greaterEqual => 3
  | .equal | .notEqual => 4
  | .bitAnd => 5
  | .bitXor => 6
  | .bitOr => 7

/-- Looser than every operator. -/
def loosest : Nat := 8

/-- A token of an expression. -/
inductive Token where
  | done
  | number (n : Int)
  | name (t : Text)
  | binary (op : Binary)
  /-- `=`, or an operator before it. -/
  | assign (op : Option Binary)
  | and | or | not | complement | question | colon | leftParen | rightParen
  /-- What no expression has. -/
  | stray
deriving Repr, DecidableEq

/-- An operator, or its assignment. -/
def orAssign (op : Binary) (rest : Text) : Token × Text :=
  match rest with
  | '=' :: rest => (.assign (some op), rest)
  | _ => (.binary op, rest)

/-- The first token of a text without blanks before it, and the text after it. -/
def firstToken (t : Text) : Token × Text :=
  match t with
  | [] => (.done, [])
  | '=' :: '=' :: rest => (.binary .equal, rest)
  | '=' :: rest => (.assign none, rest)
  | '>' :: '=' :: rest => (.binary .greaterEqual, rest)
  | '>' :: '>' :: rest => orAssign .shiftRight rest
  | '>' :: rest => (.binary .greater, rest)
  | '<' :: '=' :: rest => (.binary .lessEqual, rest)
  | '<' :: '<' :: rest => orAssign .shiftLeft rest
  | '<' :: rest => (.binary .less, rest)
  | '|' :: '|' :: rest => (.or, rest)
  | '|' :: rest => orAssign .bitOr rest
  | '&' :: '&' :: rest => (.and, rest)
  | '&' :: rest => orAssign .bitAnd rest
  | '!' :: '=' :: rest => (.binary .notEqual, rest)
  | '!' :: rest => (.not, rest)
  | '*' :: rest => orAssign .times rest
  | '/' :: rest => orAssign .divide rest
  | '%' :: rest => orAssign .remainder rest
  | '+' :: rest => orAssign .plus rest
  | '-' :: rest => orAssign .minus rest
  | '^' :: rest => orAssign .bitXor rest
  | '~' :: rest => (.complement, rest)
  | '?' :: rest => (.question, rest)
  | ':' :: rest => (.colon, rest)
  | '(' :: rest => (.leftParen, rest)
  | ')' :: rest => (.rightParen, rest)
  | c :: rest =>
    if Text.isDigit c then
      let n := Numeral.read true t
      (.number n.signed, n.rest)
    else if Text.isNameStart c then
      (.name (t.takeWhile Text.isNameChar), t.dropWhile Text.isNameChar)
    else (.stray, rest)

/-- The tokens of a text; the number bounds how many there are. -/
def tokens : Nat → Text → List Token
  | 0, _ => []
  | n + 1, t =>
    match firstToken (t.dropWhile fun c => c == ' ' || c == '\t' || c == '\n') with
    | (.done, _) => []
    | (token, rest) => token :: tokens n rest

/-! ### Working out -/

/-- Why an expression has no value. -/
inductive Fault where
  /-- It breaks the rules. -/
  | malformed (reason : String)
  | divisionByZero
  /-- A variable holds no number. -/
  | badNumber (t : Text)
  /-- The largest negative word was divided by minus one. -/
  | overflow
deriving Repr, DecidableEq

/-- An expression that is being worked out. -/
structure State where
  rest : List Token
  /-- The assignments so far, the last first. -/
  assigned : List (Text × Int)

/-- Working out an expression. -/
abbrev Calculation := EStateM Fault State

/-- The next token, which is left where it is. -/
def peek : Calculation Token := do
  return (← get).rest.headD .done

/-- Pass over a token. -/
def skip : Calculation Unit :=
  modify fun s => { s with rest := s.rest.tail }

/-- One for true, zero for false. -/
def ofBool (b : Bool) : Int :=
  if b then 1 else 0

/-- The number with bits combined one by one. -/
def bitwise (f : UInt64 → UInt64 → UInt64) (a b : Int) : Int :=
  let word (n : Int) : UInt64 := (n % Text.wordLimit).toNat.toUInt64
  wrap (f (word a) (word b)).toNat

/-- The value of an operator. -/
def Binary.apply (op : Binary) (a b : Int) : Calculation Int :=
  let shift : Nat := (b % 64).toNat
  match op with
  | .times => return wrap (a * b)
  | .divide =>
    if b = 0 then throw .divisionByZero
    else if a = -signedLimit && b = -1 then throw .overflow
    else return a.tdiv b
  | .remainder =>
    if b = 0 then throw .divisionByZero
    else if a = -signedLimit && b = -1 then throw .overflow
    else return a.tmod b
  | .plus => return wrap (a + b)
  | .minus => return wrap (a - b)
  | .shiftLeft => return wrap (a * Int.pow 2 shift)
  | .shiftRight => return a.fdiv (Int.pow 2 shift)
  | .less => return ofBool (a < b)
  | .lessEqual => return ofBool (a ≤ b)
  | .greater => return ofBool (b < a)
  | .greaterEqual => return ofBool (b ≤ a)
  | .equal => return ofBool (a = b)
  | .notEqual => return ofBool (a ≠ b)
  | .bitAnd => return bitwise (· &&& ·) a b
  | .bitXor => return bitwise (· ^^^ ·) a b
  | .bitOr => return bitwise (· ||| ·) a b

/-- The value of a variable as a number. -/
def valueOf (lookup : Text → Option Text) (name : Text) : Calculation Int := do
  match (← get).assigned.lookup name with
  | some n => return n
  | none =>
    let t := (lookup name).getD []
    match integerOrBlank? t with
    | some n => return n
    | none => throw (.badNumber t)

/-- There is no fuel left. -/
def exhausted : Calculation Int :=
  throw (.malformed "out of memory")

mutual

/-- An operand.  Nothing in it has an effect when `idle` is set. -/
def operand (lookup : Text → Option Text) : Nat → Bool → Calculation Int
  | 0, _ => exhausted
  | n + 1, idle => do
    match ← peek with
    | .leftParen =>
      skip
      let value ← assignment lookup n idle
      if (← peek) ≠ .rightParen then throw (.malformed "expecting ')'")
      skip
      return value
    | .number value =>
      skip
      return value
    | .name name =>
      skip
      if idle then return 0 else valueOf lookup name
    | .binary .plus =>
      skip
      operand lookup n idle
    | .binary .minus =>
      skip
      return wrap (-(← operand lookup n idle))
    | .not =>
      skip
      return ofBool ((← operand lookup n idle) = 0)
    | .complement =>
      skip
      return wrap (-(← operand lookup n idle) - 1)
    | _ => throw (.malformed "expecting primary")

/-- Operators from one on that stands behind a value, as long as they bind more tightly than
`limit`. -/
def operators (lookup : Text → Option Text) : Nat → Bool → Int → Binary → Nat → Calculation Int
  | 0, _, _, _, _ => exhausted
  | n + 1, idle, a, op, limit => do
    skip
    let b ← operand lookup n idle
    let b ← match ← peek with
      | .binary op2 =>
        if op2.looseness < op.looseness then operators lookup n idle b op2 op.looseness
        else pure b
      | _ => pure b
    let a ← if idle then pure b else op.apply a b
    match ← peek with
    | .binary op2 => if op2.looseness < limit then operators lookup n idle a op2 limit else return a
    | _ => return a

/-- Operands with operators between them. -/
def chain (lookup : Text → Option Text) : Nat → Bool → Calculation Int
  | 0, _ => exhausted
  | n + 1, idle => do
    let a ← operand lookup n idle
    match ← peek with
    | .binary op => operators lookup n idle a op loosest
    | _ => return a

/-- Conditions of which all have to hold. -/
def conjunction (lookup : Text → Option Text) : Nat → Bool → Calculation Int
  | 0, _ => exhausted
  | n + 1, idle => do
    let a ← chain lookup n idle
    if (← peek) ≠ .and then return a
    skip
    let b ← conjunction lookup n (idle || a = 0)
    return ofBool (a ≠ 0 && b ≠ 0)

/-- Conditions of which one has to hold. -/
def disjunction (lookup : Text → Option Text) : Nat → Bool → Calculation Int
  | 0, _ => exhausted
  | n + 1, idle => do
    let a ← conjunction lookup n idle
    if (← peek) ≠ .or then return a
    skip
    let b ← disjunction lookup n (idle || a ≠ 0)
    return ofBool (a ≠ 0 || b ≠ 0)

/-- A choice between two expressions. -/
def choice (lookup : Text → Option Text) : Nat → Bool → Calculation Int
  | 0, _ => exhausted
  | n + 1, idle => do
    let a ← disjunction lookup n idle
    if (← peek) ≠ .question then return a
    skip
    let b ← assignment lookup n (idle || a = 0)
    if (← peek) ≠ .colon then throw (.malformed "expecting ':'")
    skip
    let c ← choice lookup n (idle || a ≠ 0)
    return if a ≠ 0 then b else c

/-- An assignment, or an expression without one. -/
def assignment (lookup : Text → Option Text) : Nat → Bool → Calculation Int
  | 0, _ => exhausted
  | n + 1, idle => do
    match (← get).rest with
    | .name name :: .assign op :: rest =>
      modify fun s => { s with rest := rest }
      let value ← assignment lookup n idle
      if idle then return value
      let value ← match op with
        | none => pure value
        | some op => op.apply (← valueOf lookup name) value
      modify fun s => { s with assigned := (name, value) :: s.assigned }
      return value
    | _ => choice lookup n idle

end

/-- The value of an expression, and its assignments in their order. -/
def evaluate (lookup : Text → Option Text) (t : Text) :
    Except Fault Int × List (Text × Int) :=
  let whole : Calculation Int := do
    let value ← assignment lookup (t.length * 16 + 16) false
    if (← peek) ≠ .done then throw (.malformed "expecting EOF")
    return value
  match whole.run ⟨tokens (t.length + 1) t, []⟩ with
  | .ok value s => (.ok value, s.assigned.reverse)
  | .error e s => (.error e, s.assigned.reverse)

end CommandShell.Script.Arithmetic
