import CommandShell.Script.Glob
import CommandShell.Script.Number

/-!
# Conditions

`test` compares texts and numbers and looks at files.  Its arguments are an expression whose
operators are told from operands by their place: with three arguments of which the second
compares two texts, the others are operands whatever they look like.
-/

namespace CommandShell.Script.Condition

/-- What a word means in a condition. -/
inductive Role where
  /-- It looks at one operand. -/
  | unary
  /-- It compares two operands. -/
  | binary
  | negation
  | conjunction
  | disjunction
  | leftParen
  | rightParen
deriving Repr, DecidableEq

/-- The words that have a meaning. -/
def role? (t : Text) : Option Role :=
  let s := String.ofList t
  if ["-r", "-w", "-x", "-e", "-f", "-d", "-c", "-b", "-p", "-u", "-g", "-k", "-s", "-t", "-z",
      "-n", "-h", "-O", "-G", "-L", "-S"].contains s then some .unary
  else if ["=", "!=", "<", ">", "-eq", "-ne", "-ge", "-gt", "-le", "-lt", "-nt", "-ot",
      "-ef"].contains s then some .binary
  else match s with
    | "!" => some .negation
    | "-a" => some .conjunction
    | "-o" => some .disjunction
    | "(" => some .leftParen
    | ")" => some .rightParen
    | _ => none

/-- The role of the first of the words.  An operator that has no operand after it is an
operand, and so is one before a comparison. -/
def roleOfFirst (ts : List Text) : Option Role :=
  match ts with
  | [] => none
  | t :: rest =>
    match role? t with
    | some .unary =>
      match rest with
      | [] => none
      | [_] => some .unary
      | s :: _ => if role? s = some .binary then none else some .unary
    | some .leftParen => if rest.isEmpty then none else some .leftParen
    | r => r

/-- A file system, and the directory that paths start from. -/
structure Place where
  files : FileSystem
  directory : RealPath

namespace Place

/-- The node that a path leads to. -/
def node? (p : Place) (path : Text) : Option Node :=
  (p.files.find? p.directory (Machine.toBytes path)).toOption

/-- A path is a link. -/
def isLink (p : Place) (path : Text) : Bool :=
  let (above, name) := Machine.cutLast (Machine.toBytes path)
  match p.files.locate p.directory above with
  | .error _ => false
  | .ok place =>
    match p.files.node? (place ++ [name]) with
    | some (.link _) => !name.isEmpty
    | _ => false

/-- What an operator says about a path. -/
def check (p : Place) (operator : Text) (path : Text) : Bool :=
  let node := p.node? path
  match String.ofList operator with
  | "-e" | "-r" | "-w" | "-O" | "-G" => node.isSome
  | "-f" => match node with
    | some (.file _ _) => true
    | _ => false
  | "-d" => node == some .directory
  | "-c" => node == some .void
  | "-x" => match node with
    | some (.file _ executable) => executable
    | some .directory => true
    | _ => false
  | "-s" => match node with
    | some (.file bytes _) => !bytes.isEmpty
    | some .directory => true
    | _ => false
  | "-h" | "-L" => p.isLink path
  | _ => false

/-- Two paths lead to the same place. -/
def same (p : Place) (a b : Text) : Bool :=
  match p.files.locate p.directory (Machine.toBytes a),
      p.files.locate p.directory (Machine.toBytes b) with
  | .ok x, .ok y => x == y && (p.files.node? x).isSome
  | _, _ => false

end Place

/-- A number that is compared. -/
def number (t : Text) : Except Text Int :=
  match integer? t with
  | some n => .ok n
  | none => .error ("Illegal number: ".toList ++ t)

/-- The value of a comparison. -/
def compare (p : Place) (a operator b : Text) : Except Text Bool :=
  let numbers (test : Int → Int → Bool) : Except Text Bool := do
    return test (← number a) (← number b)
  match String.ofList operator with
  | "=" => .ok (a == b)
  | "!=" => .ok (a != b)
  | "<" => .ok (a != b && Text.le a b)
  | ">" => .ok (a != b && Text.le b a)
  | "-eq" => numbers (· == ·)
  | "-ne" => numbers (· != ·)
  | "-ge" => numbers (fun x y => y ≤ x)
  | "-gt" => numbers (fun x y => y < x)
  | "-le" => numbers (fun x y => x ≤ y)
  | "-lt" => numbers (fun x y => x < y)
  | "-ef" => .ok (p.same a b)
  | _ => .ok false

/-- A unary operator on an operand. -/
def examine (p : Place) (operator t : Text) : Except Text Bool :=
  match String.ofList operator with
  | "-z" => .ok t.isEmpty
  | "-n" => .ok (!t.isEmpty)
  | "-t" => do
    let _ ← number t
    return false
  | _ => .ok (p.check operator t)

/-- An operand is missing. -/
def missing (operator : Text) : Text :=
  operator ++ ": argument expected".toList

mutual

/-- A condition that is read from words on, with the word that was looked at last and the words
after it. -/
def primary (p : Place) : Nat → Option Role → List Text → Except Text (Bool × List Text)
  | 0, _, ts => .ok (false, ts)
  | n + 1, role, ts =>
    match role, ts with
    | _, [] => .ok (false, [])
    | some .leftParen, _ :: rest =>
      match roleOfFirst rest with
      | some .rightParen => .ok (false, rest)
      | role' => do
        let (value, left) ← disjunctions p n role' rest
        match left.tail with
        | close :: _ =>
          if role? close = some .rightParen then return (value, left.tail)
          else throw "closing paren expected".toList
        | [] => throw "closing paren expected".toList
    | some .unary, operator :: rest =>
      match rest with
      | [] => .error (missing operator)
      | t :: _ => do return (← examine p operator t, rest)
    | _, t :: rest =>
      match roleOfFirst rest, rest with
      | some .binary, operator :: after =>
        match after with
        | [] => .error (missing operator)
        | b :: _ => do return (← compare p t operator b, after)
      | _, _ => .ok (!t.isEmpty, ts)

/-- A condition that may be negated. -/
def negations (p : Place) : Nat → Option Role → List Text → Except Text (Bool × List Text)
  | 0, _, ts => .ok (false, ts)
  | n + 1, some .negation, ts => do
    let (value, left) ← match ts with
      | _ :: t :: rest => negations p n (roleOfFirst (t :: rest)) (t :: rest)
      | _ => primary p n none []
    return (!value, if left.isEmpty then ts else left)
  | n + 1, role, ts => primary p n role ts

/-- Conditions of which all have to hold. -/
def conjunctions (p : Place) : Nat → Option Role → List Text → Except Text (Bool × List Text)
  | 0, _, ts => .ok (false, ts)
  | n + 1, role, ts => do
    let (value, left) ← negations p n role ts
    match left with
    | _ :: next :: rest =>
      if roleOfFirst (next :: rest) = some .conjunction then
        let (other, left) ← conjunctions p n (roleOfFirst rest) rest
        return (value && other, left)
      else return (value, left)
    | _ => return (value, left)

/-- Conditions of which one has to hold. -/
def disjunctions (p : Place) : Nat → Option Role → List Text → Except Text (Bool × List Text)
  | 0, _, ts => .ok (false, ts)
  | n + 1, role, ts => do
    let (value, left) ← conjunctions p n role ts
    match left with
    | _ :: next :: rest =>
      if roleOfFirst (next :: rest) = some .disjunction then
        let (other, left) ← disjunctions p n (roleOfFirst rest) rest
        return (value || other, left)
      else return (value, left)
    | _ => return (value, left)

end

/-- The value of a whole condition whose first word has a role. -/
def whole (p : Place) (role : Option Role) (ts : List Text) : Except Text Bool := do
  let (value, left) ← disjunctions p (8 * ts.length + 8) role ts
  match left with
  | [] :: _ :: _ => throw "unexpected operator".toList
  | t :: _ :: _ => throw (t ++ ": unexpected operator".toList)
  | _ => return value

/-- The value of the words of `test`.  A single negation before up to three words is taken off
first, and so is a pair of parentheses. -/
def evaluate (p : Place) : List Text → Except Text Bool
  | [] => .ok false
  | [a, b, c] =>
    if role? b = some .binary then whole p none [a, b, c]
    else if a = ['('] && c = [')'] then whole p (roleOfFirst [b]) [b]
    else if a = ['!'] then (evaluate p [b, c]).map (!·)
    else whole p (roleOfFirst [a, b, c]) [a, b, c]
  | [a, b, c, d] =>
    if a = ['('] && d = [')'] then whole p (roleOfFirst [b, c]) [b, c]
    else if a = ['!'] then (evaluate p [b, c, d]).map (!·)
    else whole p (roleOfFirst [a, b, c, d]) [a, b, c, d]
  | ts => whole p (roleOfFirst ts) ts

end CommandShell.Script.Condition
