import CommandShell.FileSystem
import CommandShell.Machine.System

/-!
# Patterns of scripts

In a pattern `?` stands for a character, `*` for any characters, and brackets for one
character of a set.  A backslash takes the meaning of the next character away.

`Glob.isMatch` compares a whole text with a pattern, and `Glob.paths` finds the paths of a
file system that a pattern matches, part by part.
-/

namespace CommandShell.Script.Glob

/-! ### Sets of characters -/

/-- The classes of characters that have a name. -/
def classes : List (String × (Char → Bool)) :=
  let lower (c : Char) : Bool := 'a' ≤ c && c ≤ 'z'
  let upper (c : Char) : Bool := 'A' ≤ c && c ≤ 'Z'
  let digit (c : Char) : Bool := '0' ≤ c && c ≤ '9'
  let alpha (c : Char) : Bool := lower c || upper c
  let graph (c : Char) : Bool := '!' ≤ c && c ≤ '~'
  [("alnum", fun c => alpha c || digit c), ("alpha", alpha),
    ("blank", fun c => c == ' ' || c == '\t'),
    ("cntrl", fun c => c.toNat < 32 || c.toNat == 127), ("digit", digit), ("graph", graph),
    ("lower", lower), ("print", fun c => graph c || c == ' '),
    ("punct", fun c => graph c && !alpha c && !digit c),
    ("space", fun c => c == ' ' || ('\t' ≤ c && c ≤ '\r')), ("upper", upper),
    ("xdigit", fun c => digit c || ('a' ≤ c && c ≤ 'f') || ('A' ≤ c && c ≤ 'F'))]

/-- A named class, after its opening bracket: its test, and the text after it. -/
def namedClass? (t : Text) : Option ((Char → Bool) × Text) :=
  match t with
  | ':' :: rest =>
    classes.findSome? fun (name, test) =>
      let mark := name.toList ++ [':', ']']
      if mark.isPrefixOf rest then some (test, rest.drop mark.length) else none
  | _ => none

/-- The order of characters as signed bytes. -/
def order (c : Char) : Int :=
  if c.toNat < 128 then c.toNat else (c.toNat : Int) - 256

/-- A set of characters from a place inside its brackets on: whether it has the given
character, and the text after the closing bracket.  There is none if the bracket is not
closed. -/
def members : Nat → Bool → Char → Text → Option (Bool × Text)
  | 0, _, _, _ => none
  | n + 1, found, chr, t =>
    let goOn (found : Bool) (rest : Text) : Option (Bool × Text) :=
      match rest with
      | ']' :: after => some (found, after)
      | rest => members n found chr rest
    let element (c : Char) (rest : Text) : Option (Bool × Text) :=
      match rest with
      | '-' :: high =>
        if high.head? == some ']' then goOn (found || chr == c) rest
        else
          match (if high.head? == some '\\' then high.tail else high) with
          | d :: after => goOn (found || (order c ≤ order chr && order chr ≤ order d)) after
          | [] => none
      | rest => goOn (found || chr == c) rest
    match t with
    | [] => none
    | '[' :: rest =>
      match namedClass? rest with
      | some (test, after) => goOn (found || test chr) after
      | none => element '[' rest
    | '\\' :: c :: rest => element c rest
    | c :: rest => element c rest

/-- The set after an opening bracket: whether it has the given character, and the text after
it. -/
def bracket? (chr : Char) (t : Text) : Option (Bool × Text) :=
  let (negated, body) := match t with
    | '!' :: rest => (true, rest)
    | _ => (false, t)
  (members (t.length + 1) false chr body).map fun (found, after) => (found != negated, after)

/-! ### Matching -/

/-- A text matches a pattern; the number bounds the sum of their lengths. -/
def matchesWithin : Nat → Text → Text → Bool
  | 0, _, _ => false
  | _, [], t => t.isEmpty
  | n + 1, '*' :: pattern, t =>
    matchesWithin n pattern t || match t with
      | [] => false
      | _ :: rest => matchesWithin n ('*' :: pattern) rest
  | _, _ :: _, [] => false
  | n + 1, '?' :: pattern, _ :: t => matchesWithin n pattern t
  | n + 1, '[' :: pattern, c :: t =>
    match bracket? c pattern with
    | some (found, after) => found && matchesWithin n after t
    | none => c == '[' && matchesWithin n pattern t
  | n + 1, '\\' :: d :: pattern, c :: t => c == d && matchesWithin n pattern t
  | n + 1, p :: pattern, c :: t => c == p && matchesWithin n pattern t

/-- A text matches a pattern. -/
def isMatch (pattern t : Text) : Bool :=
  matchesWithin (pattern.length + t.length + 1) pattern t

/-- The boundary between two arguments in a text that holds several. -/
def boundary : Char := '\x00'

/-- The first of several arguments. -/
def firstOf (t : Text) : Text :=
  t.takeWhile (· != boundary)

/-- A text without its shortest or longest beginning that matches a pattern.  The longest is
looked for in all arguments, the shortest in the first; it is compared up to the first
boundary. -/
def dropStart (longest : Bool) (pattern t : Text) : Text :=
  let lengths := if longest then (List.range (t.length + 1)).reverse
    else List.range ((firstOf t).length + 1)
  match lengths.find? fun k => isMatch pattern (firstOf (t.take k)) with
  | some k => t.drop k
  | none => t

/-- A text without its shortest or longest end that matches a pattern.  The shortest is looked
for in all arguments, the longest from the first on; it is compared up to the first
boundary. -/
def dropEnd (longest : Bool) (pattern t : Text) : Text :=
  let lengths := if longest then List.range ((firstOf t).length + 1)
    else (List.range (t.length + 1)).reverse
  match lengths.find? fun k => isMatch pattern (firstOf (t.drop k)) with
  | some k => t.take k
  | none => t

/-! ### Paths -/

/-- A pattern without its backslashes. -/
def plain : Text → Text
  | '\\' :: c :: rest => c :: plain rest
  | c :: rest => c :: plain rest
  | [] => []

/-- A bracket is closed in a part of a path, after the opening one. -/
def isClosed (t : Text) : Bool :=
  let body := match t with
    | '!' :: rest => rest
    | _ => t
  let rec go : Text → Bool
    | '\\' :: _ :: ']' :: _ => true
    | '\\' :: _ :: rest => go rest
    | _ :: ']' :: _ => true
    | _ :: rest => go rest
    | [] => false
  go body

/-- A part of a path has characters that stand for others. -/
def hasWildcard : Text → Bool
  | '*' :: _ => true
  | '?' :: _ => true
  | '[' :: rest => isClosed rest || hasWildcard rest
  | '\\' :: _ :: rest => hasWildcard rest
  | _ :: rest => hasWildcard rest
  | [] => false

/-- The parts of a pattern between its separators. -/
def parts : Text → List Text
  | [] => [[]]
  | '\\' :: '/' :: rest => [] :: parts rest
  | '\\' :: c :: rest =>
    match parts rest with
    | p :: ps => ('\\' :: c :: p) :: ps
    | [] => [['\\', c]]
  | '/' :: rest => [] :: parts rest
  | c :: rest =>
    match parts rest with
    | p :: ps => (c :: p) :: ps
    | [] => [[c]]

/-- The names in a directory that a part of a pattern may match.  A name that begins with a
point is matched only by a point. -/
def candidates (fs : FileSystem) (base : RealPath) (directory part : Text) : List Text :=
  let path := if directory.isEmpty then Path.here else Machine.toBytes directory
  if !fs.isDirectory base path then []
  else
    let names := match fs.locate base path with
      | .ok place => (fs.names place).map Machine.ofBytes
      | .error _ => []
    let first := match part with
      | '\\' :: c :: _ => some c
      | c :: _ => some c
      | [] => none
    let names := ['.'] :: ['.', '.'] :: names
    names.filter fun name =>
      (name.head? != some '.' || first == some '.') && isMatch part name

/-- The path is there; a link at its end counts as it stands. -/
def isThere (fs : FileSystem) (base : RealPath) (path : Text) : Bool :=
  let path := Machine.toBytes path
  if path.getLast? = some Path.slash then fs.pathExists base path
  else
    let (above, name) := Machine.cutLast path
    match fs.locate base above with
    | .error _ => false
    | .ok place =>
      if name = Path.here || name = Path.above then true
      else (fs.node? (place ++ [name])).isSome

/-- The paths that begin with a given text and go on with the given parts. -/
def pathsFrom (fs : FileSystem) (base : RealPath) : Text → List Text → List Text
  | before, [] => if isThere fs base before then [before] else []
  | before, [part] =>
    if hasWildcard part then (candidates fs base before part).map (before ++ ·)
    else
      let path := before ++ plain part
      if isThere fs base path then [path] else []
  | before, part :: rest =>
    if hasWildcard part then
      (candidates fs base before part).flatMap fun name =>
        pathsFrom fs base (before ++ name ++ ['/']) rest
    else pathsFrom fs base (before ++ plain part ++ ['/']) rest

/-- The paths that a pattern matches, in ascending order. -/
def paths (fs : FileSystem) (base : RealPath) (pattern : Text) : List Text :=
  let ps := parts pattern
  if !ps.any hasWildcard then []
  else (pathsFrom fs base [] ps).mergeSort Text.le

end CommandShell.Script.Glob
