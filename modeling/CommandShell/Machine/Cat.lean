import CommandShell.Machine.System

/-!
# Copying files to the output

The program `cat` copies files, or its input, to its output, and on request numbers lines,
leaves out repeated empty ones and makes characters visible.  A file that cannot be read is
complained about, and the others are copied all the same.
-/

namespace CommandShell.Machine.Cat

/-! ### Names in complaints -/

/-- A character that is printed as it is. -/
def isPrintable (c : Char) : Bool :=
  ' ' ≤ c && c ≤ '~'

/-- A character for which a name is put between quotes. -/
def needsQuotes (isFirst isOnly : Bool) (c : Char) : Bool :=
  !isPrintable c || " !\"$&'()*:;<=>?[\\^`|".toList.contains c ||
    (isFirst && (c == '#' || c == '~')) || (isOnly && (c == '\x7b' || c == '\x7d'))

/-- A character that means the same between single and between double quotes. -/
def isPlainQuoted (c : Char) : Bool :=
  isPrintable c && !"!\"$\\`".toList.contains c

/-- The letter or the digits that stand for a character after a backslash. -/
def escapeOf (c : Char) : Text :=
  match c with
  | '\x07' => ['a']
  | '\x08' => ['b']
  | '\x0c' => ['f']
  | '\n' => ['n']
  | '\r' => ['r']
  | '\t' => ['t']
  | '\x0b' => ['v']
  | c =>
    let n := c.toNat
    [n / 64 % 8, n / 8 % 8, n % 8].map fun d => Char.ofNat (48 + d)

/-- A name between single quotes, from a character on.  The flag says that the text before is
one of escapes. -/
def quotedFrom : Bool → Text → Text
  | _, [] => ['\'']
  | escaping, c :: rest =>
    if isPrintable c then
      let start := if escaping then "''".toList else []
      start ++ (if c == '\'' then "'\\''".toList else [c]) ++ quotedFrom false rest
    else
      let start := if escaping then [] else "'$'".toList
      start ++ '\\' :: escapeOf c ++ quotedFrom true rest

/-- A name as it is shown in a complaint. -/
def quoted (name : Text) : Text :=
  let isOnly := name.length = 1
  let needed := name.isEmpty || (name.head?.any (needsQuotes true isOnly)) ||
    name.tail.any (needsQuotes false isOnly)
  if !needed then name
  else if name.contains '\'' && name.all isPlainQuoted then '"' :: name ++ ['"']
  else '\'' :: quotedFrom false name

/-! ### Options -/

/-- How files are copied. -/
structure Options where
  number : Bool
  /-- Only lines that are not empty are numbered. -/
  onlyFull : Bool
  squeeze : Bool
  ends : Bool
  tabs : Bool
  visible : Bool
deriving Repr, DecidableEq

/-- Files are copied as they are. -/
def Options.none : Options :=
  ⟨false, false, false, false, false, false⟩

/-- The options with one more, if there is one of that letter. -/
def Options.add? (o : Options) : Char → Option Options
  | 'n' => some { o with number := true }
  | 'b' => some { o with number := true, onlyFull := true }
  | 's' => some { o with squeeze := true }
  | 'E' => some { o with ends := true }
  | 'T' => some { o with tabs := true }
  | 'v' => some { o with visible := true }
  | 'e' => some { o with ends := true, visible := true }
  | 't' => some { o with tabs := true, visible := true }
  | 'A' => some { o with ends := true, tabs := true, visible := true }
  | 'u' => some o
  | _ => Option.none

/-- The options by their long names.  Two of them only show a text. -/
def longNames : List (String × Option Char) :=
  [("number-nonblank", some 'b'), ("number", some 'n'), ("squeeze-blank", some 's'),
    ("show-nonprinting", some 'v'), ("show-ends", some 'E'), ("show-tabs", some 'T'),
    ("show-all", some 'A'), ("help", Option.none), ("version", Option.none)]

/-- Why arguments are refused. -/
inductive Refusal where
  | invalid (c : Char)
  | unknown (argument : Text)
  | ambiguous (argument : Text) (names : List String)
  | noValue (name : String)
deriving Repr, DecidableEq

/-- The wording of a refusal. -/
def Refusal.message : Refusal → Text
  | .invalid c => "invalid option -- '".toList ++ [c, '\'']
  | .unknown argument => "unrecognized option '".toList ++ argument ++ ['\'']
  | .ambiguous argument names =>
    "option '".toList ++ argument ++ "' is ambiguous; possibilities:".toList ++
      names.flatMap fun n => " '--".toList ++ n.toList ++ ['\'']
  | .noValue name => "option '--".toList ++ name.toList ++ "' doesn't allow an argument".toList

/-- What the arguments ask for. -/
structure Request where
  options : Options
  files : List Text
  /-- Only a text about the program is asked for. -/
  about : Bool
deriving Repr, DecidableEq

/-- The options of letters after a dash. -/
def readLetters (o : Options) : Text → Except Refusal Options
  | [] => .ok o
  | c :: rest =>
    match o.add? c with
    | some o => readLetters o rest
    | Option.none => .error (.invalid c)

/-- A long option.  Its name may be cut short where that leaves one option only. -/
def readLong (r : Request) (argument : Text) : Except Refusal Request :=
  let name := (argument.drop 2).takeWhile (· != '=')
  let hasValue := name.length + 2 < argument.length
  let fitting := longNames.filter fun (n, _) => name.isPrefixOf n.toList
  let chosen := match fitting.find? fun (n, _) => n.toList == name with
    | some found => [found]
    | Option.none => fitting
  match chosen with
  | [] => .error (.unknown argument)
  | [(n, letter)] =>
    if hasValue then .error (.noValue n)
    else match letter.bind r.options.add? with
      | some o => .ok { r with options := o }
      | Option.none => .ok { r with about := true }
  | many => .error (.ambiguous argument (many.map (·.1)))

/-- Read arguments: options may stand between the names of files. -/
def readArguments : Request → List Text → Except Refusal Request
  | r, [] => .ok r
  | r, argument :: rest =>
    if r.about then .ok r
    else match argument with
      | ['-', '-'] => .ok { r with files := r.files ++ rest }
      | '-' :: '-' :: _ =>
        match readLong r argument with
        | .ok r => readArguments r rest
        | .error e => .error e
      | '-' :: c :: letters =>
        match readLetters r.options (c :: letters) with
        | .ok o => readArguments { r with options := o } rest
        | .error e => .error e
      | _ => readArguments { r with files := r.files ++ [argument] } rest

/-! ### Copying -/

/-- Where the copy stands. -/
structure Progress where
  /-- The number of empty lines just before, or none inside of a line. -/
  emptyLines : Option Nat
  /-- The number of the last line. -/
  line : Nat
deriving Repr, DecidableEq

/-- A line number as it is shown. -/
def numberText (n : Nat) : Text :=
  let digits := Text.ofNat n
  List.replicate (6 - digits.length) ' ' ++ digits ++ ['\t']

/-- A character as it is shown; `next` is the one after it. -/
def shown (o : Options) (c : Char) (next : Option Char) : Text :=
  let n := c.toNat
  if c == '\t' then (if o.tabs then "^I".toList else [c])
  else if !o.visible then
    if c == '\r' && next == some '\n' && o.ends then "^M".toList else [c]
  else
    let low (n : Nat) : Text :=
      if n = 127 then "^?".toList
      else if n < 32 then ['^', Char.ofNat (n + 64)]
      else [Char.ofNat n]
    if n < 128 then low n else "M-".toList ++ low (n - 128)

/-- Copy a text, onto what was written so far, the last first. -/
def copyOnto (o : Options) : Progress → Text → Text → Progress × Text
  | p, done, [] => (p, done)
  | p, done, '\n' :: rest =>
    let count := match p.emptyLines with
      | some k => min (k + 1) 2
      | none => 0
    let p' := { p with emptyLines := some count }
    if count = 2 && o.squeeze then copyOnto o p' done rest
    else
      let numbered := 0 < count && o.number && !o.onlyFull
      let p' := if numbered then { p' with line := p.line + 1 } else p'
      let start := if numbered then numberText p'.line else []
      let text := start ++ (if o.ends then ['$', '\n'] else ['\n'])
      copyOnto o p' (text.reverse ++ done) rest
  | p, done, c :: rest =>
    let numbered := p.emptyLines.isSome && o.number
    let p' : Progress := ⟨none, if numbered then p.line + 1 else p.line⟩
    let start := if numbered then numberText p'.line else []
    copyOnto o p' ((start ++ shown o c rest.head?).reverse ++ done) rest

/-! ### Running -/

/-- The program while it runs. -/
structure State where
  system : System
  progress : Progress
  failed : Bool

/-- Complain about something. -/
def State.complain (start : Start) (s : State) (reason : Text) : State :=
  let name := start.arguments.headD "cat".toList
  let system := match start.descriptors.lookup 2 with
    | some id => (s.system.write? id (Text.line (name ++ ": ".toList ++ reason))).getD s.system
    | none => s.system
  { s with system := system, failed := true }

/-- The input is the file that the output goes to, and has something left to copy. -/
def isOwnOutput (system : System) (input output : Nat) : Bool :=
  match system.streams[input]?, system.streams[output]? with
  | some (.file a position _), some (.file b position' access) =>
    a == b && position < (if access.appending then (system.content b).length else position')
  | _, _ => false

/-- Copy a stream. -/
def copyStream (start : Start) (o : Options) (output : Nat) (s : State) (name : Text)
    (input : Nat) : State :=
  match s.system.remaining input with
  | .error .isDirectory => s.complain start (quoted name ++ ": Is a directory".toList)
  | .error .notReadable => s.complain start (quoted name ++ ": Bad file descriptor".toList)
  | .ok t =>
    if isOwnOutput s.system input output then
      s.complain start (quoted name ++ ": input file is output file".toList)
    else
      let (progress, done) := copyOnto o s.progress [] t
      let system := s.system.advance input t.length
      let s := { s with progress := progress }
      if done.isEmpty then { s with system := system }
      else match system.write? output done.reverse with
        | some system => { s with system := system }
        | none => { s with system := system }.complain start "write error: Bad file descriptor".toList

/-- Copy one of the files; a dash stands for the input. -/
def copyFile (start : Start) (o : Options) (output : Nat) (s : State) (name : Text) : State :=
  if name = ['-'] then
    match start.descriptors.lookup 0 with
    | some id => copyStream start o output s name id
    | none =>
      (s.complain start "-: Bad file descriptor".toList).complain start
        "closing standard input: Bad file descriptor".toList
  else match s.system.openFile start.directory .read name with
    | .error e => s.complain start (quoted name ++ ": ".toList ++ e.reason)
    | .ok (id, system) => copyStream start o output { s with system := system } name id

/-- Run the program. -/
def run (start : Start) (system : System) : Ending × System :=
  let s : State := ⟨system, ⟨some 0, 0⟩, false⟩
  let done (s : State) : Ending × System := (.exited (if s.failed then 1 else 0), s.system)
  match readArguments ⟨.none, [], false⟩ start.arguments.tail with
  | .error e =>
    let name := start.arguments.headD "cat".toList
    let s := s.complain start e.message
    let advice := Text.line ("Try '".toList ++ name ++ " --help' for more information.".toList)
    let system := match start.descriptors.lookup 2 with
      | some id => (s.system.write? id advice).getD s.system
      | none => s.system
    (.exited 1, system)
  | .ok r =>
    if r.about then done s
    else match start.descriptors.lookup 1 with
      | none => done (s.complain start "standard output: Bad file descriptor".toList)
      | some output =>
        let files := if r.files.isEmpty then [['-']] else r.files
        done (files.foldl (copyFile start r.options output) s)

end CommandShell.Machine.Cat
