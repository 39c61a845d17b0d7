import CommandShell.Script.Condition
import CommandShell.Script.Expand
import CommandShell.Script.Format
import CommandShell.Script.Signal

/-!
# Commands of the system shell

The commands that the system shell runs itself, apart from those that run other commands.
Each has a code as its result, or fails; what it prints is written when it ends.
-/

namespace CommandShell.Script

/-- The code of success. -/
def succeeded : Nat := 0

/-- The options at the beginning of arguments, each with its value, and the other arguments.
`letters` has the options that there are, with a colon after those that take a value. -/
def readOptions (letters : Text) : Nat → List Text → Act (List (Char × Text) × List Text)
  | 0, arguments => return ([], arguments)
  | n + 1, arguments =>
    match arguments with
    | ['-', '-'] :: rest => return ([], rest)
    | ('-' :: c :: more) :: rest =>
      match letters.dropWhile (· != c) with
      | [] => fail ("Illegal option -".toList ++ [c])
      | _ :: ':' :: _ =>
        match more, rest with
        | _ :: _, _ => do
          let (options, others) ← readOptions letters n rest
          return ((c, more) :: options, others)
        | [], value :: rest => do
          let (options, others) ← readOptions letters n rest
          return ((c, value) :: options, others)
        | [], [] => fail ("No arg for -".toList ++ [c] ++ " option".toList)
      | _ => do
        let rest := if more.isEmpty then rest else ('-' :: more) :: rest
        let (options, others) ← readOptions letters n rest
        return ((c, []) :: options, others)
    | others => return ([], others)

/-- The options of a command. -/
def options (letters : String) (arguments : List Text) :
    Act (List (Char × Text) × List Text) :=
  let size := arguments.foldl (fun n t => n + t.length + 1) 1
  readOptions letters.toList size arguments

/-! ### Variables -/

/-- Variables in the order of their names, as commands that set them. -/
def listVariables (command : Text) (wanted : Variable → Bool) : Act Unit := do
  let p ← process
  let chosen := (p.vars.filter fun (_, v) => wanted v).mergeSort
    fun a b => Text.le a.1 b.1
  chosen.forM fun (name, v) =>
    let start := if command.isEmpty then name else command ++ ' ' :: name
    print (Text.line (match v.value with
      | some t => start ++ '=' :: singleQuoted t
      | none => start))

/-- A name and the value after `=`. -/
def nameAndValue (t : Text) : Text × Option Text :=
  let name := t.takeWhile (· != '=')
  (name, if name.length < t.length then some (t.drop (name.length + 1)) else none)

/-- `export` and `readonly`. -/
def runMark (command : Text) (arguments : List Text) : Act Nat := do
  let exported := command == "export".toList
  let (given, names) ← options "p" arguments
  if !given.isEmpty || names.isEmpty then
    listVariables command fun v => if exported then v.exported else v.fixed
  else
    names.forM fun t => do
      let name ← checkedName t
      match (nameAndValue t).2 with
      | some v => setVariable name v
      | none => pure ()
      markVariable name exported (!exported)
  return succeeded

/-- `local`. -/
def runLocal (arguments : List Text) : Act Nat := do
  if (← process).scopes.isEmpty then fail "not in a function".toList
  arguments.forM fun t => do
    let name ← checkedName t
    modifyProcess (·.keep name)
    match (nameAndValue t).2 with
    | some v => setVariable name v
    | none => pure ()
  return succeeded

/-- `unset`. -/
def runUnset (arguments : List Text) : Act Nat := do
  let (given, names) ← options "vf" arguments
  let ofFunction := given.getLast?.any (·.1 == 'f')
  names.forM fun name =>
    if ofFunction then
      modifyProcess fun p => { p with functions := eraseEntry name p.functions }
    else unsetVariable name
  return succeeded

/-- Print the settings of all options. -/
def listOptions (asCommands : Bool) : Act Unit := do
  let p ← process
  if !asCommands then print "Current option settings\n".toList
  optionNames.forM fun (c, name) =>
    let name := name.toList
    let on := p.has c
    if asCommands then
      print (Text.line ((if on then "set -o ".toList else "set +o ".toList) ++ name))
    else
      print (Text.line (name ++ List.replicate (16 - name.length) ' ' ++
        (if on then "on".toList else "off".toList)))

/-- Switch the options of one argument.  An option `o` takes its name from the next one. -/
def switchOptions (on : Bool) : Text → List Text → Act (List Text)
  | [], rest => return rest
  | 'o' :: letters, rest =>
    match rest with
    | [] => do
      listOptions (!on)
      switchOptions on letters []
    | name :: rest =>
      match optionNames.find? fun (_, n) => n.toList == name with
      | some (c, _) => do
        modifyProcess (·.switch c on)
        switchOptions on letters rest
      | none => fail ("Illegal option -o ".toList ++ name)
  | c :: letters, rest => do
    if optionNames.any fun (d, _) => d == c && ' ' < c then
      modifyProcess (·.switch c on)
      switchOptions on letters rest
    else fail ("Illegal option -".toList ++ [c])

/-- The options of `set`, and the arguments after them.  There are arguments to set if some
are left, or if two dashes stand before them. -/
def setOptions : Nat → List Text → Act (Option (List Text))
  | 0, _ => return none
  | n + 1, arguments =>
    match arguments with
    | [] => return none
    | ['-'] :: rest => do
      modifyProcess fun p => (p.switch 'x' false).switch 'v' false
      return if rest.isEmpty then none else some rest
    | ['-', '-'] :: rest => return some rest
    | ('-' :: letters) :: rest => do setOptions n (← switchOptions true letters rest)
    | ('+' :: letters) :: rest => do setOptions n (← switchOptions false letters rest)
    | rest => return some rest

/-- Put in other arguments. -/
def Process.withArguments (p : Process) (arguments : List Text) : Process :=
  { p with arguments := arguments, optionIndex := 1, optionOffset := none }

/-- `set`. -/
def runSet (arguments : List Text) : Act Nat := do
  if arguments.isEmpty then
    listVariables [] fun v => v.value.isSome
  else
    match ← setOptions (arguments.length + 1) arguments with
    | some rest => modifyProcess (·.withArguments rest)
    | none => pure ()
  return succeeded

/-- `shift`. -/
def runShift (arguments : List Text) : Act Nat := do
  let n ← match arguments with
    | [] => pure 1
    | t :: _ => countOf t
  let p ← process
  if p.arguments.length < n then fail "can't shift that many".toList
  modifyProcess (·.withArguments (p.arguments.drop n))
  return succeeded

/-! ### Reading -/

/-- A line that is read, as segments: a backslash keeps the next character together, and joins
lines.  The result has the number of bytes, and whether the line ended. -/
def lineSegments (raw : Bool) : Nat → List Segment → Text → List Segment × Nat × Bool
  | count, done, [] => (done.reverse, count, false)
  | count, done, '\n' :: _ => (done.reverse, count + 1, true)
  | count, done, '\\' :: rest =>
    if raw then lineSegments raw (count + 1) (.loose '\\' :: done) rest
    else match rest with
      | [] => (done.reverse, count + 1, false)
      | '\n' :: rest => lineSegments raw (count + 2) (.region false [] :: done) rest
      | c :: rest => lineSegments raw (count + 2) (.together [.char c true] :: done) rest
  | count, done, c :: rest =>
    if c == '\x00' then lineSegments raw (count + 1) done rest
    else lineSegments raw (count + 1) (.loose c :: done) rest

/-- `read`. -/
def runRead (arguments : List Text) : Act Nat := do
  let (given, names) ← options "p:r" arguments
  if names.isEmpty then fail "arg count".toList
  let s ← get
  let id := (s.process.descriptors.lookup 0).getD s.system.streams.size
  let input := (s.system.remaining id).toOption.getD []
  let (segments, count, ended) := lineSegments (given.any (·.1 == 'r')) 0 [] input
  set { s with system := s.system.advance id count }
  let fields := splitFields s.process.separators (some names.length) segments
  let values := fields.map Field.text ++ List.replicate (names.length - fields.length) []
  (names.zip values).forM fun (name, value) => setNamed name value
  return if ended then 0 else 1

/-- `getopts`. -/
def runGetopts (arguments : List Text) : Act Nat := do
  match arguments with
  | optionString :: name :: others => do
    let p ← process
    let words := if others.isEmpty then p.arguments else others
    let index := p.optionIndex
    let quiet := optionString.head? == some ':'
    -- The place in the word before, if it has options left.
    let inWord : Option Text := do
      let offset ← p.optionOffset
      let word ← if index ≤ 1 then none else words[index - 2]?
      if word.length < offset then none else
        match word.drop offset with
        | [] => none
        | rest => some rest
    let finish (index : Nat) (rest : Option Text) (c : Char) (code : Nat) : Act Nat := do
      setVariable "OPTIND".toList (Text.ofNat index)
      setNamed name [c]
      let length := ((words[index - 2]?).getD []).length
      modifyProcess fun p =>
        { p with
          optionIndex := index
          optionOffset := if index ≤ 1 then none else rest.map fun r => length - r.length }
      return code
    let forgetValue : Act Unit := unsetVariable "OPTARG".toList
    let start : Option (Nat × Text) := match inWord with
      | some rest => some (index, rest)
      | none =>
        match words[index - 1]? with
        | some ('-' :: c :: rest) =>
          if c == '-' && rest.isEmpty then none else some (index + 1, c :: rest)
        | _ => none
    match start with
    | none =>
      let atDashes := inWord.isNone && words[index - 1]? == some ['-', '-']
      finish (if atDashes then index + 1 else index) none '?' 1
    | some (_, []) => finish index none '?' 1
    | some (index, c :: rest) =>
      match (optionString.dropWhile fun d => d != c || d == ':') with
      | [] =>
        if quiet then setVariable "OPTARG".toList [c]
        else
          complainPlainly ("Illegal option -".toList ++ [c])
          forgetValue
        finish index (some rest) '?' 0
      | _ :: ':' :: _ =>
        match rest, words[index - 1]? with
        | _ :: _, _ =>
          setVariable "OPTARG".toList rest
          finish index none c 0
        | [], some value =>
          setVariable "OPTARG".toList value
          finish (index + 1) none c 0
        | [], none =>
          if quiet then
            setVariable "OPTARG".toList [c]
            finish index none ':' 0
          else
            complainPlainly ("No arg for -".toList ++ [c] ++ " option".toList)
            forgetValue
            finish index none '?' 0
      | _ =>
        setVariable "OPTARG".toList []
        finish index (some rest) c 0
  | _ => fail "Usage: getopts optstring var [arg...]".toList

/-! ### Directories -/

/-- Exactly two separators stand at the beginning of a path. -/
def hasDoubleRoot (path : Text) : Bool :=
  ['/', '/'].isPrefixOf path && path[2]? != some '/'

/-- A path with the steps `.` and `..` taken out of its text.  Two separators at its beginning
stay two. -/
def tidyPath (current path : Text) : Text :=
  let whole := if Machine.isAbsolute path then path else current ++ '/' :: path
  let steps := (Text.pieces '/' whole).filter fun s => s ≠ [] && s ≠ ['.']
  let result := steps.foldl (fun done s =>
    if s = ['.', '.'] then done.dropLast else done ++ [s]) []
  let tidied := '/' :: Text.joinWith ['/'] result
  if hasDoubleRoot path then '/' :: tidied else tidied

/-- Go to a directory.  The result says whether that was possible. -/
def goTo (physical : Bool) (path : Text) : Act Bool := do
  let s ← get
  let p := s.process
  let logical := tidyPath p.current path
  let target := if physical then path else logical
  match s.system.files.locate p.directory (Machine.toBytes target) with
  | .error _ => return false
  | .ok place =>
    if s.system.files.node? place ≠ some .directory then return false
    let current := if physical then Machine.pathTo place else logical
    let old := p.current
    modifyProcess fun p => { p with directory := place, current := current }
    setVariable "OLDPWD".toList old
    markVariable "OLDPWD".toList true false
    setVariable "PWD".toList current
    markVariable "PWD".toList true false
    return true

/-- The directories that a relative path may start from, each with its way of being shown. -/
def directoryCandidates (p : Process) (target : Text) : List (Text × Bool) :=
  let relative := Machine.isAbsolute target ||
    (Text.pieces '/' target).head? == some ['.'] || (Text.pieces '/' target).head? == some ['.', '.']
  if relative then []
  else match p.value? "CDPATH".toList with
    | none => []
    | some search => (Machine.searchEntries search).map fun entry =>
        (Machine.joinPaths entry target, !entry.isEmpty)

/-- `cd`. -/
def runCd (arguments : List Text) : Act Nat := do
  let (given, rest) ← options "LP" arguments
  let physical := given.getLast?.any (·.1 == 'P')
  let s ← get
  let p := s.process
  let (target, shown) := match rest with
    | [] => ((p.value? "HOME".toList).getD [], false)
    | ['-'] :: _ => ((p.value? "OLDPWD".toList).getD [], true)
    | t :: _ => (t, false)
  let target := if target.isEmpty then ['.'] else target
  let isDirectory (path : Text) : Bool :=
    s.system.files.isDirectory p.directory (Machine.toBytes path)
  let (path, shown) := match (directoryCandidates p target).find? (isDirectory ·.1) with
    | some (path, byEntry) => (path, shown || byEntry)
    | none => (target, shown)
  if !(← goTo physical path) then fail ("can't cd to ".toList ++ target)
  if shown then print (Text.line (← process).current)
  return succeeded

/-- `pwd`. -/
def runPwd (arguments : List Text) : Act Nat := do
  let (given, _) ← options "LP" arguments
  let p ← process
  print (Text.line (if given.getLast?.any (·.1 == 'P')
    then Machine.pathTo p.directory else p.current))
  return succeeded

/-! ### Finding commands -/

/-- The commands that the shell runs itself. -/
def builtinNames : List String :=
  specialCommands ++
    ["[", "alias", "bg", "cd", "chdir", "command", "echo", "false", "fg", "getopts", "hash",
      "jobs", "kill", "printf", "pwd", "read", "test", "true", "type", "ulimit", "umask",
      "unalias", "wait"]

/-- What a name of a command stands for. -/
inductive Found where
  | builtin
  | function (f : Function)
  /-- A program, at a path. -/
  | program (path : Text)
  /-- Nothing; the flag says that there is a file that cannot be run. -/
  | nothing (forbidden : Bool)

/-- The first entry of a search path with a program of a name. -/
def searchProgram (files : FileSystem) (base : RealPath) (name : Text) :
    Bool → List Text → Found
  | forbidden, [] => .nothing forbidden
  | forbidden, entry :: rest =>
    let path := Machine.joinPaths entry name
    match files.find? base (Machine.toBytes path) with
    | .ok (.file _ true) => .program path
    | .ok _ => searchProgram files base name true rest
    | .error _ => searchProgram files base name forbidden rest

/-- The search path that is used when the variable is not set. -/
def defaultSearch : Text :=
  "/usr/local/sbin:/usr/local/bin:/usr/sbin:/usr/bin:/sbin:/bin".toList

/-- What a name of a command stands for.  A name with a separator is a path. -/
def State.findCommand (s : State) (functions : Bool) (search : Option Text) (name : Text) :
    Found :=
  if name.contains '/' then .program name
  else
    let special := specialCommands.contains (String.ofList name)
    let function := if functions then s.process.functions.lookup name else none
    match special, function with
    | true, _ => .builtin
    | false, some f => .function f
    | false, none =>
      if builtinNames.contains (String.ofList name) then .builtin
      else
        let search := search.getD ((s.process.value? "PATH".toList).getD [])
        searchProgram s.system.files s.process.directory name false (Machine.searchEntries search)

/-- Describe what a name stands for.  The result says whether it stands for anything. -/
def describe (verbose : Bool) (search : Option Text) (name : Text) : Act Bool := do
  let s ← get
  let say (long short : Text) : Act Bool := do
    print (Text.line (if verbose then name ++ long else short))
    return true
  if keywords.contains (String.ofList name) then say " is a shell keyword".toList name
  else match s.process.aliases.lookup name with
    | some value =>
      say (" is an alias for ".toList ++ value)
        ("alias ".toList ++ name ++ '=' :: singleQuoted value)
    | none =>
      match s.findCommand true search name with
      | .builtin =>
        say (if specialCommands.contains (String.ofList name)
          then " is a special shell builtin".toList else " is a shell builtin".toList) name
      | .function _ => say " is a shell function".toList name
      | .program path =>
        -- A path has to lead somewhere.
        if s.system.files.pathExists s.process.directory (Machine.toBytes path) then
          say (" is ".toList ++ path) path
        else
          if verbose then print (name ++ ": not found\n".toList)
          return false
      | .nothing _ =>
        if verbose then print (name ++ ": not found\n".toList)
        return false

/-- Describe names one after the other. -/
def describeAll (verbose : Bool) (search : Option Text) (names : List Text) : Act Nat := do
  names.foldlM (fun code name => do
    return if ← describe verbose search name then code else 127) 0

/-! ### Aliases -/

/-- `alias`. -/
def runAlias (arguments : List Text) : Act Nat := do
  let printOne (name value : Text) : Act Unit := print (Text.line (name ++ '=' :: singleQuoted value))
  if arguments.isEmpty then
    let known := (← process).aliases.mergeSort fun a b => Text.le a.1 b.1
    known.forM fun (name, value) => printOne name value
  arguments.foldlM (fun code t => do
    let name := t.take 1 ++ (t.drop 1).takeWhile (· != '=')
    if name.length < t.length then
      modifyProcess fun p =>
        { p with aliases := setEntry name (t.drop (name.length + 1)) p.aliases }
      return code
    else match (← process).aliases.lookup name with
      | some value =>
        printOne name value
        return code
      | none =>
        complainPlainly ("alias: ".toList ++ name ++ " not found".toList)
        return 1) 0

/-- `unalias`. -/
def runUnalias (arguments : List Text) : Act Nat := do
  let (given, names) ← options "a" arguments
  if !given.isEmpty then
    modifyProcess fun p => { p with aliases := [] }
    return 0
  names.foldlM (fun code name => do
    if ((← process).aliases.lookup name).isSome then
      modifyProcess fun p => { p with aliases := eraseEntry name p.aliases }
      return code
    else
      complainPlainly ("unalias: ".toList ++ name ++ " not found".toList)
      return 1) 0

/-! ### Signals -/

/-- `trap`. -/
def runTrap (arguments : List Text) : Act Nat := do
  let (_, rest) ← options "" arguments
  match rest with
  | [] =>
    let p ← process
    (List.range Signal.limit).forM fun n =>
      match p.traps.lookup n with
      | some action => print (Text.line ("trap -- ".toList ++ singleQuoted action ++ ' ' :: Signal.name n))
      | none => pure ()
    return 0
  | first :: others =>
    let (action, names) := if others.isEmpty || (Signal.ofNumber? first).isSome
      then (none, rest) else (some first, others)
    let action := if action == some ['-'] then none else action
    names.foldlM (fun code name => do
      if code ≠ 0 then return code
      match Signal.ofText? 0 name with
      | none =>
        complainPlainly ("trap: ".toList ++ name ++ ": bad trap".toList)
        return 1
      | some n =>
        modifyProcess fun p =>
          let traps := p.traps.filter (·.1 ≠ n)
          { p with traps := match action with
              | some t => (n, t) :: traps
              | none => traps }
        return 0) 0

/-- A signal reaches the process. -/
def receive (signal : Nat) : Act Unit := do
  let p ← process
  if Signal.unavoidable.contains signal then throw (.killed signal)
  match p.traps.lookup signal with
  | some [] => return
  | some _ =>
    if signal ≠ 0 && !p.arrived.contains signal then
      modifyProcess fun p => { p with arrived := p.arrived ++ [signal] }
  | none => if Signal.harmless.contains signal then return else throw (.killed signal)

/-- Send a signal to a process.  The result says whether there is one. -/
def send (signal id : Nat) : Act Bool := do
  let p ← process
  if id = p.id || id = 0 then
    receive signal
    return true
  else if id = p.rootId then
    modify fun s => { s with system := { s.system with signals := (id, signal) :: s.system.signals } }
    return true
  else return p.jobs.any (·.1 = id)

/-- Print the signals, or the name of one. -/
def listSignals (arguments : List Text) : Act Nat := do
  match arguments with
  | [] =>
    print "0\n".toList
    (List.range Signal.limit).tail.forM fun n => print (Text.line (Signal.name n))
    return 0
  | t :: _ =>
    let n ← countOf t
    let n := if 128 < n then n - 128 else n
    if 0 < n && n < Signal.limit then
      print (Text.line (Signal.name n))
      return 0
    else fail ("invalid signal number or exit status: ".toList ++ t)

/-- `kill`. -/
def runKill (arguments : List Text) : Act Nat := do
  let usage : Text := ("Usage: kill [-s sigspec | -signum | -sigspec] [pid | job]... or\n" ++
    "kill -l [exitstatus]").toList
  let sendAll (signal : Nat) (ids : List Text) : Act Nat := do
    if ids.isEmpty then fail usage
    ids.foldlM (fun code t => do
      let id ← countOf (if t.head? == some '-' then t.tail else t)
      if ← send signal id then return code
      complain "No such process\n".toList
      return 1) 0
  match arguments with
  | [] => fail usage
  | ('-' :: name) :: rest =>
    match Signal.ofText? 1 name with
    | some n => sendAll n rest
    | none =>
      let (given, ids) ← options "ls:" arguments
      let signal ← given.foldlM (fun signal (c, value) => do
        if c ≠ 's' then return signal
        match Signal.ofText? 1 value with
        | some n => return some n
        | none => fail ("invalid signal number or name: ".toList ++ value)) none
      if given.any (·.1 == 'l') then
        if signal.isSome then fail usage else listSignals ids
      else sendAll (signal.getD 15) ids
  | ids => sendAll 15 ids

/-! ### Permissions -/

/-- Digits of an octal number of three figures, with zeros before them. -/
def octalText (n : Nat) : Text :=
  let digits := Nat.toDigits 8 n
  List.replicate (4 - digits.length) '0' ++ digits

/-- The permissions that a mask leaves, by their letters. -/
def maskText (mask : Nat) : Text :=
  let letters (shift : Nat) : Text :=
    let bits := 7 - mask / Nat.pow 8 shift % 8
    (if bits / 4 % 2 = 1 then ['r'] else []) ++ (if bits / 2 % 2 = 1 then ['w'] else []) ++
      (if bits % 2 = 1 then ['x'] else [])
  "u=".toList ++ letters 2 ++ ",g=".toList ++ letters 1 ++ ",o=".toList ++ letters 0

/-- The permissions after a change that is written with letters. -/
def changeMode (allowed : Nat) (clause : Text) : Option Nat :=
  let who := clause.takeWhile ("ugoa".toList.contains ·)
  let who := if who.isEmpty || who.contains 'a' then "ugo".toList else who
  match clause.dropWhile ("ugoa".toList.contains ·) with
  | operator :: letters =>
    if !"=+-".toList.contains operator || !letters.all ("rwx".toList.contains ·) then none
    else
      let bits := (if letters.contains 'r' then 4 else 0) + (if letters.contains 'w' then 2 else 0) +
        (if letters.contains 'x' then 1 else 0)
      some (("ugo".toList.zip [64, 8, 1]).foldl (fun n (c, weight) =>
        if !who.contains c then n
        else
          let old := n / weight % 8
          let new := match operator with
            | '=' => bits
            | '+' => old ||| bits
            | _ => old - (old &&& bits)
          n - old * weight + new * weight) allowed)
  | [] => none

/-- `umask`. -/
def runUmask (arguments : List Text) : Act Nat := do
  let (given, rest) ← options "S" arguments
  let p ← process
  match rest with
  | [] =>
    print (Text.line (if given.isEmpty then octalText p.mask else maskText p.mask))
    return 0
  | t :: _ =>
    if t.head?.any Text.isDigit then
      if !t.all Format.isOctal then failNumber t
      modifyProcess fun p => { p with mask := digitsValue 8 t % 512 }
      return 0
    else
      match (Text.pieces ',' t).foldlM changeMode (511 - p.mask) with
      | some allowed =>
        modifyProcess fun p => { p with mask := 511 - allowed }
        return 0
      | none => fail ("Illegal mode: ".toList ++ t)

/-! ### Other commands -/

/-- `printf`. -/
def runPrintf (arguments : List Text) : Act Nat := do
  let (_, rest) ← options "" arguments
  match rest with
  | [] => fail "usage: printf format [arg ...]".toList
  | format :: values =>
    let printed := Format.printf format values
    printed.warnings.forM complain
    print printed.output.reverse.flatten
    match printed.fault with
    | some reason => fail reason
    | none => return if printed.warnings.isEmpty then 0 else 1

/-- `test`, and `[` with a bracket at the end. -/
def runTest (command : Text) (arguments : List Text) : Act Nat := do
  let arguments ← if command == ['['] then
      match arguments.getLast? with
      | some (']' :: _) => pure arguments.dropLast
      | _ => fail "missing ]".toList
    else pure arguments
  let s ← get
  match Condition.evaluate ⟨s.system.files, s.process.directory⟩ arguments with
  | .ok true => return 0
  | .ok false => return 1
  | .error reason => fail reason

/-- Pass over commands up to the end of loops. -/
def leaveLoops (skip : Skip) (arguments : List Text) : Act Nat := do
  let n ← match arguments with
    | [] => pure 1
    | t :: _ => do
      let n ← countOf t
      if n = 0 then failNumber t
      pure n
  modifyProcess fun p =>
    let n := min n p.loops
    if n = 0 then p else { p with skip := skip, skipCount := n }
  return succeeded

/-- `return`. -/
def runReturn (arguments : List Text) : Act Nat := do
  match arguments with
  | [] =>
    modifyProcess fun p => { p with skip := .leaveFunction false }
    return (← process).status
  | t :: _ =>
    let n ← countOf t
    modifyProcess fun p => { p with skip := .leaveFunction true }
    return n

/-- `exit`. -/
def runExit (arguments : List Text) : Act Nat := do
  match arguments with
  | [] => throw (.exited none)
  | t :: _ => throw (.exited (some (← countOf t)))

/-- `wait`. -/
def runWait (arguments : List Text) : Act Nat := do
  arguments.foldlM (fun _ t => do
    let id ← countOf t
    return ((← process).jobs.lookup id).getD 127) 0

/-- `hash`. -/
def runHash (arguments : List Text) : Act Nat := do
  let (_, names) ← options "rv" arguments
  names.foldlM (fun code name => do
    match (← get).findCommand true none name with
    | .nothing _ =>
      complain (name ++ ": not found".toList)
      return 1
    | _ => return code) 0

/-- Run a command that runs no other commands.  The status before is what the last command
left. -/
def runBuiltin (command : Text) (arguments : List Text) : Act Nat := do
  match String.ofList command with
  | ":" | "true" => return 0
  | "false" => return 1
  | "echo" =>
    print (Format.echo arguments)
    return 0
  | "printf" => runPrintf arguments
  | "test" | "[" => runTest command arguments
  | "read" => runRead arguments
  | "getopts" => runGetopts arguments
  | "cd" | "chdir" => runCd arguments
  | "pwd" => runPwd arguments
  | "export" | "readonly" => runMark command arguments
  | "local" => runLocal arguments
  | "unset" => runUnset arguments
  | "set" => runSet arguments
  | "shift" => runShift arguments
  | "alias" => runAlias arguments
  | "unalias" => runUnalias arguments
  | "type" => describeAll true none arguments
  | "hash" => runHash arguments
  | "trap" => runTrap arguments
  | "kill" => runKill arguments
  | "umask" => runUmask arguments
  | "break" => leaveLoops .leaveLoop arguments
  | "continue" => leaveLoops .nextRound arguments
  | "return" => runReturn arguments
  | "exit" => runExit arguments
  | "wait" => runWait arguments
  | "ulimit" =>
    print "unlimited\n".toList
    return 0
  | "times" =>
    print "0m0.000000s 0m0.000000s\n0m0.000000s 0m0.000000s\n".toList
    return 0
  | "bg" | "fg" => fail "No current job".toList
  | _ => return 0

end CommandShell.Script
