import CommandShell.Script.Run

/-!
# The system shell as a program

The system shell takes options, and then a command, a script, or nothing, in which case its
commands come from its input.  It takes over the variables it is handed, apart from the
separators of fields, which are always the usual ones at the start.
-/

namespace CommandShell.Script

open Machine (System Spawn Start)

/-- The variables that every shell has from the start. -/
def initialVariables : List (Text × Variable) :=
  let plain (name value : String) : Text × Variable :=
    (name.toList, ⟨some value.toList, false, false⟩)
  [("PATH".toList, ⟨some defaultSearch, false, false⟩), plain "PS1" "# ", plain "PS2" "> ",
    plain "PS4" "+ "]

/-- A variable is a path of the directory that the process is in. -/
def leadsTo (files : FileSystem) (directory : RealPath) (path : Text) : Bool :=
  Machine.isAbsolute path &&
    (files.locate [] (Machine.toBytes path)).toOption == some directory

/-- The process of a shell that is started. -/
def Process.ofStart (files : FileSystem) (id : Nat) (start : Start) : Process :=
  let handed := (start.vars.filter fun (name, _) => Word.isName name).foldl
    (fun vs (name, value) => setEntry name (⟨some value, true, false⟩ : Variable) vs)
    initialVariables
  let current := match (handed.lookup "PWD".toList).bind (·.value) with
    | some path =>
      if leadsTo files start.directory path then path
      else Machine.pathTo start.directory
    | none => Machine.pathTo start.directory
  let reset (vs : List (Text × Variable)) (name value : Text) (exported : Bool) :
      List (Text × Variable) :=
    setEntry name ⟨some value, exported || (vs.lookup name).any (·.exported), false⟩ vs
  let vars := reset handed "IFS".toList " \t\n".toList false
  let vars := reset vars "OPTIND".toList ['1'] false
  let vars := reset vars "PPID".toList ['1'] false
  let vars := reset vars "PWD".toList current true
  { name := start.arguments.headD "sh".toList
    arguments := []
    vars := vars
    functions := []
    aliases := []
    options := []
    directory := start.directory
    current := current
    descriptors := start.descriptors
    status := 0
    expandedStatus := 0
    skip := .nothing
    skipCount := 0
    loops := 0
    line := 0
    sourceLine := 1
    command := none
    traps := []
    arrived := []
    scopes := []
    optionIndex := 1
    optionOffset := none
    id := id
    rootId := id
    lastBackground := none
    jobs := []
    mask := 18
    documents := []
    nextDocument := 0
    printed := []
    depth := 0 }

/-- What a shell was asked to run. -/
structure Request where
  /-- A command was asked for. -/
  command : Bool
  rest : List Text

/-- Switch the options of one argument of the shell. -/
def startOptions : Text → Bool → List Text → Act (Bool × List Text)
  | [], command, rest => return (command, rest)
  | 'c' :: letters, _, rest => startOptions letters true rest
  | 'l' :: letters, command, rest => startOptions letters command rest
  | 'o' :: letters, command, rest => do
    startOptions letters command (← switchOptions true ['o'] rest)
  | c :: letters, command, rest => do
    let _ ← switchOptions true [c] []
    startOptions letters command rest

/-- Read the options of the shell. -/
def readRequest : Nat → Bool → List Text → Act Request
  | 0, command, arguments => return ⟨command, arguments⟩
  | n + 1, command, arguments =>
    match arguments with
    | ['-'] :: rest => return ⟨command, rest⟩
    | ['-', '-'] :: rest => return ⟨command, rest⟩
    | ('-' :: letters) :: rest => do
      let (command, rest) ← startOptions letters command rest
      readRequest n command rest
    | ('+' :: letters) :: rest => do readRequest n command (← switchOptions false letters rest)
    | rest => return ⟨command, rest⟩

/-- The text of a script without the zero characters that are left out when it is read. -/
def scriptText (t : Text) : Text :=
  t.filter (· != '\x00')

/-- Run the commands that come from the input. -/
def runInput (spawn : Spawn) (fuel : Nat) : Act Nat := do
  let s ← get
  let id := (s.process.descriptors.lookup 0).getD s.system.streams.size
  let t := (s.system.remaining id).toOption.getD []
  set { s with system := s.system.advance id t.length }
  let _ ← runSource spawn fuel false (.ofText (scriptText t)) 0
  status

/-- Run what the shell was asked to run. -/
def runRequest (spawn : Spawn) (fuel : Nat) (arguments : List Text) : Act Nat := do
  let r ← readRequest (arguments.length + 1) false arguments
  match r.command, r.rest with
  | true, [] => fail "-c requires an argument".toList
  | true, text :: rest =>
    match rest with
    | name :: arguments => modifyProcess fun p => { p with name := name, arguments := arguments }
    | [] => pure ()
    let _ ← runText spawn fuel false text
    if (← process).has 's' then runInput spawn fuel else status
  | false, [] =>
    modifyProcess (·.switch 's' true)
    runInput spawn fuel
  | false, script :: arguments =>
    if (← process).has 's' then
      modifyProcess fun p => { p with arguments := script :: arguments }
      runInput spawn fuel
    else
      let s ← get
      match s.system.files.find? s.process.directory (Machine.toBytes script) with
      | .error e => fail ("cannot open ".toList ++ script ++ ": ".toList ++ refusal "No such file" e)
      | .ok node =>
        let t := match node with
          | .file bytes _ => Machine.ofBytes bytes
          | _ => []
        modifyProcess fun p => { p with name := script, arguments := arguments }
        let _ ← runSource spawn fuel false (.ofText (scriptText t)) 0
        status

/-- The fuel of a shell. -/
def runFuel : Nat := 1000000000

/-- Run the system shell. -/
def runShell (spawn : Spawn) (start : Start) (system : System) : Ending × System :=
  let id := system.nextProcess
  let state : State :=
    ⟨.ofStart system.files id start, { system with nextProcess := id + 1 }⟩
  match (toEnd spawn runFuel (runRequest spawn runFuel start.arguments.tail)).run state with
  | .ok ending s => (ending, s.system)
  | .error stop s => (s.process.ending stop, s.system)

end CommandShell.Script
