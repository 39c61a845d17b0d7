import CommandShell.Script.Builtin

/-!
# Running commands

Commands change the process and the system, and have a code as their result.  A command that
is tested, as the condition of another, does not end a script that ends at the first failure.

Loops, functions and scripts may run on, so every step has less fuel than the one that takes
it; a script that ends at all takes fewer steps than the fuel.  How programs are started is
handed in.

The commands of a pipeline run one after the other, each with what the one before it wrote.
-/

namespace CommandShell.Script

open Machine (System Spawn Start)

/-! ### Endings -/

/-- The code of an ending.  An ending that is not told counts like a process that is not known. -/
def endingStatus : Ending → Nat
  | .exited code => code
  | .killed signal => 128 + signal
  | .untold _ => 127

/-- The code that a stopped process leaves, and the signal that ended it. -/
def Process.ending (p : Process) : Stop → Ending
  | .failed => .exited (p.status % 256)
  | .exited code => .exited (code.getD p.status % 256)
  | .killed signal => .killed signal
  | .replaced ending => ending

/-- Report the end of another process by a signal. -/
def reportEnding (e : Ending) : Act Nat := do
  match e with
  | .killed signal =>
    if !Signal.unreported.contains signal then complainPlainly (Signal.report signal)
  | .exited _ | .untold _ => pure ()
  return endingStatus e

/-- Signals that another process sent arrive. -/
def receiveSent : Act Unit := do
  let s ← get
  let mine := (s.system.signals.filter (·.1 = s.process.id)).reverse
  let others := s.system.signals.filter (·.1 ≠ s.process.id)
  set { s with system := { s.system with signals := others } }
  mine.forM fun (_, signal) => receive signal

/-- A process that a subshell starts with: the signals that are waited for are forgotten. -/
def Process.forSubshell (p : Process) (id : Nat) : Process :=
  { p with id := id, traps := p.traps.filter (·.2.isEmpty), arrived := [], jobs := [], printed := [] }

/-! ### Redirections -/

/-- The wording of a refusal to open or start something. -/
def refusal (missing : String) (e : FileError) : Text :=
  match e with
  | .noEntry => missing.toList
  | .notDirectory => missing.toList
  | e => e.reason

/-- How a file is opened for a redirection. -/
def openingOf (p : Process) : Direction → System.Opening
  | .input => .read
  | .output => if p.has 'C' then .create else .write
  | .replacing => .write
  | .appending => .append
  | .both => .readAndWrite

/-- Let a descriptor lead to a stream. -/
def setDescriptor (descriptor id : Nat) : Act Unit :=
  modifyProcess fun p =>
    { p with descriptors := (descriptor, id) :: p.descriptors.filter (·.1 ≠ descriptor) }

/-- Close a descriptor. -/
def closeDescriptor (descriptor : Nat) : Act Unit :=
  modifyProcess fun p => { p with descriptors := p.descriptors.filter (·.1 ≠ descriptor) }

/-- A redirection whose words were expanded. -/
inductive Prepared where
  | file (descriptor : Nat) (direction : Direction) (name : Text)
  | copy (descriptor : Nat) (source : Option Nat)
  | document (descriptor id : Nat)

/-- Complain about a descriptor that is no number, at the line that is read next. -/
def failDescriptor {α : Type} : Act α := do
  modifyProcess fun p => { p with line := p.sourceLine }
  fail "Syntax error: Bad fd number".toList

/-- Expand the words of a redirection. -/
def prepare (run : RunExpanded) : Redirection → Act Prepared
  | .file descriptor direction name => do
    return .file descriptor direction (← expandText run name)
  | .copy descriptor source => return .copy descriptor source
  | .copyWord descriptor word => do
    match ← expandText run word with
    | ['-'] => return .copy descriptor none
    | [c] =>
      if Text.isDigit c then return .copy descriptor (some (c.toNat - 48))
      else failDescriptor
    | _ => failDescriptor
  | .document descriptor id => return .document descriptor id

/-- The descriptor that a redirection changes.  A copy of a descriptor onto itself changes
none. -/
def Prepared.changed? : Prepared → Option Nat
  | .file descriptor _ _ => some descriptor
  | .copy descriptor source => if source = some descriptor then none else some descriptor
  | .document descriptor _ => some descriptor

/-- Carry out a redirection.  `fresh` says that what the descriptor led to was just set aside,
so that it is closed if the redirection fails. -/
def redirect (run : RunExpanded) (fresh : Bool) : Prepared → Act Unit
  | .file descriptor direction name => do
    let s ← get
    match s.system.openFile s.process.directory (openingOf s.process direction) name with
    | .ok (id, system) =>
      set { s with system := system }
      setDescriptor descriptor id
    | .error e =>
      if direction = .input then
        fail ("cannot open ".toList ++ name ++ ": ".toList ++ refusal "No such file" e)
      else fail ("cannot create ".toList ++ name ++ ": ".toList ++ refusal "Directory nonexistent" e)
  | .copy descriptor none => closeDescriptor descriptor
  | .copy descriptor (some source) => do
    if source = descriptor then return
    match (← process).descriptors.lookup source with
    | some id => setDescriptor descriptor id
    | none =>
      if fresh then closeDescriptor descriptor
      fail (Text.ofNat source ++ ": Bad file descriptor".toList)
  | .document descriptor id => do
    let d := ((← process).documents.lookup id).getD ⟨[], true⟩
    let t ← expandDocument run d
    let s ← get
    let (id, system) := s.system.add (.source t)
    set { s with system := system }
    setDescriptor descriptor id

/-- Carry out redirections, where the given descriptors were set aside before. -/
def redirectFrom (run : RunExpanded) : List Nat → List Prepared → Act Unit
  | _, [] => return
  | aside, r :: rest => do
    redirect run (r.changed?.all (!aside.contains ·)) r
    redirectFrom run (r.changed?.toList ++ aside) rest

/-- Carry out redirections.  The result says whether that was possible; if not, there was a
complaint. -/
def redirectAll (run : RunExpanded) (rs : List Prepared) : Act Bool :=
  tryCatch (do
    redirectFrom run [] rs
    return true) fun stop =>
      match stop with
      | .failed => return false
      | stop => throw stop

/-- Carry out a command, and bring back the descriptors afterwards, however it ends. -/
def keepingDescriptors {α : Type} (act : Act α) : Act α := do
  let descriptors := (← process).descriptors
  let restore : Act Unit := modifyProcess fun p => { p with descriptors := descriptors }
  let result ← tryCatch act fun stop => do
    restore
    throw stop
  restore
  return result

/-! ### Programs -/

/-- What a program is started with. -/
def Process.start (p : Process) (arguments : List Text) : Start :=
  ⟨arguments, p.environment, p.directory, p.descriptors⟩

/-- The path of the system shell. -/
def shellPath : Text := "/bin/sh".toList

/-- Start the program at a path.  A file that is neither a program nor a script is run by the
system shell. -/
def startProgram (spawn : Spawn) (path : Text) (arguments : List Text) :
    Act (Except FileError Ending) := do
  let s ← get
  let attempt (path : Text) (arguments : List Text) : Except FileError (Ending × System) :=
    spawn path (s.process.start arguments) s.system
  let result := match attempt path arguments with
    | .error .execFormat => attempt shellPath (shellPath :: path :: arguments.tail)
    | result => result
  match result with
  | .ok (ending, system) =>
    set { s with system := system }
    return .ok ending
  | .error e => return .error e

/-- Start the first program of a name along a search path that can be started. -/
def startAlong (spawn : Spawn) (name : Text) (arguments : List Text) :
    FileError → List Text → Act (Except FileError Ending)
  | e, [] => return .error e
  | e, entry :: rest => do
    match ← startProgram spawn (Machine.joinPaths entry name) arguments with
    | .ok ending => return .ok ending
    | .error .noEntry => startAlong spawn name arguments e rest
    | .error .notDirectory => startAlong spawn name arguments e rest
    | .error e' => startAlong spawn name arguments e' rest

/-- Start a program by a name or a path. -/
def startNamed (spawn : Spawn) (search : Option Text) (arguments : List Text) :
    Act (Except FileError Ending) := do
  let name := arguments.headD []
  if name.contains '/' then startProgram spawn name arguments
  else
    let search := search.getD (((← process).value? "PATH".toList).getD [])
    startAlong spawn name arguments .noEntry (Machine.searchEntries search)

/-- The code of a program that could not be started. -/
def refusedStatus : FileError → Nat
  | .noEntry => 127
  | .notDirectory => 127
  | .tooManyLinks => 127
  | .nameTooLong => 127
  | _ => 126

/-- Run a program and wait for it. -/
def runProgram (spawn : Spawn) (search : Option Text) (arguments : List Text) : Act Nat := do
  match ← startNamed spawn search arguments with
  | .ok ending =>
    receiveSent
    reportEnding ending
  | .error e =>
    complain (arguments.headD [] ++ ": ".toList ++ refusal "not found" e)
    return refusedStatus e

/-- Let a program take the place of the process. -/
def replaceProcess (spawn : Spawn) (arguments : List Text) : Act Nat := do
  match ← startNamed spawn none arguments with
  | .ok ending => throw (.replaced ending)
  | .error e =>
    let reason := arguments.headD [] ++ ": ".toList ++ refusal "not found" e
    stopWith (refusedStatus e) (.exited none) reason

/-! ### Simple commands -/

/-- What `command` was asked for: nothing but the command after it, or a description. -/
def stripCommand : Nat → List Text → Option (Bool × List Text)
  | 0, _ => none
  | _, [] => none
  | n + 1, t :: rest =>
    match t with
    | ['-', '-'] => if rest.isEmpty then none else some (false, rest)
    | '-' :: c :: letters =>
      if (c :: letters).all (· == 'p') then (stripCommand n rest).map fun (_, r) => (true, r)
      else none
    | _ => some (false, t :: rest)

/-- The words of a simple command without `command` before them: whether functions count, the
search path if it is the default one, and the words. -/
def effective : Nat → Bool → Bool → List Text → Bool × Bool × List Text
  | 0, functions, standard, words => (functions, standard, words)
  | n + 1, functions, standard, words =>
    match words with
    | w :: rest =>
      if w == "command".toList then
        match stripCommand (rest.length + 1) rest with
        | some (p, words) => effective n false (standard || p) words
        | none => (functions, standard, words)
      else (functions, standard, words)
    | [] => (functions, standard, [])

/-- The commands whose arguments may be assignments. -/
def takesAssignments (words : List Text) : Bool :=
  match (effective words.length true false words).2.2 with
  | w :: _ => ["alias", "export", "local", "readonly"].contains (String.ofList w)
  | [] => false

/-- Expand the words of a simple command. -/
def expandArguments (run : RunExpanded) : List Text → List Word → Act (List Text)
  | done, [] => return done
  | done, w :: rest => do
    let fields ← if takesAssignments done && Word.isAssignment w then do
        pure [← expandAssignment run w]
      else expandFields run w
    expandArguments run (done ++ fields) rest

/-- Assignments before a command, which last as long as it runs or from then on. -/
def assignAll (run : RunExpanded) (lasting exported : Bool) (assignments : List Word) :
    Act (List Text) :=
  assignments.mapM fun w => do
    let t ← expandAssignment run w
    let (name, value) := nameAndValue t
    if !lasting then modifyProcess (·.keep name)
    setVariable name (value.getD [])
    if !lasting || exported then markVariable name true false
    return t

/-- Write a command before it is run, where that is asked for. -/
def trace (descriptors : List (Nat × Nat)) (words : List Text) : Act Unit := do
  let p ← process
  if p.has 'x' then
    let start := (p.value? "PS4".toList).getD []
    let now := p.descriptors
    modifyProcess fun p => { p with descriptors := descriptors }
    complainPlainly (start ++ Text.joinWith [' '] words)
    modifyProcess fun p => { p with descriptors := now }

/-- Run a built-in command as a command of a name: what it printed is written at its end. -/
def asCommand (name : Text) (act : Act Nat) : Act Nat := do
  let outer := (← process).command
  modifyProcess fun p => { p with command := some name }
  let restore : Act Unit := modifyProcess fun p => { p with command := outer, printed := [] }
  let status ← tryCatch act fun stop => do
    let _ ← flush
    restore
    throw stop
  let written ← flush
  if !written then complain (name ++ ": I/O error".toList)
  restore
  let status := if written then status else if status = 0 then 1 else status
  modifyProcess fun p => { p with status := status }
  return status

/-- The end of a round of a loop: what was to be passed over.  The innermost loop takes away one
of the loops to be left. -/
def endRound : Act Skip := do
  let p ← process
  match p.skip with
  | .leaveLoop | .nextRound =>
    if p.skipCount ≤ 1 then
      modifyProcess fun p => { p with skip := .nothing, skipCount := 0 }
      return p.skip
    else
      modifyProcess fun p => { p with skipCount := p.skipCount - 1 }
      return .leaveLoop
  | skip => return skip

/-- A loop goes on after a round that ended in this way. -/
def Skip.goesOn : Skip → Bool
  | .nothing => true
  | .nextRound => true
  | _ => false

/-- Functions are nested at most this deep. -/
def depthLimit : Nat := 1000

/-- The code of the process. -/
def status : Act Nat := do
  return (← process).status

/-- Set the code of the process. -/
def setStatus (n : Nat) : Act Nat := do
  modifyProcess fun p => { p with status := n }
  return n

/-- Set the line that complaints name. -/
def atLine (line : Nat) : Act Unit :=
  modifyProcess fun p => { p with line := line }

/-- The commands of the next line of a source, which goes on after them. -/
def nextCommands (source : Source) : Act (ReadList × Source) := do
  let p ← process
  let source := { source with
    aliases := p.aliases, documents := p.documents, nextDocument := p.nextDocument }
  let keep (s : Source) : Act Unit :=
    modifyProcess fun p => { p with documents := s.documents, nextDocument := s.nextDocument }
  match readLine.run source with
  | .ok result source' =>
    keep source'
    modifyProcess fun p => { p with sourceLine := source'.line }
    return (result, source')
  | .error f source' =>
    keep source'
    atLine f.line
    fail ("Syntax error: ".toList ++ f.reason)

mutual

/-- Run a command. -/
def runCommand (spawn : Spawn) : Nat → Bool → Command → Act Nat
  | 0, _, _ => throw (.killed 9)
  | n + 1, tested, c => do
    if (← process).has 'n' then return ← status
    runTraps spawn n
    let run := runExpanded spawn n
    let checked (act : Act Nat) : Act Nat := do
      let code ← setStatus (← act)
      runTraps spawn n
      if code ≠ 0 && !tested && (← process).has 'e' then throw (.exited none)
      return code
    match c with
    | .simple line assignments words redirections =>
      checked (runSimple spawn n tested line assignments words redirections)
    | .pipeline commands isBackground =>
      if isBackground then
        checked (runBackground spawn n (.pipeline commands false))
      else checked (runPipeline spawn n tested none commands)
    | .subshell line body redirections =>
      checked do
        atLine line
        let rs ← redirections.mapM (prepare run)
        let ending ← inSubshell spawn n do
          rs.forM (redirect run false)
          runCommand spawn n tested body
        receiveSent
        reportEnding ending
    | .background line body redirections =>
      checked do
        let redirected := if redirections.isEmpty then body
          else .subshell line body redirections
        runBackground spawn n redirected
    | .redirected line body redirections => do
      atLine line
      let rs ← redirections.mapM (prepare run)
      let code ← keepingDescriptors do
        if ← redirectAll run rs then runCommand spawn n tested body else pure 2
      setStatus code
    | .both first second => do
      let code ← runCommand spawn n true first
      if code ≠ 0 || (← process).skip ≠ .nothing then status
      else setStatus (← runCommand spawn n tested second)
    | .either first second => do
      let code ← runCommand spawn n true first
      if code = 0 || (← process).skip ≠ .nothing then status
      else setStatus (← runCommand spawn n tested second)
    | .sequence first second => do
      let _ ← runCommand spawn n tested first
      if (← process).skip ≠ .nothing then status
      else setStatus (← runCommand spawn n tested second)
    | .negation body => do
      let code ← runCommand spawn n true body
      if (← process).skip ≠ .nothing then status
      else setStatus (if code = 0 then 1 else 0)
    | .conditional test body otherwise => do
      let code ← runCommand spawn n true test
      if (← process).skip ≠ .nothing then status
      else if code = 0 then setStatus (← runCommand spawn n tested body)
      else match otherwise with
        | some c => setStatus (← runCommand spawn n tested c)
        | none => setStatus 0
    | .loop untilTrue test body => do
      modifyProcess fun p => { p with loops := p.loops + 1 }
      let code ← runLoop spawn n tested untilTrue test body 0
      modifyProcess fun p => { p with loops := p.loops - 1 }
      setStatus code
    | .forEach line name words body => do
      atLine line
      let values ← words.mapM (expandFields run)
      modifyProcess fun p => { p with loops := p.loops + 1 }
      let code ← runRounds spawn n tested name body values.flatten 0
      modifyProcess fun p => { p with loops := p.loops - 1 }
      setStatus code
    | .choice line word cases => do
      atLine line
      let value ← expandText run word
      setStatus (← runCases spawn n tested value cases)
    | .define name line body => do
      modifyProcess fun p => { p with functions := setEntry name ⟨body, line⟩ p.functions }
      setStatus 0

/-- Run the rounds of a loop with a test. -/
def runLoop (spawn : Spawn) : Nat → Bool → Bool → Command → Command → Nat → Act Nat
  | 0, _, _, _, _, _ => throw (.killed 9)
  | n + 1, tested, untilTrue, test, body, code => do
    let tried ← runCommand spawn n true test
    match ← endRound with
    | .nothing =>
      if (tried = 0) = untilTrue then return code
      let code ← runCommand spawn n tested body
      let skip ← endRound
      if skip.goesOn then runLoop spawn n tested untilTrue test body code else return code
    | .nextRound => runLoop spawn n tested untilTrue test body code
    | .leaveFunction true => return tried
    | _ => return code

/-- Run the rounds of a loop over values. -/
def runRounds (spawn : Spawn) : Nat → Bool → Text → Command → List Text → Nat → Act Nat
  | 0, _, _, _, _, _ => throw (.killed 9)
  | _, _, _, _, [], code => return code
  | n + 1, tested, name, body, value :: rest, _ => do
    setVariable name value
    let code ← runCommand spawn n tested body
    let skip ← endRound
    if skip.goesOn then runRounds spawn n tested name body rest code else return code

/-- Run the first case that a value matches. -/
def runCases (spawn : Spawn) :
    Nat → Bool → Text → List (List Word × Option Command) → Act Nat
  | 0, _, _, _ => throw (.killed 9)
  | _, _, _, [] => return 0
  | n + 1, tested, value, (patterns, body) :: rest => do
    if (← process).skip ≠ .nothing then return 0
    if ← anyMatch spawn n value patterns then
      match body with
      | some c => if (← process).skip = .nothing then runCommand spawn n tested c else return 0
      | none => return 0
    else runCases spawn n tested value rest

/-- A value matches one of the patterns, which are expanded only as far as it takes. -/
def anyMatch (spawn : Spawn) : Nat → Text → List Word → Act Bool
  | 0, _, _ => throw (.killed 9)
  | _, _, [] => return false
  | n + 1, value, w :: rest => do
    let pattern ← expandPattern (runExpanded spawn n) w
    if Glob.isMatch pattern value then return true else anyMatch spawn n value rest

/-- Run commands as a process of their own, which starts as a copy of this one. -/
def inSubshell (spawn : Spawn) : Nat → Act Nat → Act Ending
  | 0, _ => throw (.killed 9)
  | n + 1, act => do
    let s ← get
    let id := s.system.nextProcess
    set (⟨s.process.forSubshell id, { s.system with nextProcess := id + 1 }⟩ : State)
    let ending ← toEnd spawn n act
    modify fun s' => { s' with process := s.process }
    return ending

/-- Run commands up to the end of their process, and what is to be run at its end. -/
def toEnd (spawn : Spawn) : Nat → Act Nat → Act Ending
  | 0, _ => throw (.killed 9)
  | n + 1, act => do
    let stop ← tryCatch (do
      let _ ← act
      return Stop.exited none) pure
    let p ← process
    let ending := p.ending stop
    match stop, p.traps.lookup 0 with
    | .killed _, _ => return ending
    | .replaced _, _ => return ending
    | _, none => return ending
    | _, some [] => return ending
    | _, some action =>
      modifyProcess fun p =>
        { p with
          traps := p.traps.filter (·.1 ≠ 0)
          skip := .nothing
          status := endingStatus ending }
      let again ← tryCatch (do
        let _ ← runText spawn n false action
        return Stop.exited (some (endingStatus ending))) pure
      return match again with
        | .exited none => ending
        | stop => p.ending stop

/-- Run a command that is not waited for. -/
def runBackground (spawn : Spawn) : Nat → Command → Act Nat
  | 0, _ => throw (.killed 9)
  | n + 1, c => do
    let id := (← get).system.nextProcess
    let ending ← inSubshell spawn n do
      let s ← get
      let (stream, system) := s.system.add .void
      set { s with system := system }
      setDescriptor 0 stream
      runCommand spawn n false c
    receiveSent
    modifyProcess fun p =>
      { p with lastBackground := some id, jobs := (id, endingStatus ending) :: p.jobs }
    return 0

/-- Run the commands of a pipeline, the first with what was written before it. -/
def runPipeline (spawn : Spawn) : Nat → Bool → Option Text → List Command → Act Nat
  | 0, _, _, _ => throw (.killed 9)
  | _, _, _, [] => return 0
  | n + 1, tested, input, c :: rest => do
    let readInput : Act Unit :=
      match input with
      | none => pure ()
      | some t => do
        let s ← get
        let (id, system) := s.system.add (.source t)
        set { s with system := system }
        setDescriptor 0 id
    match rest with
    | [] =>
      let ending ← inSubshell spawn n do
        readInput
        runCommand spawn n tested c
      receiveSent
      reportEnding ending
    | _ =>
      let s ← get
      let (id, system) := s.system.add (.sink [])
      set { s with system := system }
      let ending ← inSubshell spawn n do
        readInput
        setDescriptor 1 id
        runCommand spawn n tested c
      receiveSent
      let _ ← reportEnding ending
      runPipeline spawn n tested (some ((← get).system.written id)) rest

/-- Run a command that is expanded, with what it writes as the result. -/
def runExpanded (spawn : Spawn) : Nat → Option Command → Act Text
  | 0, _ => throw (.killed 9)
  | _, none => return []
  | n + 1, some c => do
    let s ← get
    let (id, system) := s.system.add (.sink [])
    set { s with system := system }
    let ending ← inSubshell spawn n do
      setDescriptor 1 id
      runCommand spawn n false c
    receiveSent
    let code ← reportEnding ending
    modifyProcess fun p => { p with expandedStatus := code }
    return (← get).system.written id

/-- Run a simple command: its words are expanded, then the redirections are carried out, and
then the assignments. -/
def runSimple (spawn : Spawn) :
    Nat → Bool → Nat → List Word → List Word → List Redirection → Act Nat
  | 0, _, _, _, _, _ => throw (.killed 9)
  | n + 1, tested, line, assignments, words, redirections => do
    atLine line
    modifyProcess fun p => { p with expandedStatus := 0 }
    let run := runExpanded spawn n
    let arguments ← expandArguments run [] words
    let first := String.ofList (arguments.headD [])
    let isSpecial := !arguments.isEmpty && specialCommands.contains first
    let lasting := arguments.isEmpty || isSpecial
    let descriptors := (← process).descriptors
    if !lasting then pushScope
    let restore : Act Unit := modifyProcess fun p => { p with descriptors := descriptors }
    let unwind : Act Unit := if lasting then pure () else popScope
    -- The redirections of `exec` last.
    let replaces := (effective arguments.length true false arguments).2.2.head? == some "exec".toList
    tryCatch (do
      let rs ← redirections.mapM (prepare run)
      let code ← if ← redirectAll run rs then do
          let exported := replaces && 1 < arguments.length
          let assigned ← assignAll run lasting exported assignments
          trace descriptors (assigned ++ arguments)
          if arguments.isEmpty then pure (← process).expandedStatus
          else runWords spawn n tested isSpecial arguments
        else do
          let code ← setStatus 2
          if isSpecial then throw .failed
          pure code
      if !replaces then restore
      unwind
      return code) fun stop => do
        restore
        unwind
        throw stop

/-- Run a command by its words.  The failure of a built-in command ends a script only if it is
one of the special ones. -/
def runWords (spawn : Spawn) : Nat → Bool → Bool → List Text → Act Nat
  | 0, _, _, _ => throw (.killed 9)
  | n + 1, tested, isSpecial, arguments => do
    let (functions, standard, words) := effective arguments.length true false arguments
    let search := if standard then some defaultSearch else none
    let name := words.headD []
    match (← get).findCommand functions search name with
    | .function f => runFunction spawn n tested f words.tail
    | .program _ => runProgram spawn search words
    | .nothing forbidden =>
      complain (name ++ (if forbidden then ": Permission denied".toList else ": not found".toList))
      return 127
    | .builtin =>
      let act : Act Nat := match String.ofList name with
        | "eval" => runText spawn n tested (Text.joinWith [' '] words.tail)
        | "." => runFile spawn n words.tail
        | "exec" => match words.tail with
          | [] => return 0
          | words => replaceProcess spawn words
        | "command" => do
          let (given, names) ← options "pvV" words.tail
          let describes := given.any fun (c, _) => c != 'p'
          let search := if given.any (·.1 == 'p') then some defaultSearch else none
          match describes, names with
          | true, name :: _ => describeAll (given.any (·.1 == 'V')) search [name]
          | _, _ => return 0
        | _ => runBuiltin name words.tail
      tryCatch (asCommand name act) fun stop =>
        if stop = .failed && !isSpecial then status else throw stop

/-- Run a function. -/
def runFunction (spawn : Spawn) : Nat → Bool → Function → List Text → Act Nat
  | 0, _, _, _ => throw (.killed 9)
  | n + 1, tested, f, arguments => do
    let p ← process
    if depthLimit ≤ p.depth then
      fail ("Maximum function recursion depth (".toList ++ Text.ofNat depthLimit ++
        ") reached".toList)
    let restore : Act Unit := modifyProcess fun p' =>
      { p' with
        arguments := p.arguments
        optionIndex := p.optionIndex
        optionOffset := p.optionOffset
        loops := p.loops
        depth := p.depth }
    modifyProcess fun p => { p.withArguments arguments with loops := 0, depth := p.depth + 1 }
    let _ ← tryCatch (runCommand spawn n tested f.body) fun stop => do
      restore
      throw stop
    restore
    modifyProcess fun p =>
      match p.skip with
      | .leaveFunction _ => { p with skip := .nothing }
      | _ => p
    status

/-- Run the commands of a text. -/
def runText (spawn : Spawn) : Nat → Bool → Text → Act Nat
  | 0, _, _ => throw (.killed 9)
  | n + 1, tested, t => do
    let line := (← process).sourceLine
    let code ← runSource spawn n tested (.ofText t) 0
    modifyProcess fun p => { p with sourceLine := line }
    return code

/-- Run the commands of a source, line by line. -/
def runSource (spawn : Spawn) : Nat → Bool → Source → Nat → Act Nat
  | 0, _, _, _ => throw (.killed 9)
  | n + 1, tested, source, code => do
    let (result, source) ← nextCommands source
    if result.atEnd then return code
    let code ← match result.command with
      | some c => runCommand spawn n tested c
      | none => pure code
    if (← process).skip ≠ .nothing then return code
    runSource spawn n tested source code

/-- Run the commands of a file. -/
def runFile (spawn : Spawn) : Nat → List Text → Act Nat
  | 0, _ => throw (.killed 9)
  | n + 1, arguments => do
    let (_, rest) ← options "" arguments
    match rest with
    | [] => return 0
    | name :: _ =>
      let s ← get
      let files := s.system.files
      let base := s.process.directory
      let path := if name.contains '/' then some name
        else ((Machine.searchEntries ((s.process.value? "PATH".toList).getD [])).map
          (Machine.joinPaths · name)).find? fun path => files.isFile base (Machine.toBytes path)
      match path with
      | none => fail (name ++ ": not found".toList)
      | some path =>
        match files.find? base (Machine.toBytes path) with
        | .error e => fail ("cannot open ".toList ++ path ++ ": ".toList ++ refusal "No such file" e)
        | .ok node =>
          let t := match node with
            | .file bytes _ => (Machine.ofBytes bytes).filter (· != '\x00')
            | _ => []
          modifyProcess fun p => { p with command := some path }
          let line := s.process.sourceLine
          let code ← runSource spawn n false (.ofText t) 0
          modifyProcess fun p => { p with sourceLine := line }
          modifyProcess fun p =>
            match p.skip with
            | .leaveFunction _ => { p with skip := .nothing }
            | _ => p
          return code

/-- Run what is to be run for the signals that arrived.  The code of the last command is kept. -/
def runTraps (spawn : Spawn) : Nat → Act Unit
  | 0 => throw (.killed 9)
  | n + 1 => do
    let p ← process
    match p.arrived, p.skip with
    | signal :: rest, .nothing =>
      modifyProcess fun p => { p with arrived := rest }
      match p.traps.lookup signal with
      | some (c :: action) =>
        let _ ← tryCatch (runText spawn n false (c :: action)) fun stop =>
          throw (match stop with
            | .exited none => .exited (some p.status)
            | stop => stop)
        modifyProcess fun p' =>
          if p'.skip = .leaveFunction true then p' else { p' with status := p.status }
      | _ => pure ()
      runTraps spawn n
    | _, _ => return

end

end CommandShell.Script
