import CommandShell.Machine.System
import CommandShell.Script.Parser
import CommandShell.Script.Number

/-!
# Processes that run scripts

A process has its variables, functions and options, its directory, its descriptors, and the
code of its last command.  A subshell starts with a copy of all of them, and what it changes
there is lost when it ends; what processes share is kept apart, in the system.

Commands that cannot go on stop: by an error, by `exit`, or by a signal.  Whoever runs them
decides how far the stop reaches.
-/

namespace CommandShell.Script

open Machine (System)

/-- A variable, which may be known without having a value. -/
structure Variable where
  value : Option Text
  /-- It is handed to the programs that are started. -/
  exported : Bool
  /-- It must not be changed. -/
  fixed : Bool
deriving Repr, DecidableEq

/-- Commands that are passed over. -/
inductive Skip where
  | nothing
  /-- Up to the end of a loop. -/
  | leaveLoop
  /-- Up to the next round of a loop. -/
  | nextRound
  /-- Up to the end of a function or a script; the flag says that its code was given. -/
  | leaveFunction (given : Bool)
deriving Repr, DecidableEq

/-- A function. -/
structure Function where
  body : Command
  line : Nat

/-- A process that runs a script. -/
structure Process where
  /-- The name that the script has for itself. -/
  name : Text
  arguments : List Text
  vars : List (Text × Variable)
  functions : List (Text × Function)
  aliases : List (Text × Text)
  /-- The letters of the options that are on. -/
  options : Text
  directory : RealPath
  /-- The path that led to the directory. -/
  current : Text
  /-- The streams by their descriptors. -/
  descriptors : List (Nat × Nat)
  /-- The code of the last command. -/
  status : Nat
  /-- The code of the last command that was expanded in this command. -/
  expandedStatus : Nat
  skip : Skip
  /-- The number of loops that are left. -/
  skipCount : Nat
  /-- The number of loops around. -/
  loops : Nat
  /-- The line that complaints name. -/
  line : Nat
  /-- The line of the script that is read next. -/
  sourceLine : Nat
  /-- The built-in command that runs. -/
  command : Option Text
  /-- What is run when a signal arrives; zero stands for the end of the process. -/
  traps : List (Nat × Text)
  /-- Signals that arrived, and whose commands have not run yet. -/
  arrived : List Nat
  /-- For each function that runs, the variables to bring back when it ends. -/
  scopes : List (List (Text × Option Variable))
  /-- The argument that options are read from, and the place in it. -/
  optionIndex : Nat
  optionOffset : Option Nat
  id : Nat
  /-- The process that this is a subshell of. -/
  rootId : Nat
  lastBackground : Option Nat
  /-- The codes of processes that were not waited for. -/
  jobs : List (Nat × Nat)
  /-- The permissions that new files do not get. -/
  mask : Nat
  documents : List (Nat × Document)
  nextDocument : Nat
  /-- What a built-in command has printed so far, the last first. -/
  printed : List Text
  /-- How deep functions are nested. -/
  depth : Nat

/-- A process and what it shares with others. -/
structure State where
  process : Process
  system : System

/-- Why commands stopped. -/
inductive Stop where
  /-- A command failed in a way that ends a script. -/
  | failed
  /-- By `exit`, which may have been given a code. -/
  | exited (code : Option Nat)
  | killed (signal : Nat)
  /-- Another program took the place of the process, and ended. -/
  | replaced (ending : Ending)
deriving Repr, DecidableEq

/-- What commands do. -/
abbrev Act := EStateM Stop State

/-- The process. -/
def process : Act Process := do
  return (← get).process

/-- Change the process. -/
def modifyProcess (f : Process → Process) : Act Unit :=
  modify fun s => { s with process := f s.process }

/-! ### Output and complaints -/

/-- Write to a descriptor.  The result says whether that was possible. -/
def writeTo (descriptor : Nat) (t : Text) : Act Bool := do
  let s ← get
  match s.process.descriptors.lookup descriptor with
  | none => return false
  | some id =>
    match s.system.write? id t with
    | none => return false
    | some system =>
      set { s with system := system }
      return true

/-- Print, at the end of the command that runs. -/
def print (t : Text) : Act Unit :=
  modifyProcess fun p => { p with printed := t :: p.printed }

/-- Write what was printed.  The result says whether that was possible. -/
def flush : Act Bool := do
  let p ← process
  if p.printed.isEmpty then return true
  modifyProcess fun p => { p with printed := [] }
  let t := p.printed.reverse.flatten
  if t.isEmpty then return true
  writeTo 1 t

/-- Write a complaint as it is. -/
def complainPlainly (t : Text) : Act Unit := do
  let _ ← writeTo 2 (Text.line t)

/-- Complain, with the name of the script, the line and the command. -/
def complain (reason : Text) : Act Unit := do
  let p ← process
  let command := match p.command with
    | some c => c ++ ": ".toList
    | none => []
  complainPlainly (p.name ++ ": ".toList ++ Text.ofNat p.line ++ ": ".toList ++ command ++ reason)

/-- Complain and stop. -/
def stopWith {α : Type} (status : Nat) (stop : Stop) (reason : Text) : Act α := do
  complain reason
  let _ ← flush
  modifyProcess fun p => { p with status := status }
  throw stop

/-- Complain and fail. -/
def fail {α : Type} (reason : Text) : Act α :=
  stopWith 2 .failed reason

/-- Complain about a text that is no number, and fail. -/
def failNumber {α : Type} (t : Text) : Act α :=
  fail ("Illegal number: ".toList ++ t)

/-- The number that an argument is. -/
def countOf (t : Text) : Act Nat :=
  match count? t with
  | some n => return n
  | none => failNumber t

/-! ### Options -/

/-- The options by their letters and names. -/
def optionNames : List (Char × String) :=
  [('e', "errexit"), ('f', "noglob"), ('I', "ignoreeof"), ('i', "interactive"), ('m', "monitor"),
    ('n', "noexec"), ('s', "stdin"), ('x', "xtrace"), ('v', "verbose"), ('V', "vi"),
    ('E', "emacs"), ('C', "noclobber"), ('a', "allexport"), ('b', "notify"), ('u', "nounset"),
    ('p', "privileged"), ('\x00', "nolog"), ('\x01', "debug")]

/-- An option is on. -/
def Process.has (p : Process) (option : Char) : Bool :=
  p.options.contains option

/-- Switch an option on or off. -/
def Process.switch (p : Process) (option : Char) (on : Bool) : Process :=
  let others := p.options.filter (· != option)
  { p with options := if on then option :: others else others }

/-- The letters of the options that are on. -/
def Process.flags (p : Process) : Text :=
  (optionNames.reverse.filterMap fun (c, _) => if p.has c && ' ' < c then some c else none)

/-! ### Variables -/

/-- The value of a variable. -/
def Process.value? (p : Process) (name : Text) : Option Text :=
  (p.vars.lookup name).bind (·.value)

/-- The characters that fields are cut at. -/
def Process.separators (p : Process) : Text :=
  (p.value? "IFS".toList).getD " \t\n".toList

/-- Entries with one of them replaced or added. -/
def setEntry {α : Type} (name : Text) (a : α) : List (Text × α) → List (Text × α)
  | [] => [(name, a)]
  | (n, b) :: rest => if n = name then (n, a) :: rest else (n, b) :: setEntry name a rest

/-- Entries without one of them. -/
def eraseEntry {α : Type} (name : Text) (entries : List (Text × α)) : List (Text × α) :=
  entries.filter fun (n, _) => n ≠ name

/-- Put in a variable as it is. -/
def Process.putVariable (p : Process) (name : Text) (v : Option Variable) : Process :=
  { p with vars := match v with
      | some v => setEntry name v p.vars
      | none => eraseEntry name p.vars }

/-- The number of the argument that options are read from begins anew. -/
def Process.restartOptions (p : Process) (value : Text) : Process :=
  { p with optionIndex := max 1 ((count? value).getD 1), optionOffset := none }

/-- Set a variable; one that is handed on stays so. -/
def setVariable (name value : Text) : Act Unit := do
  let p ← process
  let old := p.vars.lookup name
  if old.any (·.fixed) then fail (name ++ ": is read only".toList)
  let exported := old.any (·.exported) || p.has 'a'
  modifyProcess (·.putVariable name (some ⟨some value, exported, false⟩))
  if name = "OPTIND".toList then modifyProcess (·.restartOptions value)

/-- The name of a variable in a text that may have more after it, from a `=` on. -/
def checkedName (t : Text) : Act Text := do
  let name := t.takeWhile (· != '=')
  if !Word.isName name then fail (name ++ ": bad variable name".toList)
  return name

/-- Set a variable whose name may be none. -/
def setNamed (t value : Text) : Act Unit := do
  setVariable (← checkedName t) value

/-- Change how a variable is handed on, or whether it may change. -/
def markVariable (name : Text) (exported fixed : Bool) : Act Unit :=
  modifyProcess fun p =>
    let old := (p.vars.lookup name).getD ⟨none, false, false⟩
    p.putVariable name (some
      { old with exported := old.exported || exported, fixed := old.fixed || fixed })

/-- Forget a variable. -/
def unsetVariable (t : Text) : Act Unit := do
  let p ← process
  let name ← checkedName t
  if (p.vars.lookup name).any (·.fixed) then fail (name ++ ": is read only".toList)
  modifyProcess (·.putVariable name none)

/-- Keep a variable to bring it back when the innermost function ends. -/
def Process.keep (p : Process) (name : Text) : Process :=
  match p.scopes with
  | [] => p
  | scope :: outer =>
    if scope.any (·.1 = name) then p
    else { p with scopes := ((name, p.vars.lookup name) :: scope) :: outer }

/-- Begin a scope. -/
def pushScope : Act Unit :=
  modifyProcess fun p => { p with scopes := [] :: p.scopes }

/-- End a scope, and bring back the variables that were kept in it. -/
def popScope : Act Unit :=
  modifyProcess fun p =>
    match p.scopes with
    | [] => p
    | scope :: outer =>
      scope.foldl (fun p (name, v) =>
        let p := p.putVariable name v
        if name = "OPTIND".toList then p.restartOptions ((v.bind (·.value)).getD []) else p)
        { p with scopes := outer }

/-- The variables that a program is handed. -/
def Process.environment (p : Process) : List (Text × Text) :=
  p.vars.filterMap fun (name, v) =>
    match v with
    | ⟨some value, true, _⟩ => some (name, value)
    | _ => none

/-! ### Texts with quotes -/

/-- A text between single quotes, with its own single quotes between double ones. -/
def singleQuoted (t : Text) : Text :=
  let rec go : Nat → Text → Text
    | 0, _ => []
    | n + 1, t =>
      let plain := t.takeWhile (· != '\'')
      let rest := t.drop plain.length
      let quotes := rest.takeWhile (· == '\'')
      let start := '\'' :: plain ++ ['\'']
      if rest.isEmpty then start
      else
        let middle := start ++ '"' :: quotes ++ ['"']
        let after := rest.drop quotes.length
        if after.isEmpty then middle else middle ++ go n after
  go (t.length + 1) t

end CommandShell.Script
