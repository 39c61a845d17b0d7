import CommandShell.Console

/-!
# The libraries of the console

A log library and a terminal test for the program to be run with.

The log understands lists of directives, `level`, `target` and `target=level`, with commas between
them.  Of the directives whose target is a prefix of an event's, the one with the longest target
says from which level on the event is written.  An event is written without its time.

The prompt is written on terminals that can do no more than print, which are known by their names.
-/

namespace CommandShell.Machine

/-! ### Directives -/

/-- A part of the program with the level from which on its events are written, if any are. -/
structure Directive where
  target : Text
  limit : Option Log.Level
deriving Repr, DecidableEq

/-- The levels by their names and numbers. -/
def limits : List (Text × Option Log.Level) :=
  [("off".toList, none), ("0".toList, none), ("error".toList, some .error),
    ("1".toList, some .error), ("warn".toList, some .warn), ("2".toList, some .warn),
    ("info".toList, some .info), ("3".toList, some .info), ("debug".toList, some .debug),
    ("4".toList, some .debug), ("trace".toList, some .trace), ("5".toList, some .trace)]

/-- The level that a text names, in capitals or not. -/
def limit? (t : Text) : Option (Option Log.Level) :=
  limits.lookup (t.map Char.toLower)

/-- A directive as it is written.  Brackets stand around what is not known here. -/
def directive? (t : Text) : Option Directive :=
  if t.contains '[' then none
  else match Text.pieces '=' t with
    | [word] =>
      match limit? word with
      | some limit => some ⟨[], limit⟩
      | none => some ⟨word, some .trace⟩
    | [target, level] => (limit? level).map (⟨target, ·⟩)
    | _ => none

/-- The directives of a list, each if it is one. -/
def directives (t : Text) : List (Option Directive) :=
  ((Text.pieces ',' t).filter (· ≠ [])).map directive?

/-- The directive that counts for a part of the program. -/
def closest? (part : Text) : List Directive → Option Directive
  | [] => none
  | d :: rest =>
    let other := closest? part rest
    if d.target.isPrefixOf part && other.all (·.target.length < d.target.length) then some d
    else other

/-- Where a level stands among the others. -/
def severity : Log.Level → Nat
  | .trace => 0
  | .debug => 1
  | .info => 2
  | .warn => 3
  | .error => 4

/-- What directives let pass.  Without any, only errors pass. -/
def filterOf (ds : List Directive) : Log.Filter := fun level part =>
  match closest? part (if ds = [] then [⟨[], some .error⟩] else ds) with
  | some ⟨_, some limit⟩ => severity limit ≤ severity level
  | _ => false

/-! ### The log -/

/-- A level as it is written. -/
def levelName : Log.Level → Text
  | .trace => "TRACE".toList
  | .debug => "DEBUG".toList
  | .info => " INFO".toList
  | .warn => " WARN".toList
  | .error => "ERROR".toList

/-- The data of an event, as far as they are written. -/
def details : Log.Event → Text
  | .substituted line => " substituted=".toList ++ line
  | .spawning program _ => " program=".toList ++ Path.shown program
  | .finished stage command status =>
    " stage=".toList ++ Text.ofNat stage ++ " command=".toList ++ command ++
      " code=".toList ++ Text.ofInt status
  | .tokens _ | .parsed _ => []

/-- An event as it is written. -/
def renderEvent (e : Log.Event) : Text :=
  Text.line (levelName e.level ++ " ".toList ++ e.target ++ ": ".toList ++ e.message ++ details e)

/-- The log library. -/
def logLibrary : Log.Library where
  filter? t := ((directives t).mapM id).map filterOf
  filter t := filterOf ((directives t).filterMap id)
  render _ _ e := renderEvent e

/-! ### Terminals -/

/-- The terminals that can do no more than print. -/
def plainTerminals : List Text :=
  ["dumb".toList, "cons25".toList, "emacs".toList]

/-- The terminal is one of those, in capitals or not. -/
def isPlainTerminal (bindings : Bindings) : Bool :=
  match (bindings.lookup (Utf8.encode "TERM".toList)).bind Utf8.decode? with
  | some term => plainTerminals.contains (term.map Char.toLower)
  | none => false

/-- The libraries that the program is run with. -/
def platform : Console.Platform where
  log := logLibrary
  showsPrompt := isPlainTerminal

end CommandShell.Machine
