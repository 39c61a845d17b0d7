import CommandShell.Session

/-!
# The log

While a line is run, the program tells a library what it has come to: the regions of the line, the
line with its references replaced, what was read of it, the programs that it starts and the stages
that are done.  What is told, and when, is the matter of `Session.events`.  Which of it is written,
and in what form, is up to the library: it makes a filter from the text of a variable, or from
a text of the program's own if there is no such variable or the library does not understand it.

A log is only told what happens.  Nothing that a line does depends on it.
-/

namespace CommandShell

namespace Log

/-! ### Events -/

/-- How much an event matters, the least first. -/
inductive Level where
  | trace
  | debug
  | info
  | warn
  | error
deriving Repr, DecidableEq

/-- Something that the library is told while a line is run. -/
inductive Event where
  /-- The line falls into these regions. -/
  | tokens (regions : List Region)
  /-- The line with its references replaced. -/
  | substituted (line : Text)
  /-- What was read of that line. -/
  | parsed (line : Line)
  /-- A program was found, and is about to be started. -/
  | spawning (program : Path) (arguments : List Text)
  /-- A stage is done, and did not fail. -/
  | finished (stage : Nat) (command : Text) (status : Status)
deriving Repr, DecidableEq

namespace Event

/-- How much an event matters. -/
def level : Event → Level
  | .tokens _ => .trace
  | _ => .debug

/-- The part of the program that tells of an event. -/
def target : Event → Text
  | .tokens _ => "line_shell::substitution".toList
  | .substituted _ | .parsed _ => "line_shell::shell".toList
  | .spawning _ _ => "line_shell::external".toList
  | .finished _ _ _ => "line_shell::interpreter".toList

/-- What is said of an event, without the data that belong to it. -/
def message : Event → Text
  | .tokens _ => "substitution tokens".toList
  | .substituted _ => "substituted line".toList
  | .parsed _ => "parsed line".toList
  | .spawning _ _ => "spawning external command".toList
  | .finished _ _ _ => "stage finished".toList

end Event

/-! ### The library -/

/-- Whether an event is written, by its level and by the part of the program that tells of it. -/
abbrev Filter := Level → Text → Bool

/-- A library that writes events. -/
structure Library where
  /-- The filter that a text describes, unless there is something in it that is none. -/
  filter? : Text → Option Filter
  /-- The filter that a text describes; what is no filter in it is passed over. -/
  filter : Text → Filter
  /-- An event as it is written, under these variables.  The number tells the events of a run apart,
  and stands for the time. -/
  render : Bindings → Nat → Event → Text

/-- The variable with the description of the filter. -/
def filterVariable : List UInt8 :=
  Utf8.encode "RUST_LOG".toList

/-- The filter that the program describes itself. -/
def ownFilter (verbose : Bool) : Text :=
  if verbose then "line_shell=debug".toList else "warn".toList

/-- What decides what is written of the events of a run. -/
structure Logger where
  passes : Filter
  render : Nat → Event → Text

/-- What is written of events, of which the first has the given number. -/
def Logger.written (l : Logger) : Nat → List Event → Text
  | _, [] => []
  | n, e :: rest =>
    (if l.passes e.level e.target then l.render n e else []) ++ l.written (n + 1) rest

/-- The filter of a run: the one that the variable describes, or else the program's own. -/
def Library.chosen (l : Library) (bindings : Bindings) (verbose : Bool) : Filter :=
  let described := (bindings.lookup filterVariable).bind Utf8.decode?
  (described.bind l.filter?).getD (l.filter (ownFilter verbose))

/-- What the library writes of the events of a run. -/
def Library.logger (l : Library) (bindings : Bindings) (verbose : Bool) : Logger :=
  ⟨l.chosen bindings verbose, l.render bindings⟩

end Log

/-! ### What the library is told -/

/-- Of a command it is told only if a program was found for it. -/
def Invocation.events (w : World) (env : Environment) : Invocation → List Log.Event
  | .external name arguments =>
    match w.programOf? env name with
    | none => []
    | some program => [.spawning program arguments]
  | _ => []

/-- What it is told of the stages from a given one on. -/
def Pipeline.eventsFrom (w : World) (stage : Nat) (env : Environment) (input output : Slot) :
    List Invocation → List Log.Event
  | [] => []
  | i :: rest =>
    let outcome := i.execute w env input output
    i.events w env ++
      match outcome.result with
      | .error _ => []
      | .ok status =>
        .finished stage i.name status ::
          if status ≠ 0 then []
          else eventsFrom { w with files := outcome.files } (stage + 1) outcome.environment
            outcome.output input.clear rest

/-- What it is told of the invocations of a line. -/
def Pipeline.events (w : World) (env : Environment) (invocations : List Invocation) :
    List Log.Event :=
  eventsFrom w 0 env Slot.empty Slot.empty invocations

/-- What it is told of a line. -/
def Session.events (w : World) (env : Environment) (line : Text) : List Log.Event :=
  match Region.scan line with
  | .error _ => []
  | .ok regions =>
    let substituted := regions.flatMap (Region.expand env.vars.get)
    .tokens regions :: .substituted substituted ::
      match Line.parse substituted with
      | .error _ => []
      | .ok parsed =>
        .parsed parsed ::
          match Invocation.ofLine parsed with
          | .error _ => []
          | .ok invocations => Pipeline.events w env invocations

end CommandShell
