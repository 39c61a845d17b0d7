import CommandShell.Pipeline
import CommandShell.Region

/-!
# Sessions

A line of a session goes through four steps: references are replaced by the values of
variables, the line is read, its commands are understood, and they run.  Nothing runs
unless the whole line passes the first three.
-/

namespace CommandShell

/-- Why a line of a session failed. -/
inductive LineError where
  | substitution (e : ScanError)
  | parse (e : ParseError)
  | arguments (e : ArgumentError)
  | stage (e : StageError)
deriving Repr, DecidableEq

/-- The wording of the failure of a line. -/
def LineError.message : LineError → Text
  | .substitution e => e.message
  | .parse e => e.message
  | .arguments e => "parse: ".toList ++ e.message
  | .stage e => e.message

namespace Session

/-- The invocations of a line, with the values of variables put in. -/
def prepare (vars : Variables) (line : Text) : Except LineError (List Invocation) :=
  match substitute vars.get line with
  | .error e => .error (.substitution e)
  | .ok substituted =>
    match Line.parse substituted with
    | .error e => .error (.parse e)
    | .ok parsed => (Invocation.ofLine parsed).mapError .arguments

/-- Run one line. -/
def runLine (w : World) (env : Environment) (line : Text) : Finished LineError :=
  match prepare env.vars line with
  | .error e => ⟨.error e, env, w.files⟩
  | .ok invocations =>
    let finished := Pipeline.run w env invocations
    ⟨finished.result.mapError .stage, finished.environment, finished.files⟩

end Session

end CommandShell
