import CommandShell.Builtin.Execute

/-!
# Pipelines

The invocations of a line run one after the other, each with what the one before it wrote.
Two slots are enough: when a stage is done, the slot it read from is cleared and takes the
place of the one it wrote to.

Each stage finds the files as the stage before left them.  A stage that fails ends the line.
A stage with another status than zero ends it as well, with what was written before that stage.
-/

namespace CommandShell

/-- A stage of a pipeline failed; stages are counted from zero. -/
structure StageError where
  stage : Nat
  failure : CommandError
deriving Repr, DecidableEq

/-- The wording of a failure of a stage. -/
def StageError.message (e : StageError) : Text :=
  "interpreter: stage ".toList ++ Text.ofNat e.stage ++ " failed: ".toList ++ e.failure.message

/-- What became of a line that was run: its status with what the last stage wrote, or the
failure, and the environment and the files afterwards. -/
structure Finished (ε : Type) where
  result : Except ε (Status × Option Text)
  environment : Environment
  files : FileSystem

namespace Pipeline

/-- Run the stages from a given one on, with the slots as the stage before left them. -/
def runFrom (w : World) (stage : Nat) (env : Environment) (input output : Slot) :
    List Invocation → Finished StageError
  | [] => ⟨.ok (Status.success, input.content), env, w.files⟩
  | i :: rest =>
    let outcome := i.execute w env input output
    match outcome.result with
    | .error cause => ⟨.error ⟨stage, ⟨i.name, cause⟩⟩, outcome.environment, outcome.files⟩
    | .ok status =>
      if status ≠ 0 then ⟨.ok (status, input.content), outcome.environment, outcome.files⟩
      else runFrom { w with files := outcome.files } (stage + 1) outcome.environment
        outcome.output input.clear rest

/-- Run the invocations of a line. -/
def run (w : World) (env : Environment) (invocations : List Invocation) :
    Finished StageError :=
  runFrom w 0 env Slot.empty Slot.empty invocations

end Pipeline

end CommandShell
