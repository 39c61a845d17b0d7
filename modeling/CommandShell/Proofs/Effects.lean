import CommandShell.Builtin.Execute
import Mathlib.Tactic.Lemma

/-!
# What a command does

`Invocation.execute` has a case for each command, but only a few things can become of a command.
It fails and leaves everything but the files as it was; it succeeds and has at most written; an
assignment sets its variable, `cd` the directory; and `exit` asks for the end of the session.
`Invocation.Effect` lists these, and `Invocation.execute_effect` goes through the commands once,
so that nothing later has to.

The last section is about programs: one that does not end by itself with the code zero has failed,
whatever it wrote.
-/

namespace CommandShell

namespace Invocation

/-! ## All commands -/

/-- The commands that write and do nothing else to the session. -/
def onlyWrites : Invocation → Bool
  | .assignment _ _ | .cd _ | .exit => false
  | .cat _ | .echo _ | .pwd | .wc _ | .grep _ | .ls _ | .external _ _ => true

/-- All that can become of a command. -/
inductive Effect (w : World) (env : Environment) (output : Slot) : Invocation → Outcome → Prop
  /-- It fails, and leaves the environment and its slot as they were. -/
  | failed (i : Invocation) (files : FileSystem) (cause : Cause) :
      Effect w env output i (.failed files env output cause)
  /-- It succeeds, and has written at most. -/
  | wrote {i : Invocation} (h : i.onlyWrites = true) (slot : Slot) (files : FileSystem) :
      Effect w env output i ⟨.ok Status.success, env, slot, files⟩
  /-- It sets a variable. -/
  | set (name value : Text) :
      Effect w env output (.assignment name value)
        (.silent w.files (env.set name value) output)
  /-- It changes the directory. -/
  | moved {target : Option Text} {directory : Path}
      (h : w.changeDirectory env target = .ok directory) :
      Effect w env output (.cd target)
        (.silent w.files { env with directory := directory } output)
  /-- It asks for the end of the session. -/
  | ended : Effect w env output .exit ⟨.ok Status.terminate, env, output, w.files⟩

variable {w : World} {env : Environment} {input output : Slot} {i : Invocation} {o : Outcome}

/-- A command that works out a text fails or writes it. -/
lemma effect_written (h : i.onlyWrites = true) (files : FileSystem) (r : Except Cause Text) :
    Effect w env output i (.written files env output r) := by
  cases r with
  | error cause => exact .failed i files cause
  | ok t => exact .wrote h (output.write t) files

/-- Nothing else becomes of a command. -/
lemma execute_effect (i : Invocation) (w : World) (env : Environment) (input output : Slot) :
    Effect w env output i (i.execute w env input output) := by
  cases i with
  | assignment name value => exact .set name value
  | exit => exact .ended
  | echo arguments => exact .wrote rfl _ w.files
  | pwd => exact .wrote rfl _ w.files
  | ls paths => exact effect_written rfl _ _
  | external name arguments => exact effect_written rfl _ _
  | cat files =>
    cases files with
    | nil =>
      rw [execute]
      split
      · exact .wrote rfl output w.files
      · exact effect_written rfl _ _
    | cons file files => exact effect_written rfl _ _
  | wc files =>
    cases files with
    | nil =>
      rw [execute]
      split
      · exact .wrote rfl output w.files
      · exact effect_written rfl _ _
    | cons file files => exact effect_written rfl _ _
  | cd target =>
    rw [execute]
    split
    · exact .failed _ _ _
    · next h => exact .moved h
  | grep g =>
    rw [execute]
    split
    · exact .failed _ _ _
    · exact .wrote rfl output w.files
    · exact effect_written rfl _ _

namespace Effect

/-- A command that fails leaves the environment as it was. -/
lemma environment_of_error (h : Effect w env output i o) {cause : Cause}
    (hr : o.result = .error cause) : o.environment = env := by
  cases h with
  | failed files cause => rfl
  | wrote _ _ _ => cases hr
  | set _ _ => cases hr
  | moved _ => cases hr
  | ended => cases hr

/-- A command that fails leaves its slot as it was. -/
lemma output_of_error (h : Effect w env output i o) {cause : Cause}
    (hr : o.result = .error cause) : o.output = output := by
  cases h with
  | failed files cause => rfl
  | wrote _ _ _ => cases hr
  | set _ _ => cases hr
  | moved _ => cases hr
  | ended => cases hr

/-- A command that does not fail succeeds, or it is `exit`. -/
lemma status_of_ok (h : Effect w env output i o) {status : Status} (hr : o.result = .ok status) :
    status = Status.success ∨ i = .exit := by
  cases h with
  | failed files cause => cases hr
  | wrote _ _ _ => exact .inl (Except.ok.inj hr).symm
  | set _ _ => exact .inl (Except.ok.inj hr).symm
  | moved _ => exact .inl (Except.ok.inj hr).symm
  | ended => exact .inr rfl

/-- A command that succeeds leaves the environment as it was, sets a variable, or changes the
directory. -/
lemma environment_of_success (h : Effect w env output i o)
    (hr : o.result = .ok Status.success) :
    i.onlyWrites = true ∧ o.environment = env ∨
      (∃ name value, i = .assignment name value ∧ o.environment = env.set name value) ∨
      ∃ target directory, i = .cd target ∧ w.changeDirectory env target = .ok directory ∧
        o.environment = { env with directory := directory } := by
  cases h with
  | failed files cause => cases hr
  | wrote h _ _ => exact .inl ⟨h, rfl⟩
  | set name value => exact .inr (.inl ⟨name, value, rfl, rfl⟩)
  | moved h => exact .inr (.inr ⟨_, _, rfl, h, rfl⟩)
  | ended => exact absurd (Except.ok.inj hr) (by decide)

end Effect

end Invocation

/-! ## Programs -/

namespace World

/-- The code of an ending is zero only for a program that ended by itself with the code zero. -/
lemma endingCode_eq_zero_iff (e : Ending) : endingCode e = 0 ↔ e = .exited 0 := by
  cases e with
  | exited code => simp [endingCode]
  | killed signal =>
    simp only [endingCode, reduceCtorEq, iff_false]
    omega
  | untold saved => cases saved <;> simp [endingCode]

/-- A program that did not end by itself with the code zero has failed. -/
lemma verdict_of_ending_ne {report : Report} (h : report.ending ≠ .exited 0) :
    ∃ cause, verdict report = .error cause := by
  have hcode : endingCode report.ending ≠ 0 := fun hzero =>
    h ((endingCode_eq_zero_iff report.ending).mp hzero)
  unfold verdict
  rw [if_pos hcode]
  split
  · exact ⟨_, rfl⟩
  · exact ⟨_, rfl⟩

end World

/-- The command that started a program fails unless the program ended by itself with the code
zero. -/
lemma Invocation.execute_external_of_ending_ne {w : World} {env : Environment}
    {input output : Slot} {name : Text} {program : Path} {arguments : List Text} {report : Report}
    (hfind : w.programOf? env name = some program)
    (hlaunch : w.launch w.files (World.launchOf env input program arguments) = .ok report)
    (hending : report.ending ≠ .exited 0) :
    ∃ cause, ((Invocation.external name arguments).execute w env input output).result =
      .error cause := by
  obtain ⟨cause, hverdict⟩ := World.verdict_of_ending_ne hending
  refine ⟨cause, ?_⟩
  simp only [execute, World.runProgram, hfind, hlaunch, World.launchResult, hverdict]
  rfl

end CommandShell
