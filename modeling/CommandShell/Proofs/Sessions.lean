import CommandShell.Proofs.Building
import CommandShell.Proofs.Halting
import CommandShell.Session
import Mathlib.Data.List.Basic

/-!
# What a line does to its session

A line is refused before it runs, or its invocations run as a pipeline.  A refused line leaves
everything as it was (`Session.Refused`).  Of the others, an assignment sets its variable, and a
pipeline keeps the variables and moves the session to where the last `cd` led that it got through
(`Session.runLine_keeps_session`).

The second result is about the status of a line.  It is the one that ends the session exactly when
the pipeline gets to a command named `exit` (`Session.runLine_terminates_iff_exit`); how a program
ended never is a status of the line, because a program that did not succeed makes its stage fail.
-/

namespace CommandShell.Session

open Pipeline

variable {w : World} {env : Environment} {line s : Text}

/-! ## From a line to its stages -/

/-- The line is refused: whatever the files are and whatever programs would do, it fails in this
way and changes neither the environment nor the files. -/
def Refused (env : Environment) (line : Text) (e : LineError) : Prop :=
  ∀ w : World, runLine w env line = ⟨.error e, env, w.files⟩

/-- A line without invocations is refused. -/
lemma refused_of_prepare {e : LineError} (h : prepare env.vars line = .error e) :
    Refused env line e := by
  intro w
  simp only [runLine, h]

/-- A line whose references cannot be replaced is refused. -/
lemma refused_of_substitute {e : ScanError} (h : substitute env.vars.get line = .error e) :
    Refused env line (.substitution e) := by
  apply refused_of_prepare
  simp only [prepare, h]

/-- A line that cannot be read is refused. -/
lemma refused_of_parse {e : ParseError} (hs : substitute env.vars.get line = .ok s)
    (h : Line.parse s = .error e) : Refused env line (.parse e) := by
  apply refused_of_prepare
  simp only [prepare, hs, h]

/-- A line of which a command does not take its arguments is refused. -/
lemma refused_of_ofLine {l : Line} {e : ArgumentError}
    (hs : substitute env.vars.get line = .ok s) (hl : Line.parse s = .ok l)
    (h : Invocation.ofLine l = .error e) : Refused env line (.arguments e) := by
  apply refused_of_prepare
  simp only [prepare, hs, hl, h]
  rfl

/-- Every other line runs its invocations. -/
lemma runLine_eq_resume {l : Line} {invocations : List Invocation}
    (hs : substitute env.vars.get line = .ok s) (hl : Line.parse s = .ok l)
    (h : Invocation.ofLine l = .ok invocations) (w : World) :
    runLine w env line =
      ⟨((Progress.start w env).resume invocations).result.mapError .stage,
        ((Progress.start w env).resume invocations).environment,
        ((Progress.start w env).resume invocations).files⟩ := by
  simp only [runLine, prepare, hs, hl, h]
  rfl

/-- A line is refused, or its invocations run. -/
lemma refused_or_runs (env : Environment) (line : Text) :
    (∃ e, Refused env line e) ∨ ∃ s l invocations, substitute env.vars.get line = .ok s ∧
      Line.parse s = .ok l ∧ Invocation.ofLine l = .ok invocations := by
  cases hs : substitute env.vars.get line with
  | error e => exact .inl ⟨_, refused_of_substitute hs⟩
  | ok s =>
    cases hl : Line.parse s with
    | error e => exact .inl ⟨_, refused_of_parse hs hl⟩
    | ok l =>
      cases h : Invocation.ofLine l with
      | error e => exact .inl ⟨_, refused_of_ofLine hs hl h⟩
      | ok invocations => exact .inr ⟨s, l, invocations, rfl, hl, h⟩

/-- A line that fails, but not at a stage, is refused. -/
lemma refused_of_result {e : LineError} (h : (runLine w env line).result = .error e)
    (he : ∀ f, e ≠ .stage f) : Refused env line e := by
  rcases refused_or_runs env line with ⟨e', hrefused⟩ | ⟨s, l, invocations, hs, hl, hbuilt⟩
  · rw [hrefused w] at h
    cases h
    exact hrefused
  · rw [runLine_eq_resume hs hl hbuilt] at h
    cases hr : ((Progress.start w env).resume invocations).result with
    | error f =>
      simp only [hr, Except.mapError] at h
      exact absurd (Except.error.inj h).symm (he f)
    | ok r =>
      simp only [hr, Except.mapError] at h
      cases h

/-- An assignment sets its variable and writes nothing. -/
lemma runLine_of_assignment {name : Text} {value : Word}
    (hs : substitute env.vars.get line = .ok s)
    (hl : Line.parse s = .ok (.assignment name value)) (w : World) :
    runLine w env line =
      ⟨.ok (Status.success, none), env.set name value.content, w.files⟩ :=
  runLine_eq_resume hs hl rfl w

/-- A pipeline halts after stages that succeed, and has the environment that they left. -/
lemma exists_halted_of_runLine {l : Line} {invocations : List Invocation}
    (hs : substitute env.vars.get line = .ok s) (hl : Line.parse s = .ok l)
    (h : Invocation.ofLine l = .ok invocations) (w : World) :
    ∃ stages left p, invocations = stages ++ left ∧ (Progress.start w env).Succeeds stages p ∧
      p.Halted left ∧ (runLine w env line).result = (p.resume left).result.mapError .stage ∧
      (runLine w env line).environment = p.environment := by
  obtain ⟨stages, left, p, rfl, hstages, hleft⟩ :=
    (Progress.start w env).exists_succeeds_halted invocations
  refine ⟨stages, left, p, rfl, hstages, hleft, ?_, ?_⟩
  · rw [runLine_eq_resume hs hl h, hstages.resume_append]
  · rw [runLine_eq_resume hs hl h, hstages.resume_append]
    exact hleft.environment_resume

/-! ## What a line changes -/

/-- A pipeline leaves the variables as they were, however it ends. -/
lemma vars_runLine_of_pipeline {cmds : List Command}
    (hs : substitute env.vars.get line = .ok s) (hl : Line.parse s = .ok (.pipeline cmds))
    (w : World) : (runLine w env line).environment.vars = env.vars := by
  cases h : Invocation.ofLine (.pipeline cmds) with
  | error e => rw [refused_of_ofLine hs hl h w]
  | ok invocations =>
    obtain ⟨stages, left, p, rfl, hstages, -, -, henv⟩ := exists_halted_of_runLine hs hl h w
    have hset : ∀ name value, Invocation.assignment name value ∉ stages := fun name value hmem =>
      Invocation.assignment_not_mem_of_ofCommands h name value (List.mem_append_left left hmem)
    rw [henv, hstages.vars_eq hset]
    rfl

/-- What a line may change in its session.  A line that is not understood is refused, and so is one
of which any command does not take its arguments; and no other failure but that of a stage is
there.  An assignment sets its variable and nothing else.  A pipeline keeps the variables, and
leaves the session in the directory that was set by the last `cd` before the stage it halts at, be
that the end of the line, `exit` or a stage that fails. -/
theorem runLine_keeps_session (w : World) (env : Environment) (line : Text) :
    (∀ e, substitute env.vars.get line = .error e → Refused env line (.substitution e)) ∧
    (∀ e, (runLine w env line).result = .error e → (∀ f, e ≠ .stage f) → Refused env line e) ∧
    ∀ s, substitute env.vars.get line = .ok s →
      (∀ e, Line.parse s = .error e → Refused env line (.parse e)) ∧
      (∀ name value, Line.parse s = .ok (.assignment name value) →
        runLine w env line =
          ⟨.ok (Status.success, none), env.set name value.content, w.files⟩ ∧
        (runLine w env line).environment.directory = env.directory ∧
        ∀ other, (runLine w env line).environment.vars.get? other =
          if other = name then some value.content else env.vars.get? other) ∧
      ∀ cmds, Line.parse s = .ok (.pipeline cmds) →
        (runLine w env line).environment.vars = env.vars ∧
        (∀ e, Invocation.ofCommands cmds = .error e → Refused env line (.arguments e)) ∧
        (∀ cmd ∈ cmds, ∀ e, Invocation.ofCommand cmd.name cmd.arguments = .error e →
          ∃ e', Invocation.ofCommands cmds = .error e') ∧
        ∀ invocations, Invocation.ofCommands cmds = .ok invocations →
          ∃ stages left p, invocations = stages ++ left ∧
            (Progress.start w env).Succeeds stages p ∧ p.Halted left ∧
            (Progress.start w env).LastDirectory stages
              (runLine w env line).environment.directory := by
  refine ⟨fun e => refused_of_substitute, fun e => refused_of_result, fun s hs =>
    ⟨fun e => refused_of_parse hs, fun name value hl => ?_, fun cmds hl =>
      ⟨?_, fun e => refused_of_ofLine hs hl,
        fun cmd hcmd e => Invocation.exists_error_of_mem_commands hcmd, ?_⟩⟩⟩
  · have hrun := runLine_of_assignment hs hl w
    refine ⟨hrun, ?_, fun other => ?_⟩
    · rw [hrun]
      rfl
    · rw [hrun]
      exact Variables.get?_set env.vars name value.content other
  · exact vars_runLine_of_pipeline hs hl w
  · intro invocations h
    obtain ⟨stages, left, p, heq, hstages, hleft, -, henv⟩ := exists_halted_of_runLine hs hl h w
    refine ⟨stages, left, p, heq, hstages, hleft, ?_⟩
    rw [henv]
    exact hstages.lastDirectory

/-- A pipeline that leaves the directory of the session and then reads a file that is not there. -/
theorem runLine_keeps_session_failed :
    (runLine (World.ofFiles FileSystem.empty) ⟨⟨[]⟩, Path.ofString "/a"⟩
        "cd / | cat gone".toList).environment.vars = ⟨[]⟩ ∧
      ∃ stages left p, [.cd (some "/".toList), .cat ["gone".toList]] = stages ++ left ∧
        (Progress.start (World.ofFiles FileSystem.empty)
          ⟨⟨[]⟩, Path.ofString "/a"⟩).Succeeds stages p ∧ p.Halted left ∧
        (Progress.start (World.ofFiles FileSystem.empty)
          ⟨⟨[]⟩, Path.ofString "/a"⟩).LastDirectory stages
          (runLine (World.ofFiles FileSystem.empty) ⟨⟨[]⟩, Path.ofString "/a"⟩
            "cd / | cat gone".toList).environment.directory := by
  have hpipeline := ((runLine_keeps_session (World.ofFiles FileSystem.empty)
    ⟨⟨[]⟩, Path.ofString "/a"⟩ "cd / | cat gone".toList).2.2 "cd / | cat gone".toList
      (by decide +kernel)).2.2
    [⟨"cd".toList, [⟨[.bare "/".toList]⟩]⟩, ⟨"cat".toList, [⟨[.bare "gone".toList]⟩]⟩]
    (by decide +kernel)
  exact ⟨hpipeline.1, hpipeline.2.2.2 _ (by decide +kernel)⟩

/-! ## When a line ends the session -/

/-- The commands before `cmd` lead to it, and it is the first one named `exit`: each of them
succeeds as a stage, and together they leave the pipeline at `p`. -/
structure LeadsToExit (w : World) (env : Environment) (before : List Command) (cmd : Command)
    (stages : List Invocation) (p : Progress) : Prop where
  named : cmd.name = "exit".toList
  first : ∀ c ∈ before, c.name ≠ "exit".toList
  built : Invocation.ofCommands before = .ok stages
  succeeds : (Progress.start w env).Succeeds stages p

/-- A pipeline that halts ends with one of two statuses, or with a failure. -/
lemma status_of_halted {p : Progress} {left : List Invocation} (h : p.Halted left)
    {c : Status} {out : Option Text} (hr : (p.resume left).result = .ok (c, out)) :
    c = Status.success ∧ left = [] ∨ c = Status.terminate ∧ ∃ rest, left = .exit :: rest := by
  cases h with
  | finished =>
    cases hr
    exact .inl ⟨rfl, rfl⟩
  | exit rest =>
    cases hr
    exact .inr ⟨rfl, rest, rfl⟩
  | failed h rest =>
    rw [Progress.resume_failed h] at hr
    cases hr

/-- A line that succeeds has the result of its pipeline. -/
lemma eq_ok_of_mapError {r : Except StageError (Status × Option Text)}
    {x : Status × Option Text} (h : r.mapError LineError.stage = .ok x) : r = .ok x := by
  cases r with
  | error e => cases h
  | ok y =>
    cases h
    rfl

/-- The status of a line is that of success or the one that ends the session. -/
lemma status_of_runLine {c : Status} {out : Option Text}
    (h : (runLine w env line).result = .ok (c, out)) :
    c = Status.success ∨ c = Status.terminate := by
  rcases refused_or_runs env line with ⟨e, hrefused⟩ | ⟨s, l, invocations, hs, hl, hbuilt⟩
  · rw [hrefused w] at h
    cases h
  · obtain ⟨stages, left, p, -, -, hleft, hresult, -⟩ := exists_halted_of_runLine hs hl hbuilt w
    rw [hresult] at h
    rcases status_of_halted hleft (eq_ok_of_mapError h) with ⟨hc, -⟩ | ⟨hc, -⟩
    · exact .inl hc
    · exact .inr hc

/-- A line with the status that ends the session is a pipeline that leads to `exit`. -/
lemma exists_leadsToExit {l : Line} {invocations : List Invocation} {out : Option Text}
    (hs : substitute env.vars.get line = .ok s) (hl : Line.parse s = .ok l)
    (h : Invocation.ofLine l = .ok invocations)
    (hr : (runLine w env line).result = .ok (Status.terminate, out)) :
    ∃ before cmd after stages p, l = .pipeline (before ++ cmd :: after) ∧
      LeadsToExit w env before cmd stages p := by
  cases l with
  | assignment name value =>
    rw [runLine_of_assignment hs hl] at hr
    cases hr
  | pipeline cmds =>
    obtain ⟨stages, left, p, rfl, hstages, hleft, hresult, -⟩ := exists_halted_of_runLine hs hl h w
    rw [hresult] at hr
    rcases status_of_halted hleft (eq_ok_of_mapError hr) with ⟨hc, -⟩ | ⟨-, rest, rfl⟩
    · exact absurd hc (by decide)
    obtain ⟨before, tail, rfl, hbefore, htail⟩ := Invocation.exists_append_of_ofCommands h
    cases tail with
    | nil => cases htail
    | cons cmd after =>
      obtain ⟨i, rest', hi, -, heq⟩ := Invocation.exists_cons_of_ofCommands htail
      obtain ⟨rfl, -⟩ := List.cons.inj heq
      refine ⟨before, cmd, after, stages, p, rfl, ⟨?_, ?_, hbefore, hstages⟩⟩
      · exact Invocation.ofCommand_eq_exit_iff.mp hi
      · -- A command of that name is never a stage that succeeds.
        intro c hc hname
        obtain ⟨j, hj, hbuilt⟩ := Invocation.exists_mem_of_mem_commands hbefore hc
        rw [Invocation.ofCommand_eq_exit_iff.mpr hname] at hbuilt
        cases hbuilt
        exact hstages.exit_not_mem hj

/-- A pipeline that leads to `exit` ends there, with what the stages before it left. -/
lemma runLine_of_leadsToExit {before after : List Command} {cmd : Command}
    {stages invocations : List Invocation} {p : Progress}
    (hs : substitute env.vars.get line = .ok s)
    (hl : Line.parse s = .ok (.pipeline (before ++ cmd :: after)))
    (h : Invocation.ofCommands (before ++ cmd :: after) = .ok invocations)
    (hexit : LeadsToExit w env before cmd stages p) :
    runLine w env line =
      ⟨.ok (Status.terminate, p.previous), p.environment, p.world.files⟩ := by
  obtain ⟨rest, rfl⟩ : ∃ rest, invocations = stages ++ .exit :: rest := by
    rw [Invocation.ofCommands_append, hexit.built] at h
    cases hafter : Invocation.ofCommands (cmd :: after) with
    | error e =>
      rw [hafter] at h
      cases h
    | ok left =>
      rw [hafter] at h
      obtain ⟨i, rest, hi, -, rfl⟩ := Invocation.exists_cons_of_ofCommands hafter
      rw [Invocation.ofCommand_eq_exit_iff.mpr hexit.named] at hi
      cases hi
      exact ⟨rest, (Except.ok.inj h).symm⟩
  rw [runLine_eq_resume hs hl h, hexit.succeeds.resume_append, Progress.resume_exit]
  rfl

/-- Only `exit` ends a session.  The status of a line is that of success or the one that ends the
session, and it is the latter exactly when the line is a pipeline with a command named `exit` such
that every stage before the first of these succeeds.  The line then has the environment, the files
and the output of those stages, so nothing is done for the stages after `exit`: the output is what
the stage just before wrote.  A program that did not end by itself with the code zero makes its
stage fail instead. -/
theorem runLine_terminates_iff_exit (w : World) (env : Environment) (line : Text) :
    (∀ c out, (runLine w env line).result = .ok (c, out) →
      c = Status.success ∨ c = Status.terminate) ∧
    ∀ s l invocations, substitute env.vars.get line = .ok s → Line.parse s = .ok l →
      Invocation.ofLine l = .ok invocations →
      ((∃ out, (runLine w env line).result = .ok (Status.terminate, out)) ↔
        ∃ before cmd after stages p, l = .pipeline (before ++ cmd :: after) ∧
          LeadsToExit w env before cmd stages p) ∧
      (∀ before cmd after stages p, l = .pipeline (before ++ cmd :: after) →
        LeadsToExit w env before cmd stages p →
        runLine w env line =
          ⟨.ok (Status.terminate, p.previous), p.environment, p.world.files⟩ ∧
        (stages = [] → p.previous = none) ∧
        ∀ others i, stages = others ++ [i] →
          ∃ q, (Progress.start w env).Succeeds others q ∧
            p.previous = (q.outcome i).output.content) ∧
      ∀ stages name arguments rest p program report,
        invocations = stages ++ .external name arguments :: rest →
        (Progress.start w env).Succeeds stages p →
        p.world.programOf? p.environment name = some program →
        p.world.launch p.world.files
          (World.launchOf p.environment (Slot.mk p.previous) program arguments) = .ok report →
        report.ending ≠ .exited 0 →
        ∃ cause, (runLine w env line).result =
          .error (.stage ⟨stages.length, ⟨name, cause⟩⟩) := by
  refine ⟨fun c out => status_of_runLine, fun s l invocations hs hl h => ⟨⟨?_, ?_⟩, ?_, ?_⟩⟩
  · rintro ⟨out, hr⟩
    exact exists_leadsToExit hs hl h hr
  · rintro ⟨before, cmd, after, stages, p, rfl, hexit⟩
    exact ⟨p.previous, by rw [runLine_of_leadsToExit hs hl h hexit]⟩
  · rintro before cmd after stages p rfl hexit
    refine ⟨runLine_of_leadsToExit hs hl h hexit, ?_, ?_⟩
    · rintro rfl
      cases hexit.succeeds
      rfl
    · rintro others i rfl
      obtain ⟨q, hq, rfl⟩ := hexit.succeeds.of_concat
      exact ⟨q, hq, rfl⟩
  · rintro stages name arguments rest p program report rfl hstages hfind hlaunch hending
    obtain ⟨cause, hcause⟩ := Invocation.execute_external_of_ending_ne hfind hlaunch hending
    have hstage : p.stage = stages.length := by
      rw [hstages.stage_eq]
      exact Nat.zero_add stages.length
    refine ⟨cause, ?_⟩
    rw [runLine_eq_resume hs hl h, hstages.resume_append, Progress.resume_failed hcause, hstage]
    rfl

/-- What is written before `exit` is the output, and the program after it is not even looked for. -/
theorem runLine_terminates_iff_exit_second :
    runLine (World.ofFiles FileSystem.empty) ⟨⟨[]⟩, Path.root⟩
        "echo a | exit 3 | tool".toList =
      ⟨.ok (Status.terminate, some "a".toList), ⟨⟨[]⟩, Path.root⟩, FileSystem.empty⟩ := by
  have hexit := ((runLine_terminates_iff_exit (World.ofFiles FileSystem.empty)
    ⟨⟨[]⟩, Path.root⟩ "echo a | exit 3 | tool".toList).2 "echo a | exit 3 | tool".toList
      (.pipeline ([⟨"echo".toList, [⟨[.bare "a".toList]⟩]⟩] ++
        ⟨"exit".toList, [⟨[.bare "3".toList]⟩]⟩ :: [⟨"tool".toList, []⟩]))
      [.echo ["a".toList], .exit, .external "tool".toList []]
      (by decide +kernel) (by decide +kernel) rfl).2.1
  have hleads : LeadsToExit (World.ofFiles FileSystem.empty)
      ⟨⟨[]⟩, Path.root⟩ [⟨"echo".toList, [⟨[.bare "a".toList]⟩]⟩]
      ⟨"exit".toList, [⟨[.bare "3".toList]⟩]⟩ [.echo ["a".toList]] _ :=
    ⟨rfl, by decide, rfl, .cons rfl (.nil _)⟩
  exact (hexit _ _ _ _ _ rfl hleads).1

end CommandShell.Session
