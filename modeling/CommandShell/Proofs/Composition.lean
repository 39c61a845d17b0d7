import CommandShell.Pipeline
import Mathlib.Data.Nat.Notation
import Mathlib.Tactic.Lemma

/-!
# Pipelines as composition

A pipeline runs with two slots that trade places after every stage.  This file shows that the
slots do not matter: the run is the plain composition of its stages (`Pipeline.compose`), which
carries nothing but the environment, the files and what the stage before wrote.

The invariant is that every stage finds its output slot empty.  It holds because the slot a
stage has read from is cleared before it becomes the slot of the next one, and it is what makes
"nothing was written" reach the next stage as an empty slot.
-/

namespace CommandShell.Pipeline

/-- What is carried from stage to stage. -/
structure Progress where
  /-- The world with the files as the stages so far left them. -/
  world : World
  environment : Environment
  /-- What the stage before wrote, if it wrote anything. -/
  previous : Option Text
  /-- The stage that comes next. -/
  stage : ℕ

/-- Before the first stage nothing was written. -/
def Progress.start (w : World) (env : Environment) : Progress :=
  ⟨w, env, none, 0⟩

/-- One stage: it reads what the stage before wrote and writes into an empty slot.  A stage that
fails ends the pipeline with its position; one with another status than zero ends it with what
was written before. -/
def Progress.advance (p : Progress) (i : Invocation) : Except (Finished StageError) Progress :=
  let outcome := i.execute p.world p.environment ⟨p.previous⟩ Slot.empty
  match outcome.result with
  | .error cause => .error ⟨.error ⟨p.stage, ⟨i.name, cause⟩⟩, outcome.environment, outcome.files⟩
  | .ok status =>
    if status = 0 then
      .ok ⟨{ p.world with files := outcome.files }, outcome.environment, outcome.output.content,
        p.stage + 1⟩
    else .error ⟨.ok (status, p.previous), outcome.environment, outcome.files⟩

/-- How a pipeline ends: early, or with what its last stage wrote. -/
def conclude : Except (Finished StageError) Progress → Finished StageError
  | .error finished => finished
  | .ok p => ⟨.ok (0, p.previous), p.environment, p.world.files⟩

/-- The composition of stages: each one goes on from what the one before left. -/
def compose (w : World) (env : Environment) (invocations : List Invocation) :
    Finished StageError :=
  conclude (invocations.foldlM Progress.advance (Progress.start w env))

/-- Run the remaining stages with two slots, the second of them empty. -/
def Progress.resume (p : Progress) (invocations : List Invocation) : Finished StageError :=
  runFrom p.world p.stage p.environment ⟨p.previous⟩ Slot.empty invocations

/-- One stage of the run with two slots is one stage of the composition, and leaves the second
slot empty. -/
lemma Progress.resume_cons (p : Progress) (i : Invocation) (rest : List Invocation) :
    p.resume (i :: rest) =
      match p.advance i with
      | .error finished => finished
      | .ok q => q.resume rest := by
  simp only [resume, runFrom, advance]
  cases (i.execute p.world p.environment ⟨p.previous⟩ Slot.empty).result with
  | error cause => rfl
  | ok status =>
    by_cases hs : status = 0
    · simp only [hs, ne_eq, not_true_eq_false, if_false, if_true]
      rfl
    · simp only [hs, ne_eq, not_false_eq_true, if_true, if_false]

/-- The run with two slots is the composition, from every stage on. -/
lemma Progress.resume_eq_conclude (p : Progress) (invocations : List Invocation) :
    p.resume invocations = conclude (invocations.foldlM advance p) := by
  induction invocations generalizing p with
  | nil => rfl
  | cons i rest ih =>
    rw [resume_cons, List.foldlM_cons]
    cases p.advance i with
    | error finished => rfl
    | ok q => exact ih q

/-- Stages that all go on only move the run forward. -/
lemma Progress.resume_append {p q : Progress} {before : List Invocation}
    (h : before.foldlM advance p = .ok q) (rest : List Invocation) :
    p.resume (before ++ rest) = q.resume rest := by
  rw [resume_eq_conclude, resume_eq_conclude, List.foldlM_append, h]
  rfl

/-- A stage that goes on makes the next one current, with exactly what it wrote. -/
lemma Progress.advance_eq_ok {p q : Progress} {i : Invocation} (h : p.advance i = .ok q) :
    q.stage = p.stage + 1 ∧
      q.previous = (i.execute p.world p.environment ⟨p.previous⟩ Slot.empty).output.content := by
  simp only [advance] at h
  split at h
  · cases h
  · split at h
    · cases h
      exact ⟨rfl, rfl⟩
    · cases h

/-- Stages are counted in the order in which they run. -/
lemma Progress.stage_of_foldlM {p q : Progress} {before : List Invocation}
    (h : before.foldlM advance p = .ok q) : q.stage = p.stage + before.length := by
  induction before generalizing p with
  | nil =>
    cases h
    rfl
  | cons i before ih =>
    rw [List.foldlM_cons] at h
    cases hi : p.advance i with
    | error finished =>
      rw [hi] at h
      cases h
    | ok r =>
      rw [hi] at h
      have hstage : q.stage = r.stage + before.length := ih h
      rw [hstage, (advance_eq_ok hi).1, List.length_cons]
      omega

/-- The run with two slots is the composition of its stages.  It comes to each stage with what the
stage before wrote in the one slot and nothing in the other; and a stage that writes nothing, that
is, leaves every slot as it was, leaves both slots empty for the stages after it and for the
caller. -/
theorem run_eq_compose (w : World) (env : Environment) (invocations : List Invocation) :
    run w env invocations = compose w env invocations ∧
    ∀ before i after p, invocations = before ++ i :: after →
      before.foldlM Progress.advance (Progress.start w env) = .ok p →
      run w env invocations =
        runFrom p.world before.length p.environment ⟨p.previous⟩ Slot.empty (i :: after) ∧
      ∀ q, p.advance i = .ok q →
        (∀ slot, (i.execute p.world p.environment ⟨p.previous⟩ slot).output = slot) →
        run w env invocations =
          runFrom q.world (before.length + 1) q.environment Slot.empty Slot.empty after := by
  refine ⟨(Progress.start w env).resume_eq_conclude invocations, ?_⟩
  rintro before i after p rfl hp
  have hstage : p.stage = before.length := by
    rw [Progress.stage_of_foldlM hp]
    exact Nat.zero_add before.length
  have hrun : run w env (before ++ i :: after) = p.resume (i :: after) :=
    Progress.resume_append hp (i :: after)
  refine ⟨?_, ?_⟩
  · rw [hrun, ← hstage]
    rfl
  · intro q hq hsilent
    obtain ⟨hnext, hprevious⟩ := Progress.advance_eq_ok hq
    rw [hsilent Slot.empty] at hprevious
    rw [hrun, Progress.resume_cons, hq, ← hstage, ← hnext]
    simp only [Progress.resume, hprevious]

end CommandShell.Pipeline
