import CommandShell.Proofs.Composition
import CommandShell.Proofs.Effects

/-!
# How far a pipeline gets

Every run of a pipeline has the same shape: some stages succeed one after the other, and then the
run halts, because no stage is left, because the next one is `exit`, or because it fails.
`Progress.Succeeds` and `Progress.Halted` are the two parts of this shape, stated with
`Invocation.execute` alone; `Progress.exists_succeeds_halted` says that every run has it, and
`Progress.Succeeds.resume_append` with the lemmas `Progress.resume_…` what becomes of a run that
has it.

What a run does to the environment is then seen at the stages that succeeded.  Without an
assignment among them the variables stay, and the directory is the one that the last `cd` among
them set (`Progress.LastDirectory`).
-/

namespace CommandShell.Pipeline

namespace Progress

/-! ## Stages that succeed -/

/-- What a stage does when its turn comes.  It finds what the stage before wrote, and its own slot
empty. -/
def outcome (p : Progress) (i : Invocation) : Outcome :=
  i.execute p.world p.environment ⟨p.previous⟩ Slot.empty

/-- What is carried on after a stage. -/
def after (p : Progress) (i : Invocation) : Progress :=
  ⟨{ p.world with files := (p.outcome i).files }, (p.outcome i).environment,
    (p.outcome i).output.content, p.stage + 1⟩

/-- The stages succeed one after the other, each on what the one before left. -/
inductive Succeeds : Progress → List Invocation → Progress → Prop
  | nil (p : Progress) : Succeeds p [] p
  | cons {p q : Progress} {i : Invocation} {rest : List Invocation}
      (h : (p.outcome i).result = .ok Status.success) (hrest : Succeeds (p.after i) rest q) :
      Succeeds p (i :: rest) q

variable {p q : Progress} {i : Invocation} {stages rest : List Invocation}

/-- A stage that succeeds goes on. -/
lemma advance_of_success (h : (p.outcome i).result = .ok Status.success) :
    p.advance i = .ok (p.after i) := by
  unfold outcome at h
  simp only [advance, h]
  rfl

namespace Succeeds

/-- Stages that succeed are composed without an early end. -/
lemma foldlM_advance (h : p.Succeeds stages q) : stages.foldlM advance p = .ok q := by
  induction h with
  | nil p => rfl
  | cons h _ ih =>
    rw [List.foldlM_cons, advance_of_success h]
    exact ih

/-- Stages that succeed only move the run forward. -/
lemma resume_append (h : p.Succeeds stages q) (rest : List Invocation) :
    p.resume (stages ++ rest) = q.resume rest :=
  Progress.resume_append h.foldlM_advance rest

/-- As many stages are done as have succeeded. -/
lemma stage_eq (h : p.Succeeds stages q) : q.stage = p.stage + stages.length :=
  stage_of_foldlM h.foldlM_advance

/-- The last of the stages that succeed starts from where the others lead. -/
lemma of_concat (h : p.Succeeds (stages ++ [i]) q) :
    ∃ r, p.Succeeds stages r ∧ q = r.after i := by
  induction stages generalizing p with
  | nil =>
    cases h with
    | cons h hrest =>
      cases hrest
      exact ⟨p, .nil p, rfl⟩
  | cons j stages ih =>
    cases h with
    | cons h hrest =>
      obtain ⟨r, hr, hq⟩ := ih hrest
      exact ⟨r, .cons h hr, hq⟩

/-- No stage that succeeds is `exit`. -/
lemma exit_not_mem (h : p.Succeeds stages q) : Invocation.exit ∉ stages := by
  induction h with
  | nil p => exact List.not_mem_nil
  | @cons p q i rest h _ ih =>
    rw [List.mem_cons, not_or]
    refine ⟨?_, ih⟩
    rintro rfl
    exact absurd (Except.ok.inj h) (by decide)

end Succeeds

/-! ## Where a run halts -/

/-- With these stages to come, the run halts: none is left, the next one is `exit`, or it fails. -/
inductive Halted (p : Progress) : List Invocation → Prop
  | finished : p.Halted []
  | exit (rest : List Invocation) : p.Halted (.exit :: rest)
  | failed {i : Invocation} {cause : Cause} (h : (p.outcome i).result = .error cause)
      (rest : List Invocation) : p.Halted (i :: rest)

/-- Every run halts after some stages that succeed. -/
lemma exists_succeeds_halted (p : Progress) (invocations : List Invocation) :
    ∃ stages left q, invocations = stages ++ left ∧ p.Succeeds stages q ∧ q.Halted left := by
  induction invocations generalizing p with
  | nil => exact ⟨[], [], p, rfl, .nil p, .finished⟩
  | cons i rest ih =>
    cases hr : (p.outcome i).result with
    | error cause => exact ⟨[], i :: rest, p, rfl, .nil p, .failed hr rest⟩
    | ok status =>
      rcases (i.execute_effect ..).status_of_ok hr with rfl | rfl
      · obtain ⟨stages, left, q, rfl, hstages, hleft⟩ := ih (p.after i)
        exact ⟨i :: stages, left, q, rfl, .cons hr hstages, hleft⟩
      · exact ⟨[], .exit :: rest, p, rfl, .nil p, .exit rest⟩

/-- A run that comes to `exit` ends with what was written before, and nothing is done for the
stages after it. -/
lemma resume_exit (p : Progress) (rest : List Invocation) :
    p.resume (.exit :: rest) =
      ⟨.ok (Status.terminate, p.previous), p.environment, p.world.files⟩ :=
  rfl

/-- A run that comes to a stage that fails ends with its position, and nothing is done for the
stages after it. -/
lemma resume_failed {cause : Cause} (h : (p.outcome i).result = .error cause)
    (rest : List Invocation) :
    p.resume (i :: rest) =
      ⟨.error ⟨p.stage, ⟨i.name, cause⟩⟩, p.environment, (p.outcome i).files⟩ := by
  have henv : (p.outcome i).environment = p.environment :=
    (i.execute_effect ..).environment_of_error h
  unfold outcome at h henv ⊢
  rw [resume_cons]
  simp only [advance, h, henv]

/-- Halting leaves the environment as it was. -/
lemma Halted.environment_resume (h : p.Halted stages) :
    (p.resume stages).environment = p.environment := by
  cases h with
  | finished => rfl
  | exit rest => rfl
  | failed h rest => rw [resume_failed h]

/-- Where a run halts before its last stage, further stages change nothing. -/
lemma Halted.resume_append (h : p.Halted stages) (hne : stages ≠ [])
    (more : List Invocation) : p.resume (stages ++ more) = p.resume stages := by
  cases h with
  | finished => exact absurd rfl hne
  | exit rest => rfl
  | failed h rest => rw [List.cons_append, resume_failed h, resume_failed h]

/-! ## The environment after stages that succeed -/

/-- What a stage that succeeds leaves of the environment. -/
lemma environment_after (h : (p.outcome i).result = .ok Status.success) :
    i.onlyWrites = true ∧ (p.after i).environment = p.environment ∨
      (∃ name value, i = .assignment name value ∧
        (p.after i).environment = p.environment.set name value) ∨
      ∃ target directory, i = .cd target ∧
        p.world.changeDirectory p.environment target = .ok directory ∧
        (p.after i).environment = { p.environment with directory := directory } :=
  (i.execute_effect ..).environment_of_success h

/-- Without an assignment among them, stages leave the variables as they were. -/
lemma Succeeds.vars_eq (h : p.Succeeds stages q)
    (hset : ∀ name value, Invocation.assignment name value ∉ stages) :
    q.environment.vars = p.environment.vars := by
  induction h with
  | nil p => rfl
  | @cons p q i rest h _ ih =>
    rw [ih fun name value hmem => hset name value (List.mem_cons_of_mem i hmem)]
    rcases environment_after h with ⟨-, henv⟩ | ⟨name, value, rfl, -⟩ | ⟨_, _, -, -, henv⟩
    · rw [henv]
    · exact absurd (List.mem_cons_self ..) (hset name value)
    · rw [henv]

/-- The directory of the session after stages that began at `p` and succeeded. -/
inductive LastDirectory (p : Progress) (stages : List Invocation) (directory : Path) : Prop
  /-- No stage is a `cd`, and the directory is the old one. -/
  | kept (hcd : ∀ target, Invocation.cd target ∉ stages)
      (hd : directory = p.environment.directory)
  /-- The last `cd` among the stages set the directory. -/
  | changed {before after : List Invocation} {target : Option Text} {r : Progress}
      (hstages : stages = before ++ .cd target :: after)
      (hlast : ∀ target, Invocation.cd target ∉ after) (hr : p.Succeeds before r)
      (hd : r.world.changeDirectory r.environment target = .ok directory)

/-- The directory after stages that succeed is the one the last `cd` among them set. -/
lemma Succeeds.lastDirectory (h : p.Succeeds stages q) :
    p.LastDirectory stages q.environment.directory := by
  induction h with
  | nil p => exact .kept (fun target => List.not_mem_nil) rfl
  | @cons p q i rest h _ ih =>
    cases ih with
    | changed hstages hlast hr hd =>
      exact .changed (congrArg (List.cons i) hstages) hlast (.cons h hr) hd
    | kept hcd hd =>
      -- No `cd` follows, so the directory is the one that this stage leaves.
      rcases environment_after h with ⟨hwrites, henv⟩ | ⟨name, value, rfl, henv⟩ |
        ⟨target, directory, rfl, hmoved, henv⟩
      · refine .kept (fun target hmem => ?_) (by rw [hd, henv])
        rcases List.mem_cons.mp hmem with rfl | hmem
        · cases hwrites
        · exact hcd target hmem
      · refine .kept (fun target hmem => ?_) (by rw [hd, henv]; rfl)
        rcases List.mem_cons.mp hmem with heq | hmem
        · cases heq
        · exact hcd target hmem
      · have hstages : Invocation.cd target :: rest = [] ++ .cd target :: rest := rfl
        exact .changed hstages hcd (.nil p) (by rw [hmoved, hd, henv])

end Progress

end CommandShell.Pipeline
