import CommandShell.Machine.Platform
import CommandShell.Proofs.Halting

/-!
# What the log tells

The log of a pipeline is a faithful account of its stages.  `Pipeline.events` is a recursion of its
own beside the one that runs the stages, so this is a theorem: the log tells, in their order, of the
stages that succeeded and of an `exit` that ended the run, and of no other stage as done
(`Pipeline.tells_stages`).  The shape of a run from `Progress.Succeeds` and `Progress.Halted` gives
it, one lemma for each of the two parts.

Unless it is asked for, nothing of this is written.  All that the log is told of a line matters less
than a warning, and the filter that the program describes itself lets pass what matters as much as
one (`Log.Library.KnowsWarn`); so the log is silent (`Log.Library.isSilent_logger`).
-/

namespace CommandShell

/-! ## Stages -/

/-- The stage that an event tells of as done, with its command and its status. -/
def Log.Event.finished? : Log.Event → Option (ℕ × Text × Status)
  | .finished stage command status => some (stage, command, status)
  | _ => none

/-- Before a command is done, no stage is told of as done. -/
lemma Invocation.filterMap_events (i : Invocation) (w : World) (env : Environment) :
    (i.events w env).filterMap Log.Event.finished? = [] := by
  cases i with
  | external name arguments =>
    rw [Invocation.events]
    split
    · rfl
    · rfl
  | _ => rfl

namespace Pipeline

namespace Progress

/-- The stages that the log tells of as done, with these stages to come. -/
def told (p : Progress) (invocations : List Invocation) : List (ℕ × Text × Status) :=
  (eventsFrom p.world p.stage p.environment ⟨p.previous⟩ Slot.empty invocations).filterMap
    Log.Event.finished?

variable {p q : Progress} {i : Invocation} {stages rest : List Invocation}

/-- The log tells of a stage that succeeds, and then of the stages after it. -/
lemma told_cons_of_success (h : (p.outcome i).result = .ok Status.success) :
    p.told (i :: rest) = (p.stage, i.name, Status.success) :: (p.after i).told rest := by
  unfold outcome at h
  rw [told, eventsFrom, List.filterMap_append, i.filterMap_events, List.nil_append]
  simp only [h]
  rfl

/-- It tells of all stages that succeed, each at its place. -/
lemma Succeeds.told_append (h : p.Succeeds stages q) (rest : List Invocation) :
    p.told (stages ++ rest) =
      stages.mapIdx (fun k i => (p.stage + k, i.name, Status.success)) ++ q.told rest := by
  induction h with
  | nil p => rfl
  | @cons p q i stages h _ ih =>
    have hplace : ∀ k, (p.after i).stage + k = p.stage + (k + 1) := fun k =>
      Nat.add_right_comm p.stage 1 k
    rw [List.cons_append, told_cons_of_success h, ih, List.mapIdx_cons, List.cons_append]
    simp only [hplace, Nat.add_zero]

/-- Where a run halts, it tells of `exit` and of nothing else. -/
lemma Halted.told_eq (h : p.Halted rest) :
    p.told rest = if rest.head? = some .exit then
      [(p.stage, Invocation.exit.name, Status.terminate)] else [] := by
  cases h with
  | finished => rfl
  | exit rest => rfl
  | @failed i cause h rest =>
    have hexit : i ≠ .exit := by
      rintro rfl
      exact absurd h (by simp [outcome, Invocation.execute])
    unfold outcome at h
    rw [told, eventsFrom, List.filterMap_append, i.filterMap_events, List.nil_append]
    simp [h, hexit]

end Progress

/-- The log tells of the stages of a pipeline as they are done: of those that succeed, one after the
other, up to the place where the run halts; and of `exit`, if it is the stage that halts it. -/
theorem tells_stages (w : World) (env : Environment) (invocations : List Invocation) :
    ∃ stages left q, invocations = stages ++ left ∧
      (Progress.start w env).Succeeds stages q ∧ q.Halted left ∧
      (events w env invocations).filterMap Log.Event.finished? =
        stages.mapIdx (fun k i => (k, i.name, Status.success)) ++
          if left.head? = some .exit then
            [(stages.length, Invocation.exit.name, Status.terminate)] else [] := by
  obtain ⟨stages, left, q, rfl, hstages, hleft⟩ :=
    (Progress.start w env).exists_succeeds_halted invocations
  refine ⟨stages, left, q, rfl, hstages, hleft, ?_⟩
  have hstart : (Progress.start w env).stage = 0 := rfl
  have htold := hstages.told_append left
  rw [hleft.told_eq, hstages.stage_eq] at htold
  simp only [hstart, Nat.zero_add] at htold
  exact htold

end Pipeline

/-! ## Silence -/

namespace Log

/-- What the log is told of a line matters less than a warning. -/
lemma Event.level_eq (e : Event) : e.level = .trace ∨ e.level = .debug := by
  cases e with
  | tokens regions => exact .inl rfl
  | substituted line => exact .inr rfl
  | parsed line => exact .inr rfl
  | spawning program arguments => exact .inr rfl
  | finished stage command status => exact .inr rfl

/-- None of what the log is told is written. -/
def Logger.IsSilent (l : Logger) : Prop :=
  ∀ e : Event, l.passes e.level e.target = false

/-- A silent log is empty. -/
lemma Logger.IsSilent.written_eq {l : Logger} (h : l.IsSilent) (n : ℕ) (events : List Event) :
    l.written n events = [] := by
  induction events generalizing n with
  | nil => rfl
  | cons e rest ih => simp [Logger.written, h e, ih]

/-- What the library makes of `warn` lets only warnings and errors pass. -/
def Library.KnowsWarn (l : Library) : Prop :=
  ∀ level part, l.filter "warn".toList level part = true → level = .warn ∨ level = .error

/-- The log is silent, unless a variable describes a filter or every step is to be logged. -/
lemma Library.isSilent_logger {l : Library} {bindings : Bindings} (h : l.KnowsWarn)
    (hunset : bindings.lookup filterVariable = none) : (l.logger bindings false).IsSilent := by
  have hfilter : (l.logger bindings false).passes = l.filter "warn".toList := by
    simp only [Library.logger, Library.chosen, hunset]
    rfl
  intro e
  rw [hfilter, Bool.eq_false_iff]
  intro hpasses
  have hlevel := h _ _ hpasses
  rcases e.level_eq with he | he
  all_goals simp [he] at hlevel

/-- What the library of the platform makes of `warn`. -/
lemma knowsWarn_platform : Machine.platform.log.KnowsWarn := by
  intro level part hpasses
  have hdirectives : (Machine.directives "warn".toList).filterMap id = [⟨[], some .warn⟩] := by
    decide
  have hfilter : Machine.platform.log.filter "warn".toList =
      Machine.filterOf [⟨[], some .warn⟩] := congrArg Machine.filterOf hdirectives
  rw [hfilter] at hpasses
  cases level with
  | warn => exact .inl rfl
  | error => exact .inr rfl
  | trace | debug | info => exact absurd hpasses Bool.false_ne_true

end Log

end CommandShell
