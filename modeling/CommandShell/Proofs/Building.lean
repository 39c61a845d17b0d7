import CommandShell.Invocation
import Mathlib.Tactic.Lemma

/-!
# Commands and their invocations

What is kept when the commands of a line are understood.  The invocation of a command has the name
of the command and is never an assignment (`Invocation.ofCommand_eq_ok`); and the invocations of a
list of commands correspond to the commands one by one, so the list can be cut on either side
(`Invocation.ofCommands_append`, `Invocation.exists_append_of_ofCommands`).
-/

namespace CommandShell.Invocation

/-! ## One command -/

/-- Each built-in command makes invocations of its own name, none of which is an assignment or
starts a program. -/
lemma name_of_mem_builtins {name : Text} {create : List Text → Except ArgumentError Invocation}
    (hmem : (name, create) ∈ builtins) {arguments : List Text} {i : Invocation}
    (h : create arguments = .ok i) :
    i.name = name ∧ (∀ x value, i ≠ .assignment x value) ∧ ∀ x words, i ≠ .external x words := by
  simp only [builtins, List.mem_cons, Prod.mk.injEq, List.not_mem_nil, or_false] at hmem
  rcases hmem with ⟨rfl, rfl⟩ | ⟨rfl, rfl⟩ | ⟨rfl, rfl⟩ | ⟨rfl, rfl⟩ | ⟨rfl, rfl⟩ | ⟨rfl, rfl⟩ |
    ⟨rfl, rfl⟩ | ⟨rfl, rfl⟩
  case inr.inr.inr.inr.inr.inl =>
    -- `grep` may refuse its arguments.
    simp only at h
    split at h
    · cases h
      exact ⟨rfl, by simp, by simp⟩
    · cases h
  case inr.inr.inr.inr.inr.inr.inl =>
    -- `cd` takes one argument at most.
    simp only at h
    split at h
    · cases h
      exact ⟨rfl, by simp, by simp⟩
    · cases h
      exact ⟨rfl, by simp, by simp⟩
    · cases h
  all_goals
    cases h
    exact ⟨rfl, by simp, by simp⟩

/-- What is found under a name among the built-in commands is one of them. -/
lemma mem_builtins_of_lookup {name : Text}
    {create : List Text → Except ArgumentError Invocation}
    (h : builtins.lookup name = some create) : (name, create) ∈ builtins := by
  obtain ⟨before, after, hsplit, -⟩ := List.lookup_eq_some_iff.mp h
  rw [hsplit]
  exact List.mem_append_right before (List.mem_cons_self ..)

/-- The invocation of a command has the name of the command, and it is not an assignment. -/
lemma ofCommand_eq_ok {name : Text} {arguments : List Word} {i : Invocation}
    (h : ofCommand name arguments = .ok i) :
    i.name = name ∧ ∀ x value, i ≠ .assignment x value := by
  unfold ofCommand at h
  split at h
  · next create hlookup =>
    obtain ⟨hname, hset, -⟩ := name_of_mem_builtins (mem_builtins_of_lookup hlookup) h
    exact ⟨hname, hset⟩
  · cases h
    exact ⟨rfl, by simp⟩

/-- A command that starts a program does not have the name of a built-in one. -/
lemma not_mem_builtinNames_of_external {name x : Text} {arguments : List Word} {words : List Text}
    (h : ofCommand name arguments = .ok (.external x words)) : name ∉ builtinNames := by
  unfold ofCommand at h
  split at h
  · next create hlookup =>
    obtain ⟨-, -, hexternal⟩ := name_of_mem_builtins (mem_builtins_of_lookup hlookup) h
    exact absurd rfl (hexternal x words)
  · next hlookup =>
    intro hmem
    obtain ⟨p, hp, rfl⟩ := List.mem_map.mp hmem
    simpa using List.lookup_eq_none_iff.mp hlookup p hp

/-- A command is understood as `exit` exactly when it has that name. -/
lemma ofCommand_eq_exit_iff {cmd : Command} :
    ofCommand cmd.name cmd.arguments = .ok .exit ↔ cmd.name = "exit".toList := by
  constructor
  · intro h
    exact (ofCommand_eq_ok h).1.symm
  · intro h
    rw [h]
    rfl

/-! ## All commands of a line -/

/-- The invocations of some commands and then of others. -/
lemma ofCommands_append (before after : List Command) :
    ofCommands (before ++ after) =
      match ofCommands before with
      | .error e => .error e
      | .ok stages => (ofCommands after).map (stages ++ ·) := by
  induction before with
  | nil =>
    rw [List.nil_append]
    cases ofCommands after <;> rfl
  | cons cmd before ih =>
    simp only [List.cons_append, ofCommands, ih]
    cases ofCommand cmd.name cmd.arguments with
    | error e => rfl
    | ok i =>
      cases ofCommands before with
      | error e => rfl
      | ok stages => cases ofCommands after <;> rfl

/-- Where commands are understood, the first of them and the others are. -/
lemma exists_cons_of_ofCommands {cmd : Command} {cmds : List Command}
    {invocations : List Invocation} (h : ofCommands (cmd :: cmds) = .ok invocations) :
    ∃ i rest, ofCommand cmd.name cmd.arguments = .ok i ∧ ofCommands cmds = .ok rest ∧
      invocations = i :: rest := by
  simp only [ofCommands] at h
  split at h
  · cases h
  · next i hi =>
    split at h
    · cases h
    · next rest hrest =>
      cases h
      exact ⟨i, rest, hi, hrest, rfl⟩

/-- Where the invocations of commands are cut, the commands are cut in the same place. -/
lemma exists_append_of_ofCommands {cmds : List Command} {stages left : List Invocation}
    (h : ofCommands cmds = .ok (stages ++ left)) :
    ∃ before after, cmds = before ++ after ∧ ofCommands before = .ok stages ∧
      ofCommands after = .ok left := by
  induction stages generalizing cmds with
  | nil => exact ⟨[], cmds, rfl, rfl, h⟩
  | cons i stages ih =>
    cases cmds with
    | nil => cases h
    | cons cmd cmds =>
      obtain ⟨j, rest, hj, hrest, heq⟩ := exists_cons_of_ofCommands h
      obtain ⟨rfl, rfl⟩ := List.cons.inj heq
      obtain ⟨before, after, rfl, hbefore, hafter⟩ := ih hrest
      refine ⟨cmd :: before, after, rfl, ?_, hafter⟩
      simp only [ofCommands, hj, hbefore]

/-- Each of the commands of a line has its invocation among those of the line. -/
lemma exists_mem_of_mem_commands {cmds : List Command} {invocations : List Invocation}
    (h : ofCommands cmds = .ok invocations) {cmd : Command} (hmem : cmd ∈ cmds) :
    ∃ i ∈ invocations, ofCommand cmd.name cmd.arguments = .ok i := by
  induction cmds generalizing invocations with
  | nil => cases hmem
  | cons d cmds ih =>
    obtain ⟨i, rest, hi, hrest, rfl⟩ := exists_cons_of_ofCommands h
    rcases List.mem_cons.mp hmem with rfl | hmem
    · exact ⟨i, List.mem_cons_self .., hi⟩
    · obtain ⟨j, hj, hbuilt⟩ := ih hrest hmem
      exact ⟨j, List.mem_cons_of_mem i hj, hbuilt⟩

/-- One command that does not take its arguments is enough for a line to have no invocations. -/
lemma exists_error_of_mem_commands {cmds : List Command} {cmd : Command} (hmem : cmd ∈ cmds)
    {e : ArgumentError} (he : ofCommand cmd.name cmd.arguments = .error e) :
    ∃ e', ofCommands cmds = .error e' := by
  cases h : ofCommands cmds with
  | error e' => exact ⟨e', rfl⟩
  | ok invocations =>
    obtain ⟨i, -, hi⟩ := exists_mem_of_mem_commands h hmem
    rw [he] at hi
    cases hi

/-- Each of the invocations of a line belongs to one of its commands. -/
lemma exists_command_of_mem {cmds : List Command} {invocations : List Invocation}
    (h : ofCommands cmds = .ok invocations) {i : Invocation} (hmem : i ∈ invocations) :
    ∃ cmd ∈ cmds, ofCommand cmd.name cmd.arguments = .ok i := by
  induction cmds generalizing invocations with
  | nil =>
    cases h
    cases hmem
  | cons cmd cmds ih =>
    obtain ⟨j, rest, hj, hrest, rfl⟩ := exists_cons_of_ofCommands h
    rcases List.mem_cons.mp hmem with rfl | hmem
    · exact ⟨cmd, List.mem_cons_self .., hj⟩
    · obtain ⟨d, hd, hbuilt⟩ := ih hrest hmem
      exact ⟨d, List.mem_cons_of_mem cmd hd, hbuilt⟩

/-- The invocations of commands are not assignments. -/
lemma assignment_not_mem_of_ofCommands {cmds : List Command} {invocations : List Invocation}
    (h : ofCommands cmds = .ok invocations) (name value : Text) :
    assignment name value ∉ invocations := by
  intro hmem
  obtain ⟨cmd, -, hbuilt⟩ := exists_command_of_mem h hmem
  exact (ofCommand_eq_ok hbuilt).2 name value rfl

/-- Built-in commands start no programs. -/
lemma external_not_mem_of_ofCommands {cmds : List Command} {invocations : List Invocation}
    (h : ofCommands cmds = .ok invocations) (hcmds : ∀ cmd ∈ cmds, cmd.name ∈ builtinNames)
    (name : Text) (words : List Text) : external name words ∉ invocations := by
  intro hmem
  obtain ⟨cmd, hcmd, hbuilt⟩ := exists_command_of_mem h hmem
  exact not_mem_builtinNames_of_external hbuilt (hcmds cmd hcmd)

end CommandShell.Invocation
