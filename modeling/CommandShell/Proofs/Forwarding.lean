import CommandShell.Proofs.Joining
import CommandShell.Proofs.Reading
import CommandShell.Proofs.Sessions

/-!
# A last stage that passes on

`cat` without files writes what it reads, and writes nothing where it can read nothing.  At the end
of a pipeline it therefore changes nothing, however the pipeline ends
(`Pipeline.Progress.resume_append_cat`).

For whole lines it remains to see that a line with ` | cat` after it is understood as the line with
one more command.  Text that is put after a line leaves its regions alone because it begins with a
blank, and a layout of a pipeline goes on as a layout of a longer one.
-/

namespace CommandShell

open Text

/-! ## Layouts of longer pipelines -/

variable {cmds : List Command} {cmd : Command}

/-- One more command may be written after the commands that follow the first. -/
lemma StagesLayout.concat {u before after t : Text} (hu : StagesLayout cmds u)
    (hbefore : before.isBlankText = true) (hafter : after.isBlankText = true)
    (ht : cmd.Layout t) :
    StagesLayout (cmds ++ [cmd]) (u ++ (before ++ '|' :: (after ++ t))) := by
  induction hu with
  | nil =>
    have h : StagesLayout [cmd] (before ++ '|' :: (after ++ (t ++ []))) :=
      .cons hbefore hafter ht .nil
    rwa [List.append_nil] at h
  | cons hbefore' hafter' ht' _ ih =>
    have h := StagesLayout.cons hbefore' hafter' ht' ih
    simpa only [List.append_assoc, List.cons_append] using h

/-- A layout of a pipeline goes on with blanks, a `|` and one more command. -/
lemma Line.Layout.pipeline_concat {s before after t : Text}
    (hs : (Line.pipeline cmds).Layout s) (hbefore : before.isBlankText = true)
    (hafter : after.isBlankText = true) (ht : cmd.Layout t) :
    (Line.pipeline (cmds ++ [cmd])).Layout (s ++ (before ++ '|' :: (after ++ t))) := by
  obtain ⟨b₁, _, b₂, hb₁, hb₂, @⟨t₁, u, first, rest, ht₁, hu⟩, rfl⟩ := hs
  have hblank : (b₂ ++ before).isBlankText = true := by
    rw [isBlankText, List.all_append, Bool.and_eq_true]
    exact ⟨hb₂, hbefore⟩
  -- The blanks after the old pipeline stand before the new `|`.
  refine ⟨b₁, _, [], hb₁, rfl, .mk ht₁ (hu.concat hblank hafter ht), ?_⟩
  simp only [List.append_assoc, List.append_nil]

/-- A line that is read as a pipeline, with a `|` and a well formed command after it, is read as
the longer pipeline. -/
lemma Line.parse_pipeline_concat {s before after t : Text}
    (hs : Line.parse s = .ok (.pipeline cmds)) (hbefore : before.isBlankText = true)
    (hafter : after.isBlankText = true) (hcmd : cmd.IsWellFormed) (ht : cmd.Layout t) :
    Line.parse (s ++ (before ++ '|' :: (after ++ t))) = .ok (.pipeline (cmds ++ [cmd])) := by
  obtain ⟨⟨hne, hcmds⟩, hlayout⟩ := parse_eq_ok_iff.mp hs
  refine parse_eq_ok_iff.mpr ⟨⟨?_, ?_⟩, hlayout.pipeline_concat hbefore hafter ht⟩
  · exact List.append_ne_nil_of_left_ne_nil hne [cmd]
  · intro c hc
    rcases List.mem_append.mp hc with hc | hc
    · exact hcmds c hc
    · rw [List.mem_singleton.mp hc]
      exact hcmd

/-- ` | cat` after a line that is read as a pipeline is read as one more command. -/
lemma Line.parse_append_cat {s : Text} (hs : Line.parse s = .ok (.pipeline cmds)) :
    Line.parse (s ++ " | cat".toList) = .ok (.pipeline (cmds ++ [⟨"cat".toList, []⟩])) := by
  have hblank : isBlankText [' '] = true := by decide
  have hname : IsCommandName "cat".toList := by decide
  exact Line.parse_pipeline_concat hs hblank hblank ⟨hname, by simp⟩ ⟨[], .nil, rfl⟩

/-! ## Running `cat` at the end -/

/-- A command `cat` after other commands is one more invocation. -/
lemma Invocation.ofCommands_append_cat (cmds : List Command) :
    ofCommands (cmds ++ [⟨"cat".toList, []⟩]) = (ofCommands cmds).map (· ++ [.cat []]) := by
  rw [ofCommands_append]
  cases ofCommands cmds <;> rfl

namespace Pipeline.Progress

/-- `cat` without files leaves what was written last, and everything else. -/
lemma resume_cat (p : Progress) : p.resume [.cat []] = p.resume [] := by
  obtain ⟨w, env, previous, stage⟩ := p
  cases previous with
  | none => rfl
  | some t => rfl

/-- At the end of a pipeline `cat` changes nothing, whether the pipeline gets there or not. -/
lemma resume_append_cat (p : Progress) (invocations : List Invocation) :
    p.resume (invocations ++ [.cat []]) = p.resume invocations := by
  obtain ⟨stages, left, q, rfl, hstages, hleft⟩ := p.exists_succeeds_halted invocations
  rw [List.append_assoc, hstages.resume_append, hstages.resume_append]
  by_cases hnil : left = []
  · rw [hnil]
    exact q.resume_cat
  · exact hleft.resume_append hnil [.cat []]

end Pipeline.Progress

namespace Session

open Pipeline

/-- ` | cat` after a pipeline changes nothing: the status and the output, or the failure with its
position, and the environment and the files are those of the line without it. -/
theorem runLine_append_cat {w : World} {env : Environment} {line s : Text} {cmds : List Command}
    (hs : substitute env.vars.get line = .ok s) (hl : Line.parse s = .ok (.pipeline cmds)) :
    runLine w env (line ++ " | cat".toList) = runLine w env line := by
  have hs' : substitute env.vars.get (line ++ " | cat".toList) = .ok (s ++ " | cat".toList) :=
    substitute_append hs (substitute_plain (by decide)) ((stops_cons ..).mpr (by decide))
  have hl' := Line.parse_append_cat hl
  have happend := Invocation.ofCommands_append_cat cmds
  cases h : Invocation.ofCommands cmds with
  | error e =>
    rw [h] at happend
    rw [refused_of_ofLine hs' hl' happend w, refused_of_ofLine hs hl h w]
  | ok invocations =>
    rw [h] at happend
    rw [runLine_eq_resume hs' hl' happend, runLine_eq_resume hs hl h,
      Progress.resume_append_cat]

/-- The line may end in a reference, here to a value with blanks that is read as two words. -/
theorem runLine_append_cat_reference :
    substitute (Environment.mk ⟨[("x".toList, "1 2".toList)]⟩ Path.root).vars.get
        "echo 'a | b' | tool $x".toList = .ok "echo 'a | b' | tool 1 2".toList ∧
      Line.parse "echo 'a | b' | tool 1 2".toList =
        .ok (.pipeline [⟨"echo".toList, [⟨[.single "a | b".toList]⟩]⟩,
          ⟨"tool".toList, [⟨[.bare "1".toList]⟩, ⟨[.bare "2".toList]⟩]⟩]) ∧
      runLine (World.ofFiles FileSystem.empty)
          ⟨⟨[("x".toList, "1 2".toList)]⟩, Path.root⟩
          ("echo 'a | b' | tool $x".toList ++ " | cat".toList) =
        runLine (World.ofFiles FileSystem.empty)
          ⟨⟨[("x".toList, "1 2".toList)]⟩, Path.root⟩ "echo 'a | b' | tool $x".toList := by
  refine ⟨?hs, ?hl, runLine_append_cat ?hs ?hl⟩
  case hs => decide +kernel
  case hl => decide +kernel

end Session

end CommandShell
