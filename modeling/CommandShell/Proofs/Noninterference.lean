import CommandShell.Proofs.Joining
import CommandShell.Proofs.Listing
import CommandShell.Proofs.Sessions

/-!
# The variables that a line depends on

A line of built-in commands depends on the variables that it refers to, on `HOME`, to which `cd`
goes by itself, and on no others.  The proof compares two sessions that may differ in everything
else: their other variables, and how programs behave.

Agreement on some names (`Environment.AgreeOn`) is kept by every built-in command, and it is all
that a built-in command can tell two environments by (`Invocation.execute_alike`); so it is kept
along a pipeline (`Pipeline.runFrom_alike`).  The line that the pipeline is read from is the same in
both sessions because references are replaced by the values of the names they hold
(`substitute_eq_of_agreeOn`).
-/

namespace CommandShell

/-! ## The names in a line -/

/-- The names that a piece refers to. -/
def Piece.names : Piece → List Text
  | plain _ => []
  | reference name => [name]

/-- The names that a region refers to.  There are none inside of single quotes. -/
def Region.names : Region → List Text
  | plain _ => []
  | single _ => []
  | double inner => inner.flatMap Piece.names
  | reference name => [name]

/-- A region is replaced by the same text where the values of its names are the same. -/
lemma Region.expand_congr {value value' : Text → Text} {r : Region}
    (h : ∀ name ∈ r.names, value name = value' name) : r.expand value = r.expand value' := by
  cases r with
  | plain text => rfl
  | single text => rfl
  | reference name => exact h name (List.mem_singleton_self name)
  | double inner =>
    have hinner : inner.flatMap (Piece.expand value) = inner.flatMap (Piece.expand value') := by
      refine List.flatMap_congr fun p hp => ?_
      cases p with
      | plain text => rfl
      | reference name =>
        exact h name (List.mem_flatMap.mpr ⟨.reference name, hp, List.mem_singleton_self name⟩)
    rw [Region.expand, Region.expand, hinner]

/-! ## Sessions that agree -/

/-- Two environments have the same directory and the same values for some names. -/
structure Environment.AgreeOn (names : List Text) (env env' : Environment) : Prop where
  directory : env.directory = env'.directory
  vars : ∀ name ∈ names, env.vars.get? name = env'.vars.get? name

variable {names : List Text} {w w' : World} {env env' : Environment}

/-- A variable that is set to the same value in both environments is one more that they agree on. -/
lemma Environment.AgreeOn.set (h : env.AgreeOn names env') (name value : Text) :
    (env.set name value).AgreeOn (name :: names) (env'.set name value) where
  directory := h.directory
  vars other hother := by
    have hset := Variables.get?_set env.vars name value other
    have hset' := Variables.get?_set env'.vars name value other
    by_cases heq : other = name
    · rw [if_pos heq] at hset hset'
      exact hset.trans hset'.symm
    · rw [if_neg heq] at hset hset'
      have hmem : other ∈ names := (List.mem_cons.mp hother).resolve_left heq
      exact hset.trans ((h.vars other hmem).trans hset'.symm)

/-- Environments that agree on some names agree on fewer. -/
lemma Environment.AgreeOn.mono {fewer : List Text} (h : env.AgreeOn names env')
    (hfewer : ∀ name ∈ fewer, name ∈ names) : env.AgreeOn fewer env' :=
  ⟨h.directory, fun name hname => h.vars name (hfewer name hname)⟩

/-- Environments that agree on the names of a line give the same line. -/
lemma substitute_eq_of_agreeOn {line : Text} {rs : List Region} (hscan : Region.scan line = .ok rs)
    (h : env.AgreeOn names env') (hnames : ∀ r ∈ rs, ∀ name ∈ r.names, name ∈ names) :
    substitute env.vars.get line = substitute env'.vars.get line := by
  have hexpand : rs.flatMap (Region.expand env.vars.get) =
      rs.flatMap (Region.expand env'.vars.get) := by
    refine List.flatMap_congr fun r hr => Region.expand_congr fun name hname => ?_
    rw [Variables.get, Variables.get, h.vars name (hnames r hr name hname)]
  rw [substitute, substitute, hscan]
  exact congrArg Except.ok hexpand

/-! ## What built-in commands find -/

namespace World

section

variable (hw : w.SameFiles w') (hd : env.directory = env'.directory)

include hd in
/-- Paths are taken from the directory of the session. -/
lemma resolve_eq (p : Text) : env.resolve p = env'.resolve p := by
  rw [Environment.resolve, Environment.resolve, hd]

include hw hd

lemma readFile_eq (file : Text) : w.readFile env file = w'.readFile env' file := by
  rw [readFile, readFile, hw.files, hw.base, resolve_eq hd]

lemma concatFiles_eq (files : List Text) : w.concatFiles env files = w'.concatFiles env' files := by
  induction files with
  | nil => rfl
  | cons file rest ih => rw [concatFiles, concatFiles, readFile_eq hw hd, ih]

lemma countFiles_eq (files : List Text) : w.countFiles env files = w'.countFiles env' files := by
  induction files with
  | nil => rfl
  | cons file rest ih => rw [countFiles, countFiles, readFile_eq hw hd, ih]

lemma searchLines_eq (file : Text) : w.searchLines env file = w'.searchLines env' file := by
  rw [searchLines, searchLines, hw.files, hw.base, resolve_eq hd]

lemma searchFiles_eq (isMatch : Text → Bool) (afterContext : ℕ) (labelled : Bool)
    (files : List Text) :
    w.searchFiles env isMatch afterContext labelled files =
      w'.searchFiles env' isMatch afterContext labelled files := by
  induction files with
  | nil => rfl
  | cons file rest ih => rw [searchFiles, searchFiles, searchLines_eq hw hd, ih]

lemma search_eq (input : Slot) (g : Grep) : w.search env input g = w'.search env' input g := by
  simp only [search, searchFiles_eq hw hd]

end

/-- `cd` goes to the same directory where `HOME` is the same. -/
lemma changeDirectory_eq (hw : w.SameFiles w') (h : env.AgreeOn names env')
    (hhome : "HOME".toList ∈ names) (target : Option Text) :
    w.changeDirectory env target = w'.changeDirectory env' target := by
  have htarget : cdTarget env target = cdTarget env' target := by
    unfold cdTarget
    rw [h.vars _ hhome]
  simp only [changeDirectory, htarget, hw.files, hw.base, resolve_eq h.directory]

end World

/-! ## Running in two sessions -/

/-- Two commands have ended in the same way, in environments that agree. -/
structure Outcome.Alike (names : List Text) (o o' : Outcome) : Prop where
  result : o.result = o'.result
  environment : o.environment.AgreeOn names o'.environment
  output : o.output = o'.output
  files : o.files = o'.files

/-- Two lines have ended in the same way, in environments that agree. -/
structure Finished.Alike {ε : Type} (names : List Text) (f f' : Finished ε) : Prop where
  result : f.result = f'.result
  environment : f.environment.AgreeOn names f'.environment
  files : f.files = f'.files

/-- A command that works out the same text in both sessions ends in the same way. -/
lemma Outcome.written_alike (hw : w.SameFiles w') (h : env.AgreeOn names env') (output : Slot)
    {r r' : Except Cause Text} (hr : r = r') :
    (Outcome.written w.files env output r).Alike names
      (Outcome.written w'.files env' output r') := by
  subst hr
  cases r with
  | error cause => exact ⟨rfl, h, rfl, hw.files⟩
  | ok t => exact ⟨rfl, h, rfl, hw.files⟩

/-- A command that starts no program ends in the same way in both sessions. -/
lemma Invocation.execute_alike {i : Invocation} (hi : ∀ name words, i ≠ .external name words)
    (hw : w.SameFiles w') (h : env.AgreeOn names env') (hhome : "HOME".toList ∈ names)
    (input output : Slot) :
    (i.execute w env input output).Alike names (i.execute w' env' input output) := by
  cases i with
  | external name words => exact absurd rfl (hi name words)
  | assignment name value =>
    have hset := (h.set name value).mono fun other hother => List.mem_cons_of_mem name hother
    exact ⟨rfl, hset, rfl, hw.files⟩
  | echo arguments => exact ⟨rfl, h, rfl, hw.files⟩
  | pwd =>
    exact Outcome.written_alike hw h output
      (congrArg (fun d => Except.ok (Path.shown d)) h.directory)
  | exit => exact ⟨rfl, h, rfl, hw.files⟩
  | cat files =>
    cases files with
    | cons file files =>
      exact Outcome.written_alike hw h output (World.concatFiles_eq hw h.directory _)
    | nil =>
      simp only [execute]
      split
      · exact ⟨rfl, h, rfl, hw.files⟩
      · exact Outcome.written_alike hw h output rfl
  | wc files =>
    cases files with
    | cons file files =>
      exact Outcome.written_alike hw h output
        (congrArg (Except.map _) (World.countFiles_eq hw h.directory _))
    | nil =>
      simp only [execute]
      split
      · exact ⟨rfl, h, rfl, hw.files⟩
      · exact Outcome.written_alike hw h output rfl
  | ls paths => exact Outcome.written_alike hw h output (World.listing_eq hw h.directory paths)
  | cd target =>
    simp only [execute, World.changeDirectory_eq hw h hhome target]
    split
    · exact ⟨rfl, h, rfl, hw.files⟩
    · exact ⟨rfl, ⟨rfl, h.vars⟩, rfl, hw.files⟩
  | grep g =>
    simp only [execute, World.search_eq hw h.directory input g]
    split
    · exact ⟨rfl, h, rfl, hw.files⟩
    · exact ⟨rfl, h, rfl, hw.files⟩
    · exact Outcome.written_alike hw h output rfl

/-- A pipeline that starts no programs ends in the same way in both sessions. -/
lemma Pipeline.runFrom_alike {invocations : List Invocation}
    (hi : ∀ name words, Invocation.external name words ∉ invocations) (hw : w.SameFiles w')
    (h : env.AgreeOn names env') (hhome : "HOME".toList ∈ names) (stage : ℕ)
    (input output : Slot) :
    (runFrom w stage env input output invocations).Alike names
      (runFrom w' stage env' input output invocations) := by
  induction invocations generalizing w w' env env' stage input output with
  | nil => exact ⟨rfl, h, hw.files⟩
  | cons i rest ih =>
    have hhead : ∀ name words, i ≠ .external name words := by
      rintro name words rfl
      exact hi name words (List.mem_cons_self ..)
    have hrest : ∀ name words, Invocation.external name words ∉ rest := fun name words hmem =>
      hi name words (List.mem_cons_of_mem i hmem)
    have hstep := i.execute_alike hhead hw h hhome input output
    simp only [runFrom, hstep.result]
    split
    · exact ⟨rfl, hstep.environment, hstep.files⟩
    · split
      · exact ⟨rfl, hstep.environment, hstep.files⟩
      · have hnext : World.SameFiles { w with files := (i.execute w env input output).files }
            { w' with files := (i.execute w' env' input output).files } :=
          ⟨hstep.files, hw.base, hw.directories⟩
        rw [hstep.output]
        exact ih hrest hnext hstep.environment _ _ _

/-! ## Whole lines -/

/-- The line is an assignment, or all its commands are built in. -/
def Line.IsBuiltin : Line → Prop
  | .assignment _ _ => True
  | .pipeline cmds => ∀ cmd ∈ cmds, cmd.name ∈ Invocation.builtinNames

instance : DecidablePred Line.IsBuiltin
  | .assignment _ _ => inferInstanceAs (Decidable True)
  | .pipeline cmds =>
    inferInstanceAs (Decidable (∀ cmd ∈ cmds, cmd.name ∈ Invocation.builtinNames))

/-- The names of the variables that a line sets. -/
def Line.assigned : Line → List Text
  | .assignment name _ => [name]
  | .pipeline _ => []

namespace Session

/-- A line of built-in commands sees only the variables it names.  Two sessions with the same files
and the same directory, which agree on `HOME` and on the names that the line refers to, end in the
same way: with the same status and output or the same failure, in the same directory, and they agree
on those names and on the variable that the line sets. -/
theorem runLine_alike_of_agreeOn {line s : Text} {rs : List Region} {l : Line}
    (hw : w.SameFiles w') (hscan : Region.scan line = .ok rs)
    (h : env.AgreeOn ("HOME".toList :: rs.flatMap Region.names) env')
    (hs : substitute env.vars.get line = .ok s) (hl : Line.parse s = .ok l)
    (hbuiltin : l.IsBuiltin) :
    (runLine w env line).Alike (l.assigned ++ "HOME".toList :: rs.flatMap Region.names)
      (runLine w' env' line) := by
  have hs' : substitute env'.vars.get line = .ok s := by
    rw [← substitute_eq_of_agreeOn hscan h, hs]
    intro r hr name hname
    exact List.mem_cons_of_mem _ (List.mem_flatMap.mpr ⟨r, hr, hname⟩)
  cases l with
  | assignment name value =>
    rw [runLine_of_assignment hs hl, runLine_of_assignment hs' hl]
    exact ⟨rfl, h.set name value.content, hw.files⟩
  | pipeline cmds =>
    cases hbuilt : Invocation.ofCommands cmds with
    | error e =>
      rw [refused_of_ofLine hs hl hbuilt w, refused_of_ofLine hs' hl hbuilt w']
      exact ⟨rfl, h, hw.files⟩
    | ok invocations =>
      have hrun := Pipeline.runFrom_alike
        (Invocation.external_not_mem_of_ofCommands hbuilt hbuiltin) hw h (List.mem_cons_self ..)
        0 Slot.empty Slot.empty
      rw [runLine_eq_resume hs hl hbuilt, runLine_eq_resume hs' hl hbuilt]
      exact ⟨congrArg (Except.mapError _) hrun.result, hrun.environment, hrun.files⟩

/-- A world without files, in which programs are refused. -/
def refusingWorld : World :=
  { World.ofFiles FileSystem.empty with
    launch := fun _ _ => .error (.notStarted .permissionDenied) }

/-- A name inside of single quotes is none that has to agree, and neither has what programs do. -/
theorem runLine_alike_of_agreeOn_single :
    (runLine (World.ofFiles FileSystem.empty)
        ⟨⟨[("x".toList, "1".toList), ("y".toList, "2".toList), ("HOME".toList, "/".toList)]⟩,
          Path.ofString "/a"⟩ "cd | echo $x '$y'".toList).Alike ["HOME".toList, "x".toList]
      (runLine refusingWorld
        ⟨⟨[("y".toList, "3".toList), ("HOME".toList, "/".toList), ("x".toList, "1".toList)]⟩,
          Path.ofString "/a"⟩ "cd | echo $x '$y'".toList) := by
  have hcanonical : Region.AreCanonical
      [.plain "cd | echo ".toList, .reference "x".toList, .plain " ".toList,
        .single "$y".toList] := by decide
  have hagree : Environment.AgreeOn ["HOME".toList, "x".toList]
      ⟨⟨[("x".toList, "1".toList), ("y".toList, "2".toList), ("HOME".toList, "/".toList)]⟩,
        Path.ofString "/a"⟩
      ⟨⟨[("y".toList, "3".toList), ("HOME".toList, "/".toList), ("x".toList, "1".toList)]⟩,
        Path.ofString "/a"⟩ := ⟨rfl, by decide⟩
  have hw : (World.ofFiles FileSystem.empty).SameFiles refusingWorld :=
    ⟨rfl, rfl, fun files dir => .names (List.Perm.refl _)⟩
  have hl : Line.parse "cd | echo 1 '$y'".toList =
      .ok (.pipeline [⟨"cd".toList, []⟩,
        ⟨"echo".toList, [⟨[.bare "1".toList]⟩, ⟨[.single "$y".toList]⟩]⟩]) := by
    decide +kernel
  exact runLine_alike_of_agreeOn hw (Region.scanFrom_complete hcanonical) hagree
    (substitute_flatMap_render hcanonical) hl (by decide)

end Session

end CommandShell
