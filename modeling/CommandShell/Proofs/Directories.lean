import CommandShell.Proofs.Encoding
import CommandShell.Proofs.RealPaths
import CommandShell.Proofs.Sessions

/-!
# The directory of a session

`cd` leaves the session in a canonical directory, whatever path it was given: the directory is an
absolute path without links and steps `.` and `..`.  As long as the files stay as they are, nothing
that lines do later takes this away, and a further `cd` to where the session is changes nothing.
For `cd` to what `pwd` prints, that asks for a directory whose path is a text: of other bytes `pwd`
prints a replacement, which leads elsewhere or nowhere (`Session.cd_printed_fails_of_bytes`).

Files change while lines run only through the programs that are started.  `Session.KeepsFiles` says
that no stage of a line has changed them, and `Session.Undisturbed` says it of lines that run one
after the other.  `Session.Moves` and `Session.HasMoved` say that a `cd` has succeeded, be it in a
line that failed later on.
-/

namespace CommandShell

variable {w : World} {env : Environment}

/-! ## Going to a directory -/

namespace World

/-- A path taken from an absolute directory is absolute. -/
lemma isAbsolute_resolve (h : Path.isAbsolute env.directory = true) (p : Text) :
    Path.isAbsolute (env.resolve p) = true := by
  obtain ⟨c, d, hd⟩ : ∃ c d, env.directory = c :: d := by
    cases hd : env.directory with
    | nil =>
      rw [hd] at h
      cases h
    | cons c d => exact ⟨c, d, rfl⟩
  rw [hd] at h
  simp only [Environment.resolve, Path.join, hd, List.cons_ne_nil, if_false]
  split
  · assumption
  · split
    · exact h
    · exact h

/-- A `cd` that succeeds goes to the canonical form of a path, and a directory is there. -/
lemma exists_of_changeDirectory {target : Option Text} {d : Path}
    (h : w.changeDirectory env target = .ok d) :
    ∃ t, w.files.canonicalize w.base (env.resolve t) = .ok d ∧
      w.files.isDirectory w.base d = true := by
  simp only [changeDirectory] at h
  split at h
  · cases h
  next t ht =>
  split at h
  · cases h
  next canonical hcanonical =>
  split at h
  · next hdirectory =>
    cases h
    exact ⟨t, hcanonical, hdirectory⟩
  · cases h

/-- `cd` leads to an absolute path. -/
lemma isAbsolute_of_changeDirectory {target : Option Text} {d : Path}
    (h : w.changeDirectory env target = .ok d) : Path.isAbsolute d = true := by
  obtain ⟨t, hcanonical, -⟩ := exists_of_changeDirectory h
  obtain ⟨-, r, -, rfl⟩ := FileSystem.canonicalize_eq_ok_iff.mp hcanonical
  rfl

/-- Paths are followed from the root, or from a directory that is real as long as it is there. -/
def IsAnchored (w : World) (env : Environment) : Prop :=
  Path.isAbsolute env.directory = true ∨
    (w.files.node? w.base = some .directory → w.files.IsRealDirectory w.base)

/-- `cd` leads to a canonical directory. -/
lemma isCanonicalDirectory_of_changeDirectory {target : Option Text} {d : Path}
    (hanchor : w.IsAnchored env) (h : w.changeDirectory env target = .ok d) :
    w.files.IsCanonicalDirectory w.base d := by
  obtain ⟨t, hcanonical, hdirectory⟩ := exists_of_changeDirectory h
  have hplace := hanchor.imp_left fun habsolute => isAbsolute_resolve habsolute t
  exact FileSystem.isCanonicalDirectory_of_canonicalize hplace hcanonical hdirectory

/-- `cd` to a target whose canonical form is a directory goes there. -/
lemma changeDirectory_of_canonicalize {t : Text} {d : Path} (hne : t ≠ [])
    (hcanonical : w.files.canonicalize w.base (env.resolve t) = .ok d)
    (hdirectory : w.files.isDirectory w.base d = true) :
    w.changeDirectory env (some t) = .ok d := by
  have htarget : cdTarget env (some t) = .ok t := by
    cases t with
    | nil => exact absurd rfl hne
    | cons c t => rfl
  simp only [changeDirectory, htarget, hcanonical, hdirectory, if_true]

/-- A session in a canonical directory stays there when it goes to the directory by its path, if
that is a text. -/
lemma changeDirectory_self (h : w.files.IsCanonicalDirectory w.base env.directory) {t : Text}
    (ht : env.directory = Path.ofText t) : w.changeDirectory env (some t) = .ok env.directory := by
  have habsolute : Path.isAbsolute (Path.ofText t) = true := ht ▸ h.isAbsolute
  have hne : t ≠ [] := by
    rintro rfl
    cases habsolute
  have hresolve : env.resolve t = env.directory := by
    rw [Environment.resolve, if_pos habsolute, ht]
  refine changeDirectory_of_canonicalize hne ?_ h.isDirectory
  rw [hresolve, h.canonical]

/-- A session in a canonical directory stays there when it goes to `.`. -/
lemma changeDirectory_here (h : w.files.IsCanonicalDirectory w.base env.directory)
    (hlength : (env.resolve ['.']).length < FileSystem.pathLimit) :
    w.changeDirectory env (some ['.']) = .ok env.directory :=
  changeDirectory_of_canonicalize (List.cons_ne_nil _ _) (h.canonicalize_join_here hlength)
    h.isDirectory

/-! ## Programs that change no files -/

/-- No program that is started changes the files. -/
def IsReadOnly (w : World) : Prop :=
  ∀ files launch, filesAfter files (w.launch files launch) = files

/-- Running a program that changes no files leaves them as they were. -/
lemma files_runProgram (h : w.IsReadOnly) (env : Environment) (input : Slot) (name : Text)
    (arguments : List Text) : (w.runProgram env input name arguments).2 = w.files := by
  unfold runProgram
  split
  · rfl
  · exact h w.files _

end World

/-- Writing leaves the files as they were. -/
lemma Outcome.files_written (files : FileSystem) (env : Environment) (output : Slot)
    (r : Except Cause Text) : (Outcome.written files env output r).files = files := by
  cases r with
  | error cause => rfl
  | ok t => rfl

/-- Where programs change no files, no command does. -/
lemma Invocation.files_execute (h : w.IsReadOnly) (i : Invocation) (env : Environment)
    (input output : Slot) : (i.execute w env input output).files = w.files := by
  cases i with
  | assignment name value => rfl
  | exit => rfl
  | echo arguments => rfl
  | pwd => rfl
  | ls paths => exact Outcome.files_written ..
  | external name arguments =>
    exact (Outcome.files_written ..).trans (World.files_runProgram h env input name arguments)
  | cat files =>
    cases files with
    | cons file files => exact Outcome.files_written ..
    | nil =>
      rw [execute]
      split
      · rfl
      · exact Outcome.files_written ..
  | wc files =>
    cases files with
    | cons file files => exact Outcome.files_written ..
    | nil =>
      rw [execute]
      split
      · rfl
      · exact Outcome.files_written ..
  | cd target =>
    rw [execute]
    split
    · rfl
    · rfl
  | grep g =>
    rw [execute]
    split
    · rfl
    · rfl
    · exact Outcome.files_written ..

/-- Where programs change no files, no pipeline does. -/
lemma Pipeline.files_runFrom (h : w.IsReadOnly) (invocations : List Invocation) (stage : ℕ)
    (env : Environment) (input output : Slot) :
    (runFrom w stage env input output invocations).files = w.files := by
  induction invocations generalizing w stage env input output with
  | nil => rfl
  | cons i rest ih =>
    have hstep := i.files_execute h env input output
    rw [runFrom]
    split
    · exact hstep
    · split
      · exact hstep
      · refine (ih ?_ ..).trans hstep
        exact h

namespace Session

open Pipeline

/-! ## Lines over files that stay -/

/-- The line leaves the files as they are, and so does each of its stages. -/
structure KeepsFiles (w : World) (env : Environment) (line : Text) : Prop where
  during : ∀ stages left p, prepare env.vars line = .ok (stages ++ left) →
    (Progress.start w env).Succeeds stages p → p.world.files = w.files
  after : (runLine w env line).files = w.files

/-- Some stage of the line is a `cd` that succeeds. -/
def Moves (w : World) (env : Environment) (line : Text) : Prop :=
  ∃ stages left p target, prepare env.vars line = .ok (stages ++ left) ∧
    (Progress.start w env).Succeeds stages p ∧ p.Halted left ∧ .cd target ∈ stages

/-- The world after a line. -/
def worldAfter (w : World) (env : Environment) (line : Text) : World :=
  { w with files := (runLine w env line).files }

/-- Lines that run one after the other, each on what the one before left. -/
def runAll (w : World) (env : Environment) : List Text → World × Environment
  | [] => (w, env)
  | line :: rest => runAll (worldAfter w env line) (runLine w env line).environment rest

/-- None of the lines changes the files. -/
def Undisturbed (w : World) (env : Environment) : List Text → Prop
  | [] => True
  | line :: rest =>
    KeepsFiles w env line ∧
      Undisturbed (worldAfter w env line) (runLine w env line).environment rest

/-- Some stage of the lines is a `cd` that succeeds. -/
def HasMoved (w : World) (env : Environment) : List Text → Prop
  | [] => False
  | line :: rest =>
    Moves w env line ∨ HasMoved (worldAfter w env line) (runLine w env line).environment rest

variable {line : Text} {p q : Progress} {stages : List Invocation}

/-- A line that keeps the files leaves the world as it was. -/
lemma KeepsFiles.worldAfter_eq (h : KeepsFiles w env line) : worldAfter w env line = w := by
  rw [worldAfter, h.after]

/-- Stages that succeed follow paths from the same place. -/
lemma base_of_succeeds (h : p.Succeeds stages q) : q.world.base = p.world.base := by
  induction h with
  | nil p => rfl
  | cons h _ ih => exact ih

/-- Stages that succeed leave an absolute directory absolute. -/
lemma isAbsolute_of_succeeds (h : p.Succeeds stages q)
    (hp : Path.isAbsolute p.environment.directory = true) :
    Path.isAbsolute q.environment.directory = true := by
  cases h.lastDirectory with
  | kept hcd hd => rwa [hd]
  | changed hstages hlast hr hd => exact World.isAbsolute_of_changeDirectory hd

/-- Without a `cd` among them, stages leave the session in its directory. -/
lemma directory_eq_of_succeeds (h : p.Succeeds stages q) (hcd : ∀ target, .cd target ∉ stages) :
    q.environment.directory = p.environment.directory := by
  cases h.lastDirectory with
  | kept _ hd => exact hd
  | @changed before after target r hstages hlast hr hd =>
    exact absurd (hstages ▸ List.mem_append_right before (List.mem_cons_self ..)) (hcd target)

/-- With a `cd` among them, stages that keep the files leave the session in a canonical
directory. -/
lemma isCanonicalDirectory_of_succeeds (hanchor : p.world.IsAnchored p.environment)
    (hfiles : ∀ before after r, stages = before ++ after → p.Succeeds before r →
      r.world.files = p.world.files)
    (h : p.Succeeds stages q) {target : Option Text} (hmem : .cd target ∈ stages) :
    p.world.files.IsCanonicalDirectory p.world.base q.environment.directory := by
  cases h.lastDirectory with
  | kept hcd _ => exact absurd hmem (hcd target)
  | @changed before after target r hstages hlast hr hd =>
    -- The last `cd` ran at `r`, on the same files, and from a directory that an earlier one may
    -- have set.
    have hbase := base_of_succeeds hr
    have hkept := hfiles before _ r hstages hr
    have hanchor' : r.world.IsAnchored r.environment := by
      refine hanchor.imp (isAbsolute_of_succeeds hr) fun hreal => ?_
      rwa [hbase, hkept]
    have hcanonical := World.isCanonicalDirectory_of_changeDirectory hanchor' hd
    rwa [hbase, hkept] at hcanonical

/-- A line that is not refused gets through some of its stages and halts, and has the environment
that they left. -/
lemma environment_runLine {left : List Invocation}
    (h : prepare env.vars line = .ok (stages ++ left))
    (hstages : (Progress.start w env).Succeeds stages p) (hleft : p.Halted left) :
    (runLine w env line).environment = p.environment := by
  have hrun : (runLine w env line).environment =
      ((Progress.start w env).resume (stages ++ left)).environment := by
    simp only [runLine, h]
    rfl
  rw [hrun, hstages.resume_append, hleft.environment_resume]

/-- A line without a `cd` that succeeds leaves the session in its directory. -/
lemma directory_runLine_of_not_moves (h : ¬ Moves w env line) :
    (runLine w env line).environment.directory = env.directory := by
  cases hprepare : prepare env.vars line with
  | error e => simp only [runLine, hprepare]
  | ok invocations =>
    obtain ⟨stages, left, p, rfl, hstages, hleft⟩ :=
      (Progress.start w env).exists_succeeds_halted invocations
    have hcd : ∀ target, .cd target ∉ stages := fun target hmem =>
      h ⟨stages, left, p, target, hprepare, hstages, hleft, hmem⟩
    rw [environment_runLine hprepare hstages hleft]
    exact directory_eq_of_succeeds hstages hcd

/-- A line with a `cd` that succeeds leaves the session in a canonical directory, also if the line
fails later on. -/
lemma isCanonicalDirectory_runLine (hanchor : w.IsAnchored env) (hkeeps : KeepsFiles w env line)
    (h : Moves w env line) :
    w.files.IsCanonicalDirectory w.base (runLine w env line).environment.directory := by
  obtain ⟨stages, left, p, target, hprepare, hstages, hleft, hmem⟩ := h
  rw [environment_runLine hprepare hstages hleft]
  refine isCanonicalDirectory_of_succeeds hanchor ?_ hstages hmem
  rintro before after r rfl hr
  rw [List.append_assoc] at hprepare
  exact hkeeps.during before _ r hprepare hr

/-- A line leaves a place that paths can be followed from. -/
lemma isAnchored_runLine (hanchor : w.IsAnchored env) (hkeeps : KeepsFiles w env line) :
    w.IsAnchored (runLine w env line).environment := by
  by_cases h : Moves w env line
  · exact .inl (isCanonicalDirectory_runLine hanchor hkeeps h).isAbsolute
  · rwa [World.IsAnchored, directory_runLine_of_not_moves h]

/-! ## Runs of lines -/

/-- Undisturbed lines leave the world as it was. -/
lemma runAll_world {lines : List Text} (h : Undisturbed w env lines) :
    (runAll w env lines).1 = w := by
  induction lines generalizing env with
  | nil => rfl
  | cons line rest ih =>
    obtain ⟨hkeeps, hrest⟩ := h
    rw [hkeeps.worldAfter_eq] at hrest
    rw [runAll, hkeeps.worldAfter_eq]
    exact ih hrest

/-- Until a `cd` succeeds, the session is in its first directory; from then on it is in a canonical
one. -/
lemma directory_runAll {lines : List Text} (hanchor : w.IsAnchored env)
    (h : Undisturbed w env lines) :
    (¬ HasMoved w env lines → (runAll w env lines).2.directory = env.directory) ∧
      (HasMoved w env lines →
        w.files.IsCanonicalDirectory w.base (runAll w env lines).2.directory) := by
  induction lines generalizing env with
  | nil => exact ⟨fun _ => rfl, False.elim⟩
  | cons line rest ih =>
    obtain ⟨hkeeps, hrest⟩ := h
    rw [hkeeps.worldAfter_eq] at hrest
    obtain ⟨hstays, hmoved⟩ := ih (isAnchored_runLine hanchor hkeeps) hrest
    rw [HasMoved, runAll, hkeeps.worldAfter_eq]
    refine ⟨fun hnot => ?_, fun hmoves => ?_⟩
    · rw [not_or] at hnot
      rw [hstays hnot.2, directory_runLine_of_not_moves hnot.1]
    · -- The directory that counts is that of the last line with a `cd`.
      by_cases hlater : HasMoved w (runLine w env line).environment rest
      · exact hmoved hlater
      · rw [hstays hlater]
        exact isCanonicalDirectory_runLine hanchor hkeeps (hmoves.resolve_right hlater)

/-- Where programs change no files, stages that succeed do not. -/
lemma files_of_succeeds (h : p.Succeeds stages q) (hp : p.world.IsReadOnly) :
    q.world.files = p.world.files := by
  induction h with
  | nil p => rfl
  | @cons p q i rest h _ ih => exact (ih hp).trans (i.files_execute hp ..)

/-- Where programs change no files, no line does. -/
lemma keepsFiles_of_isReadOnly (h : w.IsReadOnly) (env : Environment) (line : Text) :
    KeepsFiles w env line where
  during stages left p _ hstages := files_of_succeeds hstages h
  after := by
    rw [runLine]
    split
    · rfl
    · exact Pipeline.files_runFrom h ..

/-- Where programs change no files, lines are undisturbed. -/
lemma undisturbed_of_isReadOnly (h : w.IsReadOnly) (env : Environment) (lines : List Text) :
    Undisturbed w env lines := by
  induction lines generalizing env with
  | nil => trivial
  | cons line rest ih =>
    have hkeeps := keepsFiles_of_isReadOnly h env line
    refine ⟨hkeeps, ?_⟩
    rw [hkeeps.worldAfter_eq]
    exact ih _

/-- The session directory stays canonical.  While the files stay as they are, the session is in its
first directory until a `cd` succeeds, and from then on in a canonical directory: an absolute path
of an existing directory that is its own canonical form, without links and steps `.` and `..`.  A
`cd` to `.` then succeeds and changes nothing, and if the path of the directory is a text, so does a
`cd` to what `pwd` prints. -/
theorem directory_canonical_of_undisturbed {lines : List Text} {w' : World} {env' : Environment}
    (hanchor : w.IsAnchored env) (hfiles : Undisturbed w env lines)
    (hrun : runAll w env lines = (w', env')) :
    (¬ HasMoved w env lines → env'.directory = env.directory) ∧
    (HasMoved w env lines →
      w'.files.IsCanonicalDirectory w'.base env'.directory ∧
      ∀ input output,
        (∀ t, env'.directory = Path.ofText t →
          (Invocation.pwd.execute w' env' input output).output.content = some t ∧
          (Invocation.cd (some t)).execute w' env' input output = .silent w'.files env' output) ∧
        ((env'.resolve ['.']).length < FileSystem.pathLimit →
          (Invocation.cd (some ['.'])).execute w' env' input output =
            .silent w'.files env' output)) := by
  have hworld : w' = w := by
    rw [← runAll_world hfiles, hrun]
  obtain ⟨hstays, hmoved⟩ := directory_runAll hanchor hfiles
  rw [hrun] at hstays hmoved
  subst hworld
  refine ⟨hstays, fun hmoves => ⟨hmoved hmoves, fun input output => ⟨fun t ht => ?_, ?_⟩⟩⟩
  · refine ⟨?_, ?_⟩
    · rw [Invocation.execute, ht, Path.shown_ofText]
      rfl
    · simp only [Invocation.execute, World.changeDirectory_self (hmoved hmoves) ht]
  · intro hlength
    simp only [Invocation.execute, World.changeDirectory_here (hmoved hmoves) hlength]

/-- Directories `real` and `\xff`, where the latter name is one byte that is no text, with a link to
each of them, and no programs. -/
def linkedWorld : World :=
  .ofFiles ⟨[([.ofString "real"], .directory), ([.ofString "link"], .link (.ofString "real")),
    ([[0xFF]], .directory), ([.ofString "bytes"], .link [0xFF])]⟩

/-- A session without variables in the given directory. -/
def sessionIn (directory : Path) : Environment :=
  ⟨⟨[]⟩, directory⟩

/-- Without programs no line disturbs another. -/
lemma undisturbed_linkedWorld (env : Environment) (lines : List Text) :
    Undisturbed linkedWorld env lines :=
  undisturbed_of_isReadOnly (fun _ _ => rfl) env lines

/-- After a line that goes to a link and then fails, the session is where the link leads, and a `cd`
to what `pwd` prints or to `.` leaves it there. -/
theorem directory_canonical_of_undisturbed_link :
    runAll linkedWorld (sessionIn Path.root) ["cd link | cd".toList] =
        (linkedWorld, sessionIn (.ofString "/real")) ∧
      linkedWorld.files.IsCanonicalDirectory [] (.ofString "/real") ∧
      ∀ input output,
        ((Invocation.pwd.execute linkedWorld (sessionIn (.ofString "/real")) input
            output).output.content = some "/real".toList ∧
          (Invocation.cd (some "/real".toList)).execute linkedWorld (sessionIn (.ofString "/real"))
              input output =
            .silent linkedWorld.files (sessionIn (.ofString "/real")) output) ∧
        (Invocation.cd (some ['.'])).execute linkedWorld (sessionIn (.ofString "/real")) input
            output =
          .silent linkedWorld.files (sessionIn (.ofString "/real")) output := by
  have hprepare : prepare ⟨[]⟩ "cd link | cd".toList =
      .ok ([.cd (some "link".toList)] ++ [.cd none]) := by
    decide +kernel
  have hstages : (Progress.start linkedWorld (sessionIn Path.root)).Succeeds
      [.cd (some "link".toList)] _ := .cons rfl (.nil _)
  have hmoved : HasMoved linkedWorld (sessionIn Path.root) ["cd link | cd".toList] :=
    .inl ⟨_, _, _, _, hprepare, hstages, @Progress.Halted.failed _ _ .noTarget rfl [],
      List.mem_cons_self ..⟩
  have hundisturbed := undisturbed_linkedWorld (sessionIn Path.root) ["cd link | cd".toList]
  have hdirectory : (runAll linkedWorld (sessionIn Path.root) ["cd link | cd".toList]).2 =
      sessionIn (.ofString "/real") := by
    decide +kernel
  have hrun : runAll linkedWorld (sessionIn Path.root) ["cd link | cd".toList] =
      (linkedWorld, sessionIn (.ofString "/real")) :=
    Prod.ext (runAll_world hundisturbed) hdirectory
  obtain ⟨hcanonical, hthere⟩ :=
    (directory_canonical_of_undisturbed (.inl rfl) hundisturbed hrun).2 hmoved
  refine ⟨hrun, hcanonical, fun input output => ⟨?_, ?_⟩⟩
  · exact (hthere input output).1 "/real".toList rfl
  · exact (hthere input output).2 (by decide)

/-- In a directory whose path is no text, `pwd` prints a path that leads nowhere. -/
theorem cd_printed_fails_of_bytes :
    (Undisturbed linkedWorld (sessionIn Path.root) ["cd bytes".toList] ∧
      HasMoved linkedWorld (sessionIn Path.root) ["cd bytes".toList]) ∧
    runAll linkedWorld (sessionIn Path.root) ["cd bytes".toList] =
      (linkedWorld, sessionIn [Path.slash, 0xFF]) ∧
    ∀ input output,
      (Invocation.pwd.execute linkedWorld (sessionIn [Path.slash, 0xFF]) input
        output).output.content = some ['/', Utf8.replacement] ∧
      ((Invocation.cd (some ['/', Utf8.replacement])).execute linkedWorld
        (sessionIn [Path.slash, 0xFF]) input output).result =
          .error (.lost (.ofText ['/', Utf8.replacement]) .noEntry) := by
  have hprepare : prepare ⟨[]⟩ "cd bytes".toList = .ok ([.cd (some "bytes".toList)] ++ []) := by
    decide +kernel
  have hstages : (Progress.start linkedWorld (sessionIn Path.root)).Succeeds
      [.cd (some "bytes".toList)] _ := .cons rfl (.nil _)
  have hmoved : HasMoved linkedWorld (sessionIn Path.root) ["cd bytes".toList] :=
    .inl ⟨_, _, _, _, hprepare, hstages, .finished, List.mem_cons_self ..⟩
  have hundisturbed := undisturbed_linkedWorld (sessionIn Path.root) ["cd bytes".toList]
  have hdirectory : (runAll linkedWorld (sessionIn Path.root) ["cd bytes".toList]).2 =
      sessionIn [Path.slash, 0xFF] := by
    decide +kernel
  have hshown : Path.shown [Path.slash, 0xFF] = ['/', Utf8.replacement] := by
    decide +kernel
  refine ⟨⟨hundisturbed, hmoved⟩, ?_, fun input output => ⟨congrArg some hshown, rfl⟩⟩
  exact Prod.ext (runAll_world hundisturbed) hdirectory

end Session

end CommandShell
