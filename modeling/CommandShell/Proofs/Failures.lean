import CommandShell.Proofs.Effects
import Mathlib.Data.Nat.Notation

/-!
# Where a command fails

A command that fails leaves the environment and its slot as they were, however much it had already
done.  `Invocation.Failure` lists the places where a command can fail: at each of the files or
paths it is given, after the ones before it were read; at the pattern of a search; at the directory
to change to; and at a program that is not found, does not start, cannot be given its input or
waited for, complains, or ends with another code than zero.  The list is exact
(`Invocation.failure_of_execute` and `Invocation.execute_of_failure`): a command fails there and
nowhere else, and with the cause of that place.

Files and paths are always gone through in the same way, up to the first that fails.  What the ones
before it have brought is combined differently by each command, and thrown away by all of them; so
one lemma serves them all (`FirstFailure.iff_of_traversal`).
-/

namespace CommandShell

/-! ## Going through a list -/

section

variable {α β γ : Type} {f : α → Except Cause β} {x : α} {xs : List α} {cause : Cause}

/-- The first element of a list at which a function fails, after others at which it does not. -/
def FirstFailure (f : α → Except Cause β) (xs : List α) (cause : Cause) : Prop :=
  ∃ before x after, xs = before ++ x :: after ∧ (∀ y ∈ before, ∃ b, f y = .ok b) ∧
    f x = .error cause

namespace FirstFailure

lemma not_nil : ¬ FirstFailure f [] cause := by
  rintro ⟨before, x, after, h, -⟩
  exact List.append_ne_nil_of_right_ne_nil before (List.cons_ne_nil x after) h.symm

/-- Nothing after the first failure counts. -/
lemma cons_of_error {e : Cause} (hx : f x = .error e) :
    FirstFailure f (x :: xs) cause ↔ e = cause := by
  constructor
  · rintro ⟨before, y, after, h, hbefore, hy⟩
    cases before with
    | nil =>
      obtain ⟨rfl, -⟩ := List.cons.inj h
      exact Except.error.inj (hx.symm.trans hy)
    | cons z before =>
      obtain ⟨rfl, -⟩ := List.cons.inj h
      obtain ⟨b, hb⟩ := hbefore x (List.mem_cons_self ..)
      rw [hx] at hb
      cases hb
  · rintro rfl
    exact ⟨[], x, xs, rfl, by simp, hx⟩

/-- An element that does not fail leaves the failure to the others. -/
lemma cons_of_ok {b : β} (hx : f x = .ok b) :
    FirstFailure f (x :: xs) cause ↔ FirstFailure f xs cause := by
  constructor
  · rintro ⟨before, y, after, h, hbefore, hy⟩
    cases before with
    | nil =>
      obtain ⟨rfl, -⟩ := List.cons.inj h
      rw [hx] at hy
      cases hy
    | cons z before =>
      obtain ⟨-, rfl⟩ := List.cons.inj h
      exact ⟨before, y, after, rfl, fun a ha => hbefore a (List.mem_cons_of_mem z ha), hy⟩
  · rintro ⟨before, y, after, rfl, hbefore, hy⟩
    exact ⟨x :: before, y, after, rfl, List.forall_mem_cons.mpr ⟨⟨b, hx⟩, hbefore⟩, hy⟩

lemma singleton_iff : FirstFailure f [x] cause ↔ f x = .error cause := by
  cases hx : f x with
  | error e => rw [cons_of_error hx, Except.error.injEq]
  | ok b =>
    rw [cons_of_ok hx]
    exact iff_of_false not_nil (by simp)

/-- A function that goes through a list in order, and combines what it finds in whatever way, fails
at the first element that fails. -/
lemma iff_of_traversal (go : List α → Except Cause γ) (combine : α → β → γ → γ)
    (hnil : ∃ c, go [] = .ok c)
    (hcons : ∀ x xs, go (x :: xs) = (f x).bind fun b => (go xs).map (combine x b))
    (xs : List α) : go xs = .error cause ↔ FirstFailure f xs cause := by
  induction xs with
  | nil =>
    obtain ⟨c, hc⟩ := hnil
    rw [hc]
    exact iff_of_false (by simp) not_nil
  | cons x xs ih =>
    rw [hcons]
    cases hx : f x with
    | error e =>
      rw [cons_of_error hx]
      simp [Except.bind]
    | ok b =>
      rw [cons_of_ok hx, ← ih]
      cases go xs with
      | error e => simp [Except.bind, Except.map]
      | ok c => simp [Except.bind, Except.map]

end FirstFailure

end

/-! ## The files and paths of a command -/

namespace World

variable {w : World} {env : Environment} {cause : Cause}

lemma concatFiles_eq_error_iff (files : List Text) :
    w.concatFiles env files = .error cause ↔ FirstFailure (w.readFile env) files cause := by
  refine FirstFailure.iff_of_traversal (w.concatFiles env) (fun _ t ts => t ++ ts)
    ⟨[], rfl⟩ ?_ files
  intro file rest
  rw [concatFiles]
  cases w.readFile env file with
  | error e => rfl
  | ok t => cases w.concatFiles env rest <;> rfl

lemma countFiles_eq_error_iff (files : List Text) :
    w.countFiles env files = .error cause ↔ FirstFailure (w.readFile env) files cause := by
  refine FirstFailure.iff_of_traversal (w.countFiles env)
    (fun file t rows => ((Count.ofText t).render ++ ' ' :: file) :: rows) ⟨[], rfl⟩ ?_ files
  intro file rest
  rw [countFiles]
  cases w.readFile env file with
  | error e => rfl
  | ok t => cases w.countFiles env rest <;> rfl

lemma listBlocks_eq_error_iff (paths : List Text) :
    w.listBlocks env paths = .error cause ↔ FirstFailure (w.entries env) paths cause := by
  refine FirstFailure.iff_of_traversal (w.listBlocks env)
    (fun path names blocks => (path ++ ":\n".toList ++ Text.joinWith ['\n'] names) :: blocks)
    ⟨[], rfl⟩ ?_ paths
  intro path rest
  rw [listBlocks]
  cases w.entries env path with
  | error e => rfl
  | ok names => cases w.listBlocks env rest <;> rfl

lemma searchFiles_eq_error_iff (isMatch : Text → Bool) (afterContext : ℕ) (labelled : Bool)
    (files : List Text) :
    w.searchFiles env isMatch afterContext labelled files = .error cause ↔
      FirstFailure (w.searchLines env) files cause := by
  refine FirstFailure.iff_of_traversal (w.searchFiles env isMatch afterContext labelled)
    (fun file lines t => Grep.printSource isMatch afterContext
      (if labelled then file ++ [':'] else []) lines ++ t) ⟨[], rfl⟩ ?_ files
  intro file rest
  rw [searchFiles]
  cases w.searchLines env file with
  | error e => rfl
  | ok lines => cases w.searchFiles env isMatch afterContext labelled rest <;> rfl

/-- What is made of a result does not change how it fails. -/
lemma map_eq_error_iff {α β : Type} (f : α → β) (r : Except Cause α) :
    r.map f = .error cause ↔ r = .error cause := by
  cases r <;> simp [Except.map]

/-- The paths that are listed; without any it is the directory of the session. -/
def listedPaths : List Text → List Text
  | [] => [['.']]
  | path :: rest => path :: rest

lemma listing_eq_error_iff (paths : List Text) :
    w.listing env paths = .error cause ↔
      FirstFailure (w.entries env) (listedPaths paths) cause := by
  unfold listing
  split
  · rw [map_eq_error_iff, listedPaths, FirstFailure.singleton_iff]
  · rw [map_eq_error_iff, listedPaths, FirstFailure.singleton_iff]
  · next hne _ =>
    obtain ⟨path, rest, rfl⟩ := List.exists_cons_of_ne_nil hne
    rw [map_eq_error_iff, listBlocks_eq_error_iff, listedPaths]

end World

/-! ## All places -/

namespace Invocation

open World

/-- The places where a command can fail, each with its cause. -/
inductive Failure (w : World) (env : Environment) (input : Slot) : Invocation → Cause → Prop
  /-- One of the files to be printed cannot be read. -/
  | unprinted {files : List Text} {cause : Cause}
      (h : FirstFailure (w.readFile env) files cause) : Failure w env input (.cat files) cause
  /-- One of the files to be counted cannot be read. -/
  | uncounted {files : List Text} {cause : Cause}
      (h : FirstFailure (w.readFile env) files cause) : Failure w env input (.wc files) cause
  /-- One of the paths cannot be listed. -/
  | unlisted {paths : List Text} {cause : Cause}
      (h : FirstFailure (w.entries env) (listedPaths paths) cause) :
      Failure w env input (.ls paths) cause
  /-- The pattern is refused. -/
  | badPattern {g : Grep} {e : Pattern.CompileError}
      (h : Pattern.compile g.ignoreCase g.fullPattern = .error e) :
      Failure w env input (.grep g) (.badPattern g.fullPattern e)
  /-- One of the files to be searched cannot be opened, or not be read to its end. -/
  | unsearched {g : Grep} {e : Pattern.Expr} {cause : Cause}
      (hpattern : Pattern.compile g.ignoreCase g.fullPattern = .ok e)
      (h : FirstFailure (w.searchLines env) g.files cause) : Failure w env input (.grep g) cause
  /-- There is neither a target nor a value of `HOME`. -/
  | noTarget {target : Option Text} (htarget : target = none ∨ target = some [])
      (h : env.vars.get? "HOME".toList = none) : Failure w env input (.cd target) .noTarget
  /-- The target leads nowhere. -/
  | lost {target : Option Text} {t : Text} {e : FileError} (htarget : cdTarget env target = .ok t)
      (h : w.files.canonicalize w.base (env.resolve t) = .error e) :
      Failure w env input (.cd target) (.lost (env.resolve t) e)
  /-- The target leads to something that is no directory. -/
  | notDirectory {target : Option Text} {t : Text} {canonical : Path}
      (htarget : cdTarget env target = .ok t)
      (hpath : w.files.canonicalize w.base (env.resolve t) = .ok canonical)
      (h : w.files.isDirectory w.base canonical = false) :
      Failure w env input (.cd target) (.notDirectory t)
  /-- There is no program of that name. -/
  | notFound {name : Text} {arguments : List Text}
      (h : w.programOf? env name = none) :
      Failure w env input (.external name arguments) .notFound
  /-- The program does not start. -/
  | notStarted {name : Text} {program : Path} {arguments : List Text} {e : FileError}
      (hfind : w.programOf? env name = some program)
      (h : w.launch w.files (launchOf env input program arguments) = .error (.notStarted e)) :
      Failure w env input (.external name arguments) (.notStarted program e)
  /-- The program cannot be given its input. -/
  | notFed {name : Text} {program : Path} {arguments : List Text} {e : FileError}
      {files : FileSystem} (hfind : w.programOf? env name = some program)
      (h : w.launch w.files (launchOf env input program arguments) = .error (.notFed e files)) :
      Failure w env input (.external name arguments) (.notFed e)
  /-- The program cannot be waited for. -/
  | notAwaited {name : Text} {program : Path} {arguments : List Text} {e : FileError}
      {files : FileSystem} (hfind : w.programOf? env name = some program)
      (h : w.launch w.files (launchOf env input program arguments) =
        .error (.notAwaited e files)) :
      Failure w env input (.external name arguments) (.notAwaited e)
  /-- The program complains, whatever it has written and however it ends. -/
  | complained {name : Text} {program : Path} {arguments : List Text} {report : Report}
      (hfind : w.programOf? env name = some program)
      (hlaunch : w.launch w.files (launchOf env input program arguments) = .ok report)
      (h : report.complaints ≠ []) :
      Failure w env input (.external name arguments)
        (.complained (Text.trimEnd (Utf8.decodeLossy report.complaints)))
  /-- The program does not end with the code zero, whatever it has written. -/
  | exited {name : Text} {program : Path} {arguments : List Text} {report : Report}
      (hfind : w.programOf? env name = some program)
      (hlaunch : w.launch w.files (launchOf env input program arguments) = .ok report)
      (hquiet : report.complaints = []) (h : report.ending ≠ .exited 0) :
      Failure w env input (.external name arguments) (.exited (endingCode report.ending))

variable {w : World} {env : Environment} {input output : Slot} {i : Invocation} {cause : Cause}

/-- A command that works out a text fails when that does. -/
lemma result_written_eq_error_iff (files : FileSystem) (r : Except Cause Text) :
    (Outcome.written files env output r).result = .error cause ↔ r = .error cause := by
  cases r <;> simp [Outcome.written, Outcome.failed]

/-- `cd` has nowhere to go exactly when it is given nothing and `HOME` is not set. -/
lemma cdTarget_eq_error_iff (target : Option Text) :
    cdTarget env target = .error cause ↔
      cause = .noTarget ∧ (target = none ∨ target = some []) ∧
        env.vars.get? "HOME".toList = none := by
  unfold cdTarget
  split
  · simp
  · next hempty =>
    have htarget : target = none ∨ target = some [] := by
      match target with
      | none => exact .inl rfl
      | some [] => exact .inr rfl
      | some (c :: t) => exact absurd rfl (hempty c t)
    cases env.vars.get? "HOME".toList with
    | none => simp [htarget, eq_comm]
    | some home => simp

/-- `cd` fails for want of a target, or because of the target. -/
lemma failure_of_changeDirectory {target : Option Text}
    (h : w.changeDirectory env target = .error cause) : Failure w env input (.cd target) cause := by
  simp only [changeDirectory] at h
  split at h
  · next e htarget =>
    cases h
    obtain ⟨rfl, hnone, hhome⟩ := (cdTarget_eq_error_iff target).mp htarget
    exact .noTarget hnone hhome
  · next t htarget =>
    split at h
    · next e hpath =>
      cases h
      exact .lost htarget hpath
    · next canonical hpath =>
      split at h
      · cases h
      · next hdir =>
        cases h
        exact .notDirectory htarget hpath (Bool.eq_false_iff.mpr hdir)

/-- A program fails before it is started, or by what is reported of it. -/
lemma failure_of_runProgram {name : Text} {arguments : List Text}
    (h : (w.runProgram env input name arguments).1 = .error cause) :
    Failure w env input (.external name arguments) cause := by
  simp only [runProgram] at h
  split at h
  · next hfind =>
    cases h
    exact .notFound hfind
  · next program hfind =>
    unfold launchResult at h
    split at h
    · next report hlaunch =>
      simp only [verdict] at h
      split at h
      · next hcomplaints =>
        cases h
        exact .complained hfind hlaunch (by simpa using hcomplaints)
      · next hquiet =>
        split at h
        · next hcode =>
          cases h
          exact .exited hfind hlaunch (by simpa using hquiet) fun hend =>
            hcode ((endingCode_eq_zero_iff _).mpr hend)
        · cases h
    · next e hlaunch =>
      cases h
      exact .notStarted hfind hlaunch
    · next e files hlaunch =>
      cases h
      exact .notFed hfind hlaunch
    · next e files hlaunch =>
      cases h
      exact .notAwaited hfind hlaunch

/-- A search fails at its pattern or at one of its files. -/
lemma failure_of_search {g : Grep} (h : w.search env input g = .error cause) :
    Failure w env input (.grep g) cause := by
  simp only [search] at h
  split at h
  · next e hpattern =>
    cases h
    exact .badPattern hpattern
  · next e hpattern =>
    split at h
    · cases h
    · rw [map_eq_error_iff, searchFiles_eq_error_iff] at h
      exact .unsearched hpattern h

/-- A command fails in none but these places. -/
lemma failure_of_execute (h : (i.execute w env input output).result = .error cause) :
    Failure w env input i cause := by
  cases i with
  | assignment name value => cases h
  | echo arguments => cases h
  | pwd => cases h
  | exit => cases h
  | cat files =>
    cases files with
    | nil =>
      simp only [execute] at h
      split at h <;> cases h
    | cons file files =>
      exact .unprinted ((concatFiles_eq_error_iff _).mp ((result_written_eq_error_iff _ _).mp h))
  | wc files =>
    cases files with
    | nil =>
      simp only [execute] at h
      split at h <;> cases h
    | cons file files =>
      have hcount := (map_eq_error_iff _ _).mp ((result_written_eq_error_iff _ _).mp h)
      exact .uncounted ((countFiles_eq_error_iff _).mp hcount)
  | ls paths =>
    exact .unlisted ((listing_eq_error_iff _).mp ((result_written_eq_error_iff _ _).mp h))
  | cd target =>
    simp only [execute] at h
    split at h
    · next e hcd =>
      cases h
      exact failure_of_changeDirectory hcd
    · cases h
  | grep g =>
    simp only [execute] at h
    split at h
    · next e hsearch =>
      cases h
      exact failure_of_search hsearch
    · cases h
    · cases h
  | external name arguments =>
    exact failure_of_runProgram ((result_written_eq_error_iff _ _).mp h)

/-- In each of these places a command fails, and with that cause. -/
lemma execute_of_failure (h : Failure w env input i cause) :
    (i.execute w env input output).result = .error cause := by
  cases h with
  | @unprinted files _ h =>
    cases files with
    | nil => exact absurd h FirstFailure.not_nil
    | cons file files =>
      exact (result_written_eq_error_iff _ _).mpr ((concatFiles_eq_error_iff _).mpr h)
  | @uncounted files _ h =>
    cases files with
    | nil => exact absurd h FirstFailure.not_nil
    | cons file files =>
      have hcount := (countFiles_eq_error_iff (file :: files)).mpr h
      exact (result_written_eq_error_iff _ _).mpr ((map_eq_error_iff _ _).mpr hcount)
  | unlisted h => exact (result_written_eq_error_iff _ _).mpr ((listing_eq_error_iff _).mpr h)
  | badPattern h =>
    simp only [execute, search, h]
    rfl
  | @unsearched g e _ hpattern h =>
    have hsearch : w.search env input g = .error cause := by
      simp only [search, hpattern]
      split
      · next hnil => exact absurd (hnil ▸ h) FirstFailure.not_nil
      · exact (map_eq_error_iff _ _).mpr ((searchFiles_eq_error_iff _ _ _ _).mpr h)
    simp only [execute, hsearch]
    rfl
  | noTarget htarget h =>
    have hcd := (cdTarget_eq_error_iff _).mpr ⟨rfl, htarget, h⟩
    simp only [execute, changeDirectory, hcd]
    rfl
  | lost htarget h =>
    simp only [execute, changeDirectory, htarget, h]
    rfl
  | notDirectory htarget hpath h =>
    simp only [execute, changeDirectory, htarget, hpath, h]
    rfl
  | notFound h =>
    simp only [execute, runProgram, h]
    rfl
  | notStarted hfind h =>
    simp only [execute, runProgram, hfind, h]
    rfl
  | notFed hfind h =>
    simp only [execute, runProgram, hfind, h]
    rfl
  | notAwaited hfind h =>
    simp only [execute, runProgram, hfind, h]
    rfl
  | complained hfind hlaunch h =>
    simp only [execute, runProgram, hfind, hlaunch, launchResult, verdict]
    rw [if_pos (by simpa using h)]
    rfl
  | exited hfind hlaunch hquiet h =>
    have hcode : endingCode _ ≠ 0 := fun hzero => h ((endingCode_eq_zero_iff _).mp hzero)
    simp only [execute, runProgram, hfind, hlaunch, launchResult, verdict, hquiet]
    rw [if_neg (by simp), if_pos hcode]
    rfl

/-- A command fails exactly in the places of `Failure`, with the cause of the place; and wherever
that is, the variables, the directory and the slot are what they were before, whatever the slot
holds. -/
theorem execute_failed_keeps_session (i : Invocation) (w : World) (env : Environment)
    (input output : Slot) (cause : Cause) :
    ((i.execute w env input output).result = .error cause ↔ Failure w env input i cause) ∧
    ((i.execute w env input output).result = .error cause →
      (i.execute w env input output).environment.vars = env.vars ∧
      (i.execute w env input output).environment.directory = env.directory ∧
      (i.execute w env input output).output = output) := by
  refine ⟨⟨failure_of_execute, execute_of_failure⟩, fun h => ?_⟩
  have heffect := execute_effect i w env input output
  have henv := heffect.environment_of_error h
  exact ⟨congrArg Environment.vars henv, congrArg Environment.directory henv,
    heffect.output_of_error h⟩

-- The second file is no text: the first has been read by then, and nothing of it shows.
example :
    (fun o : Outcome => (o.result, o.output))
      ((cat ["a".toList, "b".toList]).execute
        (.ofFiles ⟨[([Path.ofString "a"], .file [104, 105] false),
          ([Path.ofString "b"], .file [255] false)]⟩)
        ⟨Variables.empty, Path.root⟩ Slot.empty (Slot.holding "x".toList)) =
      (.error (.unreadable "b".toList .notText), Slot.holding "x".toList) := by
  cbv

end Invocation

end CommandShell
