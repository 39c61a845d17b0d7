import CommandShell.Pipeline
import CommandShell.Proofs.Decoding

/-!
# Naming a file and piping it

A command that reads files does the same with a file that is named and with one that comes to it
through `cat`.  `cat` and `wc` read a file as a whole, and a search reads it line by line; but both
readings fail on the same files, and otherwise find the same lines
(`World.toOption_searchLines`).  So the two pipelines succeed together, and with the same output.
-/

namespace CommandShell

/-! ## Results without their causes -/

section

variable {ε α : Type}

/-- A result that is kept when causes are forgotten is a success. -/
lemma toOption_eq_some_iff {r : Except ε α} {a : α} : r.toOption = some a ↔ r = .ok a := by
  cases r <;> simp [Except.toOption]

/-- A result that is not kept when causes are forgotten is a failure. -/
lemma toOption_eq_none_iff {r : Except ε α} : r.toOption = none ↔ ∃ e, r = .error e := by
  cases r <;> simp [Except.toOption]

end

/-! ## Reading a file -/

namespace World

/-- The lines of a file that is searched are those of the text that is read of it; where one cannot
be had, neither can the other. -/
lemma toOption_searchLines (w : World) (env : Environment) (f : Text) :
    (w.searchLines env f).toOption = (w.readFile env f).toOption.map Text.linesWithEnds := by
  simp only [searchLines, readFile, FileSystem.readText, FileSystem.read]
  cases w.files.find? w.base (env.resolve f) with
  | error e => rfl
  | ok node =>
    cases node with
    | directory => rfl
    | link target => rfl
    | void =>
      simp only [Utf8.decode?_nil]
      rfl
    | file bytes executable =>
      simp only [Grep.readLines_eq]
      cases Utf8.decode? bytes <;> rfl

/-- One file is printed as it is read. -/
lemma concatFiles_singleton (w : World) (env : Environment) (f : Text) :
    w.concatFiles env [f] = w.readFile env f := by
  simp only [concatFiles]
  cases w.readFile env f with
  | error cause => rfl
  | ok t => exact congrArg Except.ok (List.append_nil t)

/-- What a search prints of one file that it is given by name. -/
lemma toOption_search_file (w : World) (env : Environment) (input : Slot) (f : Text) (g : Grep) :
    (w.search env input { g with files := [f] }).toOption =
      (Pattern.compile g.ignoreCase g.fullPattern).toOption.bind fun e =>
        (w.readFile env f).toOption.map fun t =>
          some (Grep.printSource e.isMatch g.afterContext [] (Text.linesWithEnds t)) := by
  have hpattern : ({ g with files := [f] } : Grep).fullPattern = g.fullPattern := rfl
  have hlines := w.toOption_searchLines env f
  simp only [search, hpattern, searchFiles]
  cases Pattern.compile g.ignoreCase g.fullPattern with
  | error e => rfl
  | ok e =>
    cases hread : w.readFile env f with
    | error cause =>
      rw [hread] at hlines
      obtain ⟨cause', hcause⟩ := toOption_eq_none_iff.mp hlines
      simp only [hcause]
      rfl
    | ok t =>
      rw [hread] at hlines
      rw [toOption_eq_some_iff.mp hlines]
      simp [Except.map, Except.toOption]

end World

/-! ## Pipelines that begin with one file -/

namespace Pipeline

variable (w : World) (env : Environment) (f : Text) (g : Grep)

/-- After `cat` the other stages go on with the text of the file. -/
lemma toOption_run_cat_cons (rest : List Invocation) :
    (run w env (.cat [f] :: rest)).result.toOption =
      (w.readFile env f).toOption.bind fun t =>
        (runFrom w 1 env (Slot.holding t) Slot.empty rest).result.toOption := by
  simp only [run, runFrom, Invocation.execute, World.concatFiles_singleton]
  cases w.readFile env f <;> rfl

lemma toOption_run_cat :
    (run w env [.cat [f]]).result.toOption =
      (w.readFile env f).toOption.map fun t => (0, some t) := by
  rw [toOption_run_cat_cons]
  cases w.readFile env f <;> rfl

lemma toOption_run_wc :
    (run w env [.wc [f]]).result.toOption =
      (w.readFile env f).toOption.map fun t => (0, some ((Count.ofText t).render ++ ' ' :: f)) := by
  simp only [run, runFrom, Invocation.execute, World.countFiles]
  cases w.readFile env f <;> rfl

lemma toOption_run_cat_wc :
    (run w env [.cat [f], .wc []]).result.toOption =
      (w.readFile env f).toOption.map fun t => (0, some (Count.ofText t).render) := by
  rw [toOption_run_cat_cons]
  cases w.readFile env f <;> rfl

lemma toOption_run_grep :
    (run w env [.grep { g with files := [f] }]).result.toOption =
      (Pattern.compile g.ignoreCase g.fullPattern).toOption.bind fun e =>
        (w.readFile env f).toOption.map fun t =>
          (0, some (Grep.printSource e.isMatch g.afterContext [] (Text.linesWithEnds t))) := by
  have hrun : (run w env [.grep { g with files := [f] }]).result.toOption =
      (w.search env Slot.empty { g with files := [f] }).toOption.map fun o => (0, o) := by
    simp only [run, runFrom, Invocation.execute]
    cases w.search env Slot.empty { g with files := [f] } with
    | error cause => rfl
    | ok o => cases o <;> rfl
  rw [hrun, World.toOption_search_file]
  cases Pattern.compile g.ignoreCase g.fullPattern with
  | error e => rfl
  | ok e => cases w.readFile env f <;> rfl

lemma toOption_run_cat_grep :
    (run w env [.cat [f], .grep { g with files := [] }]).result.toOption =
      (Pattern.compile g.ignoreCase g.fullPattern).toOption.bind fun e =>
        (w.readFile env f).toOption.map fun t =>
          (0, some (Grep.printSource e.isMatch g.afterContext [] (Text.linesWithEnds t))) := by
  have hpattern : ({ g with files := [] } : Grep).fullPattern = g.fullPattern := rfl
  rw [toOption_run_cat_cons]
  simp only [runFrom, Invocation.execute, World.search, hpattern]
  cases Pattern.compile g.ignoreCase g.fullPattern with
  | error e => cases w.readFile env f <;> rfl
  | ok e => cases w.readFile env f <;> rfl

/-- A file may be named, or come through `cat`.  A search of the one succeeds with an output exactly
when a search of the other does; and `wc` counts the same in both, with the name after the counts
of a file that was named.  So all of them, the search with a pattern that is accepted, fail on the
files that `cat` fails on, whether they are missing, directories or no text. -/
theorem run_file_iff_run_cat :
    (∀ o, (run w env [.grep { g with files := [f] }]).result = .ok (0, o) ↔
      (run w env [.cat [f], .grep { g with files := [] }]).result = .ok (0, o)) ∧
    (∀ r, (run w env [.wc [f]]).result = .ok (0, some (r ++ ' ' :: f)) ↔
      (run w env [.cat [f], .wc []]).result = .ok (0, some r)) ∧
    ((∃ e, (run w env [.wc [f]]).result = .error e) ↔
      ∃ e, (run w env [.cat [f]]).result = .error e) ∧
    ∀ p, Pattern.compile g.ignoreCase g.fullPattern = .ok p →
      ((∃ e, (run w env [.grep { g with files := [f] }]).result = .error e) ↔
        ∃ e, (run w env [.cat [f]]).result = .error e) := by
  refine ⟨fun o => ?_, fun r => ?_, ?_, fun p hp => ?_⟩
  · rw [← toOption_eq_some_iff, ← toOption_eq_some_iff, toOption_run_grep, toOption_run_cat_grep]
  · rw [← toOption_eq_some_iff, ← toOption_eq_some_iff, toOption_run_wc, toOption_run_cat_wc]
    simp
  · rw [← toOption_eq_none_iff, ← toOption_eq_none_iff, toOption_run_wc, toOption_run_cat]
    simp
  · rw [← toOption_eq_none_iff, ← toOption_eq_none_iff, toOption_run_grep, toOption_run_cat, hp]
    simp [Except.toOption]

end Pipeline

end CommandShell
