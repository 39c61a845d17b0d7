import CommandShell.Invocation
import CommandShell.Proofs.Numbers
import Mathlib.Data.List.Perm.Basic

/-!
# The options of a search

A search is written as arguments: the options that it needs, in any order and each of them short or
long, then `--`, the pattern and the files.  Reading the arguments gives the search back, whatever
the pattern and the files are, because nothing after `--` is taken for an option.  Where neither the
pattern nor the first file looks like an option, `--` may be left out: the first file ends the
options, so the files after it may be anything.

The reader goes from left to right and changes what it has read so far with each option
(`Grep.Settings.apply`), so what an order of the options comes to is a fold.  Two switches can be
exchanged, and so can a switch and the number of lines; only the number may not be given twice.
Hence every order comes to the same (`Grep.foldl_apply_perm`).
-/

namespace CommandShell

/-! ## One argument -/

namespace Flags

variable {σ : Type} {g : Grammar σ} {s s' : σ} {a v : Text} {rest : List Text}

/-- An argument with a leading `-` that is neither `--` nor a request for help. -/
def IsOption (a : Text) : Prop :=
  a.head? = some '-' ∧ a ≠ ['-', '-'] ∧ isHelp a = false

instance : DecidablePred IsOption := fun a =>
  inferInstanceAs (Decidable (a.head? = some '-' ∧ a ≠ ['-', '-'] ∧ isHelp a = false))

/-- An argument without a leading `-` that is no request for help. -/
def IsPlain (a : Text) : Prop :=
  a.head? ≠ some '-' ∧ a ≠ "help".toList

instance : DecidablePred IsPlain := fun a =>
  inferInstanceAs (Decidable (a.head? ≠ some '-' ∧ a ≠ "help".toList))

lemma IsPlain.isHelp (ha : IsPlain a) : isHelp a = false := by
  have hlong : a ≠ "--help".toList := by
    rintro rfl
    exact ha.1 rfl
  rw [Flags.isHelp, decide_eq_false hlong, decide_eq_false ha.2]
  rfl

/-- A switch is read by itself. -/
lemma readFrom_switch {set : σ → σ} (ha : IsOption a)
    (hswitch : g.options.lookup a = some (.switch set)) :
    readFrom g false false s (a :: rest) = readFrom g false false (set s) rest := by
  obtain ⟨hdash, hend, hhelp⟩ := ha
  rw [readFrom.eq_def]
  simp [hdash, hend, hhelp, hswitch]

/-- An option with a value is read with the next argument, whatever that looks like. -/
lemma readFrom_value {set : σ → Text → Except Text σ} (ha : IsOption a)
    (hvalue : g.options.lookup a = some (.value set)) (hset : set s v = .ok s') :
    readFrom g false false s (a :: v :: rest) = readFrom g false false s' rest := by
  obtain ⟨hdash, hend, hhelp⟩ := ha
  rw [readFrom.eq_def]
  simp [hdash, hend, hhelp, hvalue, hset]

/-- The first `--` ends the options. -/
lemma readFrom_end :
    readFrom g false false s ("--".toList :: rest) = readFrom g false true s rest := by
  rw [readFrom.eq_def]
  simp [isHelp]

/-- A plain argument is positional. -/
lemma readFrom_plain {ends : Bool} (ha : IsPlain a)
    (hpositional : g.positional s a = some (s', ends)) :
    readFrom g false false s (a :: rest) = readFrom g false ends s' rest := by
  rw [readFrom]
  simp [ha.1, ha.isHelp, hpositional]

/-- After the options every argument is positional. -/
lemma readFrom_ended {ends : Bool} (hpositional : g.positional s a = some (s', ends)) :
    readFrom g false true s (a :: rest) = readFrom g false true s' rest := by
  rw [readFrom]
  simp [hpositional]

end Flags

/-! ## The options of a search -/

namespace Grep

open Flags

/-- What an option of a search says. -/
inductive Setting where
  | wholeWord
  | ignoreCase
  | afterContext (lines : ℕ)
deriving Repr, DecidableEq

/-- The names of an option, short and long. -/
def Setting.names : Setting → List Text
  | .wholeWord => ["-w".toList, "--word-regexp".toList]
  | .ignoreCase => ["-i".toList, "--ignore-case".toList]
  | .afterContext _ => ["-A".toList, "--after-context".toList]

/-- The arguments after the name of an option. -/
def Setting.value : Setting → List Text
  | .afterContext n => [Text.ofNat n]
  | _ => []

/-- The arguments are the options in their order, each under one of its names. -/
inductive Written : List Setting → List Text → Prop
  | nil : Written [] []
  | cons {x : Setting} {xs : List Setting} {name : Text} {arguments : List Text}
      (hname : name ∈ x.names) (h : Written xs arguments) :
      Written (x :: xs) (name :: (x.value ++ arguments))

/-- The options that a search needs. -/
def options (g : Grep) : List Setting :=
  (if g.ignoreCase then [.ignoreCase] else []) ++ (if g.wholeWord then [.wholeWord] else []) ++
    [.afterContext g.afterContext]

/-- The arguments are the options that the search needs, in some order. -/
def IsWrittenAs (g : Grep) (arguments : List Text) : Prop :=
  ∃ xs : List Setting, xs.Perm g.options ∧ Written xs arguments

/-- What has been read after one more option. -/
def Settings.apply (s : Settings) : Setting → Settings
  | .wholeWord => { s with wholeWord := true }
  | .ignoreCase => { s with ignoreCase := true }
  | .afterContext n => { s with afterContext := some n }

/-- The option can be read: a number of lines has to be a machine word, and the first one. -/
def Settings.Takes (s : Settings) : Setting → Prop
  | .afterContext n => n < Text.wordLimit ∧ s.afterContext = none
  | _ => True

/-- The options are not both a number of lines. -/
def Setting.Apart : Setting → Setting → Prop
  | .afterContext _, .afterContext _ => False
  | _, _ => True

variable {s : Settings} {x y : Setting} {xs ys : List Setting}

lemma Setting.Apart.symm (h : x.Apart y) : y.Apart x := by
  cases x <;> cases y
  case afterContext.afterContext => exact h
  all_goals trivial

/-- After one option, another one can still be read. -/
lemma Settings.Takes.apply (hy : s.Takes y) (hapart : x.Apart y) : (s.apply x).Takes y := by
  cases x <;> cases y
  case afterContext.afterContext => exact hapart.elim
  all_goals exact hy

/-- Two options come to the same in both orders. -/
lemma Settings.apply_comm (h : x.Apart y) (s : Settings) :
    (s.apply x).apply y = (s.apply y).apply x := by
  cases x <;> cases y
  case afterContext.afterContext => exact h.elim
  all_goals rfl

/-- The order of options does not matter, as long as there is one number of lines at most. -/
lemma foldl_apply_perm (h : xs.Perm ys) (hxs : xs.Pairwise Setting.Apart) (s : Settings) :
    xs.foldl Settings.apply s = ys.foldl Settings.apply s := by
  have hpairs : xs.Pairwise fun x y => ∀ s : Settings, (s.apply x).apply y = (s.apply y).apply x :=
    hxs.imp fun hapart s => Settings.apply_comm hapart s
  have hsymm : Std.Symm fun x y => ∀ s : Settings, (s.apply x).apply y = (s.apply y).apply x :=
    ⟨fun x y hxy s => (hxy s).symm⟩
  have hcomm : ∀ x ∈ xs, ∀ y ∈ xs, ∀ s : Settings, (s.apply x).apply y = (s.apply y).apply x := by
    intro x hx y hy
    exact hpairs.forall_of_forall (fun x hx s => rfl) hx hy
  exact h.foldl_eq' hcomm s

/-- The names of an option begin with `-`, and none of them asks for help or ends the options. -/
lemma isOption_of_mem_names {a : Text} (ha : a ∈ x.names) : IsOption a := by
  cases x with
  | wholeWord => rcases List.mem_pair.mp ha with rfl | rfl <;> decide
  | ignoreCase => rcases List.mem_pair.mp ha with rfl | rfl <;> decide
  | afterContext n => rcases List.mem_pair.mp ha with rfl | rfl <;> decide

/-- One option is read, under each of its names. -/
lemma readFrom_option {a : Text} (ha : a ∈ x.names) (hx : s.Takes x) (rest : List Text) :
    readFrom grammar false false s (a :: (x.value ++ rest)) =
      readFrom grammar false false (s.apply x) rest := by
  have hoption := isOption_of_mem_names ha
  cases x with
  | wholeWord =>
    have hswitch : grammar.options.lookup a = some (.switch (Settings.apply · .wholeWord)) := by
      rcases List.mem_pair.mp ha with rfl | rfl <;> rfl
    exact readFrom_switch hoption hswitch
  | ignoreCase =>
    have hswitch : grammar.options.lookup a = some (.switch (Settings.apply · .ignoreCase)) := by
      rcases List.mem_pair.mp ha with rfl | rfl <;> rfl
    exact readFrom_switch hoption hswitch
  | afterContext n =>
    have hvalue : grammar.options.lookup a = some (.value Settings.setAfterContext) := by
      rcases List.mem_pair.mp ha with rfl | rfl <;> rfl
    have hset : s.setAfterContext (Text.ofNat n) = .ok (s.apply (.afterContext n)) := by
      rw [Settings.setAfterContext, hx.2, Text.readWord_ofNat hx.1]
      rfl
    exact readFrom_value hoption hvalue hset

/-- The options are read one after the other. -/
lemma readFrom_written {arguments : List Text} (h : Written xs arguments)
    (hapart : xs.Pairwise Setting.Apart) (htakes : ∀ x ∈ xs, s.Takes x) (rest : List Text) :
    readFrom grammar false false s (arguments ++ rest) =
      readFrom grammar false false (xs.foldl Settings.apply s) rest := by
  induction h generalizing s with
  | nil => rfl
  | cons hname h ih =>
    obtain ⟨hx, hxs⟩ := List.forall_mem_cons.mp htakes
    obtain ⟨happly, hapart⟩ := List.pairwise_cons.mp hapart
    rw [List.cons_append, List.append_assoc, readFrom_option hname hx, List.foldl_cons]
    refine ih hapart ?_
    intro y hy
    exact (hxs y hy).apply (happly y hy)

/-! ## Whole searches -/

/-- What has been read after the options of a search. -/
def settings (g : Grep) : Settings :=
  ⟨none, [], g.wholeWord, g.ignoreCase, some g.afterContext⟩

variable {g : Grep} {arguments : List Text}

lemma foldl_apply_options (g : Grep) :
    g.options.foldl Settings.apply Settings.initial = g.settings := by
  obtain ⟨pattern, files, wholeWord, ignoreCase, afterContext⟩ := g
  cases wholeWord <;> cases ignoreCase <;> rfl

lemma pairwise_options (g : Grep) : g.options.Pairwise Setting.Apart := by
  obtain ⟨pattern, files, wholeWord, ignoreCase, afterContext⟩ := g
  cases wholeWord <;> cases ignoreCase <;> simp [options, Setting.Apart]

lemma takes_options (hlines : g.afterContext < Text.wordLimit) :
    ∀ x ∈ g.options, Settings.initial.Takes x := by
  obtain ⟨pattern, files, wholeWord, ignoreCase, afterContext⟩ := g
  cases wholeWord <;> cases ignoreCase <;> simpa [options, Settings.Takes] using ⟨hlines, rfl⟩

/-- The options of a search are read in every order and spelling. -/
lemma readFrom_options (hwritten : g.IsWrittenAs arguments)
    (hlines : g.afterContext < Text.wordLimit) (rest : List Text) :
    readFrom grammar false false Settings.initial (arguments ++ rest) =
      readFrom grammar false false g.settings rest := by
  obtain ⟨xs, hperm, hxs⟩ := hwritten
  have hapart : xs.Pairwise Setting.Apart :=
    (hperm.pairwise_iff Setting.Apart.symm).mpr g.pairwise_options
  have htakes : ∀ x ∈ xs, Settings.initial.Takes x := by
    intro x hx
    exact takes_options hlines x (hperm.mem_iff.mp hx)
  rw [readFrom_written hxs hapart htakes, foldl_apply_perm hperm hapart, foldl_apply_options]

/-- After the options and the pattern, all arguments are files. -/
lemma readFrom_files {p : Text} (hp : s.pattern = some p) (files : List Text) :
    readFrom grammar false true s files =
      .ok (false, { s with files := files.reverse ++ s.files }) := by
  induction files generalizing s with
  | nil => rfl
  | cons file files ih =>
    have hfile : grammar.positional s file = some ({ s with files := file :: s.files }, true) := by
      simp only [grammar, Settings.positional, hp]
    rw [readFrom_ended hfile, ih (s := { s with files := file :: s.files }) hp]
    simp

/-- The reader takes the first positional argument for the pattern. -/
lemma positional_settings (g : Grep) (p : Text) :
    grammar.positional g.settings p = some ({ g.settings with pattern := some p }, false) :=
  rfl

/-- What has been read of a search is put together at the end. -/
lemma ofArguments_of_readFrom (p : Text) (files : List Text)
    (h : readFrom grammar false false Settings.initial arguments =
      .ok (false, { g.settings with pattern := some p, files := files.reverse })) :
    ofArguments arguments = .ok { g with pattern := p, files := files } := by
  rw [ofArguments, Flags.read, h]
  simp [ofSettings, Grep.settings]

/-- Each search can be written as arguments, and reading these gives it back: its options in any
order and spelling, `--`, the pattern and the files.  Without the `--` a pattern and a first file
are needed that do not look like an option or a request for help; then all that follows is files as
well, whatever it looks like. -/
theorem ofArguments_written (hwritten : g.IsWrittenAs arguments)
    (hlines : g.afterContext < Text.wordLimit) :
    ofArguments (arguments ++ "--".toList :: g.pattern :: g.files) = .ok g ∧
    ∀ p f : Text, ∀ rest : List Text, IsPlain p → IsPlain f →
      ofArguments (arguments ++ p :: f :: rest) =
        .ok { g with pattern := p, files := f :: rest } := by
  constructor
  · apply ofArguments_of_readFrom g.pattern g.files
    rw [readFrom_options hwritten hlines, readFrom_end, readFrom_ended (g.positional_settings _),
      readFrom_files rfl]
    simp [Grep.settings]
  · intro p f rest hp hf
    apply ofArguments_of_readFrom p (f :: rest)
    have hfile : grammar.positional { g.settings with pattern := some p } f =
        some ({ g.settings with pattern := some p, files := [f] }, true) := rfl
    rw [readFrom_options hwritten hlines, readFrom_plain hp (g.positional_settings p),
      readFrom_plain hf hfile, readFrom_files rfl]
    simp

/-- The pattern and the files are taken as they are, although all of them look like options or ask
for help. -/
theorem ofArguments_written_help :
    ofArguments (["--after-context", "12", "-w", "--ignore-case", "--", "--help", "", "-i",
        "--"].map String.toList) =
      .ok ⟨"--help".toList, ["", "-i", "--"].map String.toList, true, true, 12⟩ ∧
    ofArguments (["--after-context", "12", "-w", "--ignore-case", "+", "a", "-i", "help"].map
        String.toList) =
      .ok ⟨"+".toList, ["a", "-i", "help"].map String.toList, true, true, 12⟩ :=
  have hwritten : IsWrittenAs
      ⟨"--help".toList, ["", "-i", "--"].map String.toList, true, true, 12⟩
      (["--after-context", "12", "-w", "--ignore-case"].map String.toList) :=
    ⟨[.afterContext 12, .wholeWord, .ignoreCase], by decide,
      .cons (by decide) (.cons (by decide) (.cons (by decide) .nil))⟩
  have h := ofArguments_written hwritten (by decide)
  ⟨h.1, h.2 "+".toList "a".toList _ (by decide) (by decide)⟩

end Grep

end CommandShell
