import CommandShell.Proofs.Enclosed.Patterns
import CommandShell.Proofs.Labels
import CommandShell.Proofs.Spots

/-!
# Searching for whole words

A search for whole words puts its pattern between `\b(` and `)\b` as a text, before the pattern is
read.  If the pattern can be read by itself, the search selects some of the lines that the pattern
selects without word boundaries: it is read as a group between two boundaries, places apart
(`Pattern.parse_enclosed`), and a match of that has a match of the group in it
(`Pattern.isMatch_of_enclosed`).

The pattern alone may still be refused for its size.  How many states a set of characters shares
depends on the number of the state it begins with, so of two layouts of the same set, the one that
begins later may take less room.

A pattern that cannot be read by itself may be one together with what it is put in, as `)(` is.
-/

namespace CommandShell

namespace Pattern

/-- What an enclosed tree means. -/
lemma toExpr_enclosed (m : Mode) (tree : Tree) :
    tree.enclosed.toExpr m = (tree.toExpr m).map fun x =>
      (.concat (.look (m.look .wordBoundary)) (.concat (.capture 0 x.1)
        (.concat (.look (m.look .wordBoundary)) .empty)), m) := by
  have hbind {α β : Type} (a : α) (f : α → Except Fault β) : (Except.ok a >>= f) = f a := rfl
  have hbody : tree.toExpr (m.setAll []) = tree.toExpr m := rfl
  simp only [Tree.enclosed, Tree.toExpr, Tree.partsToExpr, hbind, hbody]
  cases tree.toExpr m <;> rfl

/-- A tree without its places has a meaning if the tree has one, and it is the same one without
places. -/
lemma Tree.toExpr_erase_eq_ok_iff {m m' : Mode} {tree : Tree} {e : Expr} :
    tree.erase.toExpr m = .ok (e, m') ↔ ∃ e₁, tree.toExpr m = .ok (e₁, m') ∧ e₁.erase = e := by
  have herase := Tree.toExpr_erase m tree
  cases hexpr : tree.toExpr m with
  | error f =>
    cases hexpr' : tree.erase.toExpr m with
    | error f' => simp
    | ok x =>
      rw [hexpr, hexpr'] at herase
      cases herase
  | ok x =>
    cases hexpr' : tree.erase.toExpr m with
    | error f' =>
      rw [hexpr, hexpr'] at herase
      cases herase
    | ok y =>
      rw [hexpr, hexpr'] at herase
      obtain rfl : y = Prod.map Expr.erase id x := Option.some.inj herase
      obtain ⟨e₁, m₁⟩ := x
      constructor
      · intro h
        obtain ⟨he, rfl⟩ := Prod.mk.inj (Except.ok.inj h)
        exact ⟨e₁, rfl, he⟩
      · rintro ⟨e₂, h, rfl⟩
        obtain ⟨rfl, rfl⟩ := Prod.mk.inj (Except.ok.inj h)
        rfl

/-- What a pattern has to be for its text to be taken. -/
lemma compile_eq_ok_iff {ignoreCase : Bool} {p : Text} {e : Expr} :
    compile ignoreCase p = .ok e ↔ ∃ tree m, parse p = .ok tree ∧
      tree.toExpr (Mode.initial ignoreCase) = .ok (e, m) ∧ e.toPlan.isTooLarge = false := by
  constructor
  · intro h
    unfold compile at h
    split at h
    · cases h
    · next tree hparse =>
      split at h
      · cases h
      · next e₁ m hexpr =>
        split at h
        · cases h
        · next hsize =>
          obtain rfl : e₁ = e := Except.ok.inj h
          exact ⟨tree, m, hparse, hexpr, Bool.eq_false_iff.mpr hsize⟩
  · rintro ⟨tree, m, hparse, hexpr, hsize⟩
    simp only [compile, hparse, hexpr, hsize, Bool.false_eq_true, if_false]

/-- A pattern that can be read by itself has a meaning if it has one between word boundaries, and
matches every line that it matches there. -/
lemma isMatch_of_enclosed {ignoreCase : Bool} {p : Text} {tree : Tree} {words : Expr}
    (hwell : parse p = .ok tree)
    (hwords : compile ignoreCase ("\\b(".toList ++ p ++ closing) = .ok words) :
    ∃ e m, tree.toExpr (Mode.initial ignoreCase) = .ok (e, m) ∧
      ∀ line, words.isMatch line = true → e.isMatch line = true := by
  obtain ⟨tree', m', hparse', hexpr', -⟩ := compile_eq_ok_iff.mp hwords
  -- Without places the tree between the boundaries is known, and so is its meaning.
  have henclosed :
      tree.erase.enclosed.toExpr (Mode.initial ignoreCase) = .ok (words.erase, m') := by
    rw [← parse_enclosed hwell hparse']
    exact Tree.toExpr_erase_eq_ok_iff.mpr ⟨words, hexpr', rfl⟩
  rw [toExpr_enclosed] at henclosed
  cases hbody : tree.erase.toExpr (Mode.initial ignoreCase) with
  | error f =>
    rw [hbody] at henclosed
    cases henclosed
  | ok x =>
    rw [hbody] at henclosed
    obtain ⟨e, hexpr, he⟩ := Tree.toExpr_erase_eq_ok_iff.mp hbody
    refine ⟨e, x.2, hexpr, fun line hline => ?_⟩
    rw [← Expr.isMatch_erase] at hline ⊢
    rw [he]
    rw [← (Prod.mk.inj (Except.ok.inj henclosed)).1] at hline
    exact Expr.isMatch_of_between hline

end Pattern

/-- A search without context of what comes from the stage before. -/
def Grep.piped (p : Text) (wholeWord ignoreCase : Bool) : Grep :=
  ⟨p, [], wholeWord, ignoreCase, 0⟩

namespace World

variable {w : World} {env : Environment} {output : Slot} {p t : Text} {wholeWord ignoreCase : Bool}

/-- Such a search prints the lines that match. -/
lemma execute_piped_of_ok {e : Pattern.Expr}
    (hpattern : Pattern.compile ignoreCase (Grep.piped p wholeWord ignoreCase).fullPattern = .ok e)
    (htotal : (Text.linesWithEnds t).length < Text.wordLimit) :
    (Invocation.grep (.piped p wholeWord ignoreCase)).execute w env (.holding t) output =
      .written w.files env output (.ok (Grep.printedLines e.isMatch [] t).flatten) := by
  rw [← Grep.printSource_zero e.isMatch [] htotal]
  simp only [Invocation.execute, search, Grep.piped] at hpattern ⊢
  rw [hpattern]
  rfl

/-- It fails if the pattern is refused. -/
lemma execute_piped_of_error {e : Pattern.CompileError}
    (hpattern : Pattern.compile ignoreCase (Grep.piped p wholeWord ignoreCase).fullPattern =
      .error e) :
    (Invocation.grep (.piped p wholeWord ignoreCase)).execute w env (.holding t) output =
      .failed w.files env output
        (.badPattern (Grep.piped p wholeWord ignoreCase).fullPattern e) := by
  simp only [Invocation.execute, search, Grep.piped] at hpattern ⊢
  rw [hpattern]

/-- A search for whole words that succeeds, with a pattern that can be read by itself, prints only
lines that the search without word boundaries prints.  This search succeeds too, unless the pattern
alone takes too much room. -/
theorem search_wholeWord_narrows (w : World) (env : Environment) (output : Slot) (ignoreCase : Bool)
    {p t : Text} {tree : Pattern.Tree} {status : Status} (hwell : Pattern.parse p = .ok tree)
    (htotal : (Text.linesWithEnds t).length < Text.wordLimit)
    (hwords : ((Invocation.grep (.piped p true ignoreCase)).execute w env (.holding t)
      output).result = .ok status) :
    ∃ words : Pattern.Expr,
      Pattern.compile ignoreCase ("\\b(".toList ++ p ++ ")\\b".toList) = .ok words ∧
      (Invocation.grep (.piped p true ignoreCase)).execute w env (.holding t) output =
        .written w.files env output (.ok (Grep.printedLines words.isMatch [] t).flatten) ∧
      ((Invocation.grep (.piped p false ignoreCase)).execute w env (.holding t) output =
          .failed w.files env output (.badPattern p .tooLarge) ∨
        ∃ e : Pattern.Expr, Pattern.compile ignoreCase p = .ok e ∧
          (Invocation.grep (.piped p false ignoreCase)).execute w env (.holding t) output =
            .written w.files env output (.ok (Grep.printedLines e.isMatch [] t).flatten) ∧
          ∀ line, words.isMatch line = true → e.isMatch line = true) := by
  cases hcompile : Pattern.compile ignoreCase (Grep.piped p true ignoreCase).fullPattern with
  | error e =>
    rw [execute_piped_of_error hcompile] at hwords
    cases hwords
  | ok words =>
    obtain ⟨e, m, hexpr, hnarrow⟩ := Pattern.isMatch_of_enclosed hwell hcompile
    refine ⟨words, hcompile, execute_piped_of_ok hcompile htotal, ?_⟩
    -- The pattern alone has a meaning too, so only its size is left to refuse it for.
    cases hsize : e.toPlan.isTooLarge with
    | true =>
      have hplain : Pattern.compile ignoreCase p = .error .tooLarge := by
        simp only [Pattern.compile, hwell, hexpr, hsize, if_true]
      exact .inl (execute_piped_of_error hplain)
    | false =>
      have hplain : Pattern.compile ignoreCase p = .ok e :=
        Pattern.compile_eq_ok_iff.mpr ⟨tree, m, hwell, hexpr, hsize⟩
      exact .inr ⟨e, hplain, execute_piped_of_ok hplain htotal, hnarrow⟩

/-- No files and no programs. -/
def bareWorld : World :=
  .ofFiles FileSystem.empty

/-- A line that holds the pattern within a word is not printed with word boundaries. -/
theorem search_wholeWord_narrows_within_word :
    ∃ words e : Pattern.Expr,
      Pattern.compile false "\\b(ab)\\b".toList = .ok words ∧
      Pattern.compile false "ab".toList = .ok e ∧
      Grep.printedLines words.isMatch [] "ab c\nabc\n".toList = ["ab c\n".toList] ∧
      Grep.printedLines e.isMatch [] "ab c\nabc\n".toList = ["ab c\n".toList, "abc\n".toList] ∧
      ∀ line, words.isMatch line = true → e.isMatch line = true := by
  have hwords : Pattern.compile false "\\b(ab)\\b".toList =
      .ok (.concat (.look (.word true .boundary)) (.concat
        (.capture 2 (.concat (.set false ⟨[(97, 97)]⟩) (.concat (.set false ⟨[(98, 98)]⟩) .empty)))
        (.concat (.look (.word true .boundary)) .empty))) :=
    Pattern.compile_eq_ok_iff.mpr ⟨_, _, rfl, rfl, by decide +kernel⟩
  have hplain : Pattern.compile false "ab".toList =
      .ok (.concat (.set false ⟨[(97, 97)]⟩) (.concat (.set false ⟨[(98, 98)]⟩) .empty)) :=
    Pattern.compile_eq_ok_iff.mpr ⟨_, _, rfl, rfl, by decide +kernel⟩
  have hlines : (Text.linesWithEnds "ab c\nabc\n".toList).length < Text.wordLimit := by decide
  have hrun : ((Invocation.grep (.piped "ab".toList true false)).execute bareWorld
      ⟨⟨[]⟩, Path.root⟩ (.holding "ab c\nabc\n".toList) Slot.empty).result =
        .ok Status.success := by
    rw [execute_piped_of_ok hwords hlines]
    rfl
  obtain ⟨words, hcompile, -, hsearch⟩ := search_wholeWord_narrows bareWorld ⟨⟨[]⟩, Path.root⟩
    Slot.empty false rfl hlines hrun
  obtain rfl := Except.ok.inj (hwords.symm.trans hcompile)
  refine ⟨_, _, hwords, hplain, by decide +kernel, by decide +kernel, ?_⟩
  rcases hsearch with hlarge | ⟨e, he, -, hnarrow⟩
  · rw [execute_piped_of_ok hplain hlines] at hlarge
    cases hlarge
  · obtain rfl := Except.ok.inj (hplain.symm.trans he)
    exact hnarrow

/-- Two parentheses the wrong way round are refused alone, and are two groups with word
boundaries. -/
theorem search_wholeWord_accepts_unopened :
    (Invocation.grep (.piped ")(".toList true false)).execute bareWorld ⟨⟨[]⟩, Path.root⟩
        (.holding "a\n".toList) Slot.empty =
      .written bareWorld.files ⟨⟨[]⟩, Path.root⟩ Slot.empty (.ok "a\n".toList) ∧
    (Invocation.grep (.piped ")(".toList false false)).execute bareWorld ⟨⟨[]⟩, Path.root⟩
        (.holding "a\n".toList) Slot.empty =
      .failed bareWorld.files ⟨⟨[]⟩, Path.root⟩ Slot.empty
        (.badPattern ")(".toList (.fault ")(".toList ⟨.groupUnopened, ⟨0, 1⟩, none⟩)) :=
  ⟨rfl, rfl⟩

end World

end CommandShell
