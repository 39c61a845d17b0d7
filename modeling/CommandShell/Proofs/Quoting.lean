import CommandShell.Proofs.Joining
import CommandShell.Proofs.Reading
import CommandShell.Proofs.Sessions

/-!
# Quoting

Every text can be written as a word of a line that stands for exactly this text.  The text is put
in single quotes, inside of which nothing counts but the apostrophe; and each apostrophe of it is
written as `'"'"'`, which closes the quotes, has the apostrophe in double quotes, and opens them
again (`Text.quoted`).

The word is read as fragments in single quotes, with an apostrophe in double quotes between each
two (`Fragment.quotedFrom`).  None of them holds a reference, so the line comes through the
replacing of references as it is, and it is a layout of what it should be read as.
-/

namespace CommandShell

open Text

/-! ## The quoted text and its fragments -/

/-- A character inside of single quotes; the apostrophe has to be put in double quotes. -/
def Text.escapeQuote (c : Char) : Text :=
  if c = '\'' then "'\"'\"'".toList else [c]

/-- A text written as one word. -/
def Text.quoted (v : Text) : Text :=
  '\'' :: (v.flatMap escapeQuote ++ ['\''])

namespace Fragment

/-- The fragments that a quoted text is read as.  The first of them begins with `run`. -/
def quotedFrom (run : Text) : Text → List Fragment
  | [] => [.single run]
  | c :: v =>
    if c = '\'' then .single run :: .double ['\''] :: quotedFrom [] v
    else quotedFrom (run ++ [c]) v

/-- The fragments are written like the quoted text. -/
lemma flatMap_verbatim_quotedFrom (run v : Text) :
    (quotedFrom run v).flatMap verbatim = '\'' :: (run ++ (v.flatMap escapeQuote ++ ['\''])) := by
  induction v generalizing run with
  | nil => simp [quotedFrom, verbatim]
  | cons c v ih =>
    by_cases hc : c = '\''
    · simp [quotedFrom, escapeQuote, hc, ih, verbatim]
    · simp [quotedFrom, escapeQuote, hc, ih]

/-- The fragments stand for the text. -/
lemma flatMap_content_quotedFrom (run v : Text) :
    (quotedFrom run v).flatMap content = run ++ v := by
  induction v generalizing run with
  | nil => simp [quotedFrom, content]
  | cons c v ih =>
    by_cases hc : c = '\''
    · simp [quotedFrom, hc, ih, content]
    · simp [quotedFrom, hc, ih]

/-- No bare fragment is among the fragments, so each of them may follow every fragment. -/
lemma mayPrecede_quotedFrom (f : Fragment) (run v : Text) :
    ∀ g ∈ (quotedFrom run v).head?, f.MayPrecede g := by
  induction v generalizing run with
  | nil => cases f <;> simp [quotedFrom, MayPrecede]
  | cons c v ih =>
    by_cases hc : c = '\''
    · cases f <;> simp [quotedFrom, hc, MayPrecede]
    · simpa [quotedFrom, hc] using ih (run ++ [c])

/-- A run without apostrophes is continued by any other character. -/
lemma quote_not_mem_concat {run : Text} {c : Char} (hrun : '\'' ∉ run) (hc : c ≠ '\'') :
    '\'' ∉ run ++ [c] := by
  rw [List.mem_append, List.mem_singleton, not_or]
  exact ⟨hrun, hc.symm⟩

/-- The fragments are read back from how they are written. -/
lemma areCanonical_quotedFrom {run : Text} (hrun : '\'' ∉ run) (v : Text) :
    AreCanonical (quotedFrom run v) := by
  induction v generalizing run with
  | nil => exact .cons hrun .nil (by simp)
  | cons c v ih =>
    by_cases hc : c = '\''
    · have hrest : AreCanonical (quotedFrom [] v) := ih List.not_mem_nil
      have hdouble : AreCanonical (.double ['\''] :: quotedFrom [] v) :=
        .cons (show '"' ∉ ['\''] by decide) hrest (mayPrecede_quotedFrom _ [] v)
      simp only [quotedFrom, hc, if_true]
      exact .cons hrun hdouble (by simp [MayPrecede])
    · simp only [quotedFrom, if_neg hc]
      exact ih (quote_not_mem_concat hrun hc)

/-- There are no references in the fragments. -/
lemma substitute_quotedFrom {value : Text → Text} {run : Text} (hrun : '\'' ∉ run) (v : Text) :
    substitute value ((quotedFrom run v).flatMap verbatim) =
      .ok ((quotedFrom run v).flatMap verbatim) := by
  induction v generalizing run with
  | nil => simpa [quotedFrom, verbatim] using substitute_single hrun
  | cons c v ih =>
    by_cases hc : c = '\''
    · have hdouble : substitute value "\"'\"".toList = .ok "\"'\"".toList :=
        substitute_flatMap_render
          (show Region.AreCanonical [.double [.plain ['\'']]] by decide)
      have hrest := substitute_append hdouble (ih List.not_mem_nil)
        (by rw [flatMap_verbatim_quotedFrom]; exact (stops_cons ..).mpr (by decide))
      have hall := substitute_append (substitute_single hrun) hrest
        ((stops_cons ..).mpr (by decide))
      simpa [quotedFrom, hc, verbatim] using hall
    · simp only [quotedFrom, if_neg hc]
      exact ih (quote_not_mem_concat hrun hc)

end Fragment

/-! ## The word of a quoted text -/

/-- The word that a quoted text is read as. -/
def Word.quoted (v : Text) : Word :=
  ⟨Fragment.quotedFrom [] v⟩

namespace Word

/-- The word is written as the quoted text. -/
lemma verbatim_quoted (v : Text) : (quoted v).verbatim = v.quoted :=
  Fragment.flatMap_verbatim_quotedFrom [] v

/-- The word stands for the text. -/
lemma content_quoted (v : Text) : (quoted v).content = v :=
  Fragment.flatMap_content_quotedFrom [] v

/-- The word is read back from how it is written. -/
lemma isCanonical_quoted (v : Text) : (quoted v).IsCanonical := by
  refine ⟨fun hnil => ?_, Fragment.areCanonical_quotedFrom List.not_mem_nil v⟩
  have hverbatim := verbatim_quoted v
  rw [verbatim, hnil] at hverbatim
  cases hverbatim

end Word

/-- A quoted text has no references. -/
lemma substitute_quoted {value : Text → Text} (v : Text) :
    substitute value v.quoted = .ok v.quoted := by
  rw [← Word.verbatim_quoted]
  exact Fragment.substitute_quotedFrom List.not_mem_nil v

/-! ## Lines with quoted texts -/

/-- Texts written as the words of a command. -/
def Text.quotedArguments (vs : List Text) : Text :=
  vs.flatMap fun v => ' ' :: v.quoted

/-- The words of a command are written with a blank before each. -/
lemma argumentsLayout_quoted (vs : List Text) :
    ArgumentsLayout (vs.map Word.quoted) (quotedArguments vs) := by
  induction vs with
  | nil => exact .nil
  | cons v vs ih =>
    have h : ArgumentsLayout (Word.quoted v :: vs.map Word.quoted)
        ([' '] ++ ((Word.quoted v).verbatim ++ quotedArguments vs)) :=
      .cons (List.cons_ne_nil _ _) rfl ih
    rw [Word.verbatim_quoted] at h
    exact h

/-- A name ends before quoted texts. -/
lemma stops_quotedArguments (vs : List Text) : Stops isNameChar (quotedArguments vs) := by
  cases vs with
  | nil => exact stops_nil _
  | cons v vs => exact (stops_cons ..).mpr (by decide)

/-- Quoted texts have no references. -/
lemma substitute_quotedArguments {value : Text → Text} (vs : List Text) :
    substitute value (quotedArguments vs) = .ok (quotedArguments vs) := by
  induction vs with
  | nil => exact substitute_plain (by simp [quotedArguments])
  | cons v vs ih =>
    have hblank : substitute value [' '] = .ok [' '] := substitute_plain (by decide)
    have hrest := substitute_append (substitute_quoted v) ih (stops_quotedArguments vs)
    have hall : substitute value ([' '] ++ (v.quoted ++ quotedArguments vs)) =
        .ok ([' '] ++ (v.quoted ++ quotedArguments vs)) :=
      substitute_append hblank hrest ((stops_cons ..).mpr (by decide))
    exact hall

namespace Line

/-- `echo` with quoted texts is read as one command with their words. -/
lemma parse_echo_quoted (vs : List Text) :
    parse ("echo".toList ++ quotedArguments vs) =
      .ok (.pipeline [⟨"echo".toList, vs.map Word.quoted⟩]) := by
  have hwords : ∀ u ∈ vs.map Word.quoted, u.IsCanonical := by
    intro u hu
    obtain ⟨v, -, rfl⟩ := List.mem_map.mp hu
    exact Word.isCanonical_quoted v
  have hparse := parse_command (b := []) (show IsCommandName "echo".toList by decide) hwords
    (argumentsLayout_quoted vs) rfl
  rwa [List.append_nil] at hparse

/-- A name, `=` and a quoted text are read as an assignment of its word. -/
lemma parse_assignment_quoted {x : Text} (hx : x.IsIdentifier) (v : Text) :
    parse (x ++ '=' :: v.quoted) = .ok (.assignment x (Word.quoted v)) := by
  refine parse_eq_ok_iff.mpr ⟨⟨hx, Word.isCanonical_quoted v⟩, [], [], rfl, rfl, ?_⟩
  rw [Word.verbatim_quoted, List.append_nil, List.nil_append]

end Line

/-- Characters of a name stand for themselves. -/
lemma Text.IsIdentifier.isPlain {x : Text} (hx : x.IsIdentifier) :
    ∀ c ∈ x, Region.isPlain c = true :=
  fun c hc => Region.isPlain_of_isCommandChar (isCommandChar_of_isNameChar (hx.isNameChar c hc))

namespace Session

/-- Every text can be quoted, so that the line gives it back unchanged: `echo` writes quoted texts
with a blank between each two, and an assignment of a quoted text sets its variable to exactly that
text and leaves all else as it was. -/
theorem runLine_quoted (w : World) (env : Environment) :
    (∀ vs : List Text, runLine w env ("echo".toList ++ quotedArguments vs) =
      ⟨.ok (Status.success, some (joinWith [' '] vs)), env, w.files⟩) ∧
    ∀ x v : Text, x.IsIdentifier →
      runLine w env (x ++ '=' :: v.quoted) =
        ⟨.ok (Status.success, none), env.set x v, w.files⟩ ∧
      ∀ other, (env.set x v).vars.get? other =
        if other = x then some v else env.vars.get? other := by
  refine ⟨fun vs => ?_, fun x v hx => ⟨?_, Variables.get?_set env.vars x v⟩⟩
  · have hs : substitute env.vars.get ("echo".toList ++ quotedArguments vs) =
        .ok ("echo".toList ++ quotedArguments vs) :=
      substitute_append (substitute_plain (by decide)) (substitute_quotedArguments vs)
        (stops_quotedArguments vs)
    have hcontent : (vs.map Word.quoted).map Word.content = vs := by
      rw [List.map_map]
      exact List.map_id'' Word.content_quoted vs
    have hbuild : Invocation.ofLine (.pipeline [⟨"echo".toList, vs.map Word.quoted⟩]) =
        .ok [.echo vs] := by
      nth_rewrite 2 [← hcontent]
      rfl
    exact runLine_eq_resume hs (Line.parse_echo_quoted vs) hbuild w
  · have hs : substitute env.vars.get (x ++ '=' :: v.quoted) = .ok (x ++ '=' :: v.quoted) := by
      have heq : substitute env.vars.get ['='] = .ok ['='] := substitute_plain (by decide)
      have hrest := substitute_append heq (substitute_quoted v) ((stops_cons ..).mpr (by decide))
      exact substitute_append (substitute_plain hx.isPlain) hrest
        ((stops_cons ..).mpr (by decide))
    rw [runLine_of_assignment hs (Line.parse_assignment_quoted hx v), Word.content_quoted]

/-- Neither the apostrophe nor the reference counts in a text that is quoted. -/
theorem runLine_quoted_apostrophe :
    runLine (World.ofFiles FileSystem.empty) ⟨⟨[]⟩, Path.root⟩
        ("x".toList ++ '=' :: Text.quoted "it's $x".toList) =
      ⟨.ok (Status.success, none), ⟨⟨[("x".toList, "it's $x".toList)]⟩, Path.root⟩,
        FileSystem.empty⟩ :=
  ((runLine_quoted (World.ofFiles FileSystem.empty) ⟨⟨[]⟩, Path.root⟩).2
    "x".toList "it's $x".toList (by decide)).1

end Session

end CommandShell
