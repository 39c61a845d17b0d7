import CommandShell.Proofs.Joining
import CommandShell.Proofs.Reading
import CommandShell.Proofs.Sessions

/-!
# References outside of quotes

The value of a reference outside of quotes is put into the line as text, and the line is read only
then.  So the value is split into words: each maximal run of characters that are not blank is one
word of the command.  It is not looked through for references again, because a line is cut into
regions only once, before the values are put in.

`Text.SplitsInto` says what the maximal runs of a text are without saying how they are found, and
`Text.words` finds them.  After the blank that precedes the reference, a value that splits into some
words is a layout of them, with blanks at the end.
-/

namespace CommandShell

open Text

/-! ## The words of a text -/

namespace Text

/-- The texts are the maximal runs of characters that are not blank, in order.  Each run is followed
by the end of the text or by a blank. -/
inductive SplitsInto : Text → List Text → Prop
  | blanks {b : Text} (hb : b.isBlankText = true) : SplitsInto b []
  | word {b w t : Text} {ws : List Text} (hb : b.isBlankText = true) (hne : w ≠ [])
      (hw : ∀ c ∈ w, isBlank c = false) (hstop : Stops (!isBlank ·) t) (ht : SplitsInto t ws) :
      SplitsInto (b ++ (w ++ t)) (w :: ws)

variable {t v : Text} {ws : List Text} {c : Char}

/-- A blank in front belongs to no word. -/
lemma SplitsInto.cons_blank (h : SplitsInto t ws) (hc : isBlank c = true) :
    SplitsInto (c :: t) ws := by
  have hcons : ∀ {b : Text}, b.isBlankText = true → isBlankText (c :: b) = true := by
    intro b hb
    exact isBlankText_iff.mpr (List.forall_mem_cons.mpr ⟨hc, isBlankText_iff.mp hb⟩)
  cases h with
  | blanks hb => exact .blanks (hcons hb)
  | word hb hne hw hstop ht => exact .word (hcons hb) hne hw hstop ht

/-- A character before a blank, or before the end of the text, is a word. -/
lemma SplitsInto.cons_of_stops (h : SplitsInto t ws) (hc : isBlank c = false)
    (ht : Stops (!isBlank ·) t) : SplitsInto (c :: t) ([c] :: ws) :=
  .word (b := []) (w := [c]) rfl (List.cons_ne_nil c []) (by simpa using hc) ht h

/-- A character before a word begins that word. -/
lemma SplitsInto.cons_of_not_stops (h : SplitsInto t ws) (hc : isBlank c = false)
    (ht : ¬ Stops (!isBlank ·) t) :
    ∃ w ws', ws = w :: ws' ∧ SplitsInto (c :: t) ((c :: w) :: ws') := by
  cases h with
  | blanks hb =>
    obtain ⟨d, u, rfl, hd⟩ := exists_cons_of_not_stops ht
    have hblank : isBlank d = true := isBlankText_iff.mp hb d (List.mem_cons_self ..)
    simp [hblank] at hd
  | @word b w t ws hb hne hw hstop hrest =>
    cases b with
    | nil =>
      refine ⟨w, ws, rfl, .word (b := []) (w := c :: w) rfl (List.cons_ne_nil c w) ?_ hstop hrest⟩
      exact List.forall_mem_cons.mpr ⟨hc, hw⟩
    | cons d b =>
      have hblank : isBlank d = true := isBlankText_iff.mp hb d (List.mem_cons_self ..)
      exact absurd ((stops_cons ..).mpr (by simp [hblank])) ht

/-- The words of a text are its maximal runs of characters that are not blank. -/
lemma splitsInto_words (t : Text) : SplitsInto t t.words := by
  induction t with
  | nil => exact .blanks rfl
  | cons c t ih =>
    cases hc : isBlank c with
    | true =>
      rw [words, if_pos hc]
      exact ih.cons_blank hc
    | false =>
      rw [words, if_neg (by simp [hc])]
      by_cases hstop : Stops (!isBlank ·) t
      · have hnext : t.head?.any (!isBlank ·) = false := by
          cases t with
          | nil => rfl
          | cons d t => simpa using hstop
        rw [hnext]
        exact ih.cons_of_stops hc hstop
      · have hnext : t.head?.any (!isBlank ·) = true := by
          obtain ⟨d, u, rfl, hd⟩ := exists_cons_of_not_stops hstop
          simpa using hd
        obtain ⟨w, ws, hwords, hsplit⟩ := ih.cons_of_not_stops hc hstop
        rw [hnext, hwords]
        exact hsplit

/-- A word is not empty, and its characters are characters of the text and not blank. -/
lemma SplitsInto.of_mem (h : SplitsInto t ws) {w : Text} (hw : w ∈ ws) :
    w ≠ [] ∧ ∀ c ∈ w, c ∈ t ∧ isBlank c = false := by
  induction h with
  | blanks hb => cases hw
  | @word b u t ws hb hne hu hstop ht ih =>
    rcases List.mem_cons.mp hw with rfl | hw
    · exact ⟨hne, fun c hc => ⟨by simp [hc], hu c hc⟩⟩
    · obtain ⟨hne', hmem⟩ := ih hw
      exact ⟨hne', fun c hc => ⟨by simp [(hmem c hc).1], (hmem c hc).2⟩⟩

end Text

/-! ## Words without quotes -/

/-- A word that is one bare fragment. -/
def Word.ofBare (t : Text) : Word :=
  ⟨[.bare t]⟩

namespace Word

lemma verbatim_ofBare (t : Text) : (ofBare t).verbatim = t := by
  simp [ofBare, verbatim, Fragment.verbatim]

lemma content_ofBare (t : Text) : (ofBare t).content = t := by
  simp [ofBare, content, Fragment.content]

/-- A text of bare characters is a word of its own. -/
lemma isCanonical_ofBare {t : Text} (hne : t ≠ []) (ht : ∀ c ∈ t, isBare c = true) :
    (ofBare t).IsCanonical :=
  ⟨List.cons_ne_nil _ _, .cons ⟨hne, ht⟩ .nil (by simp)⟩

end Word

/-- A text that begins with a blank is a layout of the words that it splits into. -/
lemma Text.SplitsInto.exists_layout {t : Text} {ws : List Text} (h : SplitsInto t ws)
    (ht : Stops (!isBlank ·) t) :
    ∃ u b, ArgumentsLayout (ws.map Word.ofBare) u ∧ b.isBlankText = true ∧ t = u ++ b := by
  induction h with
  | @blanks b hb => exact ⟨[], b, .nil, hb, rfl⟩
  | @word b w t ws hb hne hw hstop hrest ih =>
    obtain ⟨u, b', hu, hb', rfl⟩ := ih hstop
    have hgap : b ≠ [] := by
      rintro rfl
      obtain ⟨c, w, rfl⟩ := List.exists_cons_of_ne_nil hne
      have hc : isBlank c = false := hw c (List.mem_cons_self ..)
      simp [hc] at ht
    refine ⟨b ++ ((Word.ofBare w).verbatim ++ u), b', .cons hgap hb hu, hb', ?_⟩
    simp [Word.verbatim_ofBare]

namespace Line

/-- A command name, a blank and a text without quotes and `|` are read as the command with the words
of the text. -/
lemma parse_of_splitsInto {name v : Text} {ws : List Text} (hname : name.IsCommandName)
    (h : SplitsInto v ws) (hv : '\'' ∉ v ∧ '"' ∉ v ∧ '|' ∉ v) :
    parse (name ++ ' ' :: v) = .ok (.pipeline [⟨name, ws.map Word.ofBare⟩]) := by
  have hwords : ∀ u ∈ ws.map Word.ofBare, u.IsCanonical := by
    intro u hu
    obtain ⟨w, hw, rfl⟩ := List.mem_map.mp hu
    obtain ⟨hne, hmem⟩ := h.of_mem hw
    refine Word.isCanonical_ofBare hne fun c hc => ?_
    obtain ⟨hcv, hblank⟩ := hmem c hc
    have hne : ∀ {d}, d ∉ v → c ≠ d := fun hd => ne_of_mem_of_not_mem hcv hd
    simp [isBare, hblank, hne hv.1, hne hv.2.1, hne hv.2.2]
  obtain ⟨u, b, hu, hb, heq⟩ :=
    (h.cons_blank (c := ' ') rfl).exists_layout ((stops_cons ..).mpr rfl)
  rw [heq]
  exact parse_command hname hwords hu hb

end Line

/-- The value of a reference takes its place after the command name. -/
lemma substitute_command_reference {value : Text → Text} {name x : Text}
    (hname : name.IsCommandName) (hx : x.IsIdentifier) :
    substitute value (name ++ " $".toList ++ x) = .ok (name ++ ' ' :: value x) := by
  have hplain : ∀ c ∈ name ++ [' '], Region.isPlain c = true := by
    intro c hc
    rcases List.mem_append.mp hc with hc | hc
    · exact Region.isPlain_of_isCommandChar (hname.2 c hc)
    · obtain rfl : c = ' ' := by simpa using hc
      rfl
  have hcanonical : Region.AreCanonical [.plain (name ++ [' ']), .reference x] :=
    .cons ⟨by simp, hplain⟩ (.cons hx .nil (by simp)) (by simp [Region.MayPrecede])
  have hs : substitute value
      ([.plain (name ++ [' ']), .reference x].flatMap Region.render) = .ok _ :=
    substitute_flatMap_render hcanonical
  simpa [Region.render, Region.expand] using hs

namespace Session

/-- A line that is one `echo` writes the contents of its words, with a blank between each two. -/
lemma runLine_echo {env : Environment} {line s : Text} {ws : List Word}
    (hs : substitute env.vars.get line = .ok s)
    (hl : Line.parse s = .ok (.pipeline [⟨"echo".toList, ws⟩])) (w : World) :
    runLine w env line =
      ⟨.ok (Status.success, some (joinWith [' '] (ws.map Word.content))), env, w.files⟩ :=
  runLine_eq_resume hs hl rfl w

/-- A reference outside of quotes is split into words and not expanded again.  After a command name,
a value without quotes and `|` gives one word of the command for each of its maximal runs of
characters that are not blank, taken as they are, whatever else the value holds.  So `echo` writes
these runs with one blank between each two. -/
theorem runLine_splits_reference (env : Environment) {x : Text} (hx : x.IsIdentifier)
    (hv : '\'' ∉ env.vars.get x ∧ '"' ∉ env.vars.get x ∧ '|' ∉ env.vars.get x) :
    SplitsInto (env.vars.get x) (words (env.vars.get x)) ∧
    (∀ name : Text, name.IsCommandName →
      substitute env.vars.get (name ++ " $".toList ++ x) = .ok (name ++ ' ' :: env.vars.get x) ∧
      Line.parse (name ++ ' ' :: env.vars.get x) =
        .ok (.pipeline [⟨name, (words (env.vars.get x)).map Word.ofBare⟩])) ∧
    ∀ w : World, runLine w env ("echo $".toList ++ x) =
      ⟨.ok (Status.success, some (joinWith [' '] (words (env.vars.get x)))), env, w.files⟩ := by
  have hsplit : SplitsInto (env.vars.get x) (words (env.vars.get x)) := splitsInto_words _
  refine ⟨hsplit, fun name hname => ?_, fun w => ?_⟩
  · exact ⟨substitute_command_reference hname hx, Line.parse_of_splitsInto hname hsplit hv⟩
  · have hecho : IsCommandName "echo".toList := by decide
    have hs : substitute env.vars.get ("echo $".toList ++ x) =
        .ok ("echo".toList ++ ' ' :: env.vars.get x) := substitute_command_reference hecho hx
    have hcontent : ((words (env.vars.get x)).map Word.ofBare).map Word.content =
        words (env.vars.get x) := by
      rw [List.map_map]
      exact List.map_id'' Word.content_ofBare _
    rw [runLine_echo hs (Line.parse_of_splitsInto hecho hsplit hv), hcontent]

/-- Blanks around and between the words are dropped, `$b` stays as it is, and `=` makes no
assignment. -/
theorem runLine_splits_reference_blanks :
    runLine (World.ofFiles FileSystem.empty)
        ⟨⟨[("x".toList, " a=$b\u3000 =\t$\n".toList)]⟩, Path.root⟩ "echo $x".toList =
      ⟨.ok (Status.success, some "a=$b = $".toList),
        ⟨⟨[("x".toList, " a=$b\u3000 =\t$\n".toList)]⟩, Path.root⟩, FileSystem.empty⟩ :=
  (runLine_splits_reference ⟨⟨[("x".toList, " a=$b\u3000 =\t$\n".toList)]⟩, Path.root⟩
    (x := "x".toList) (by decide) (by decide)).2.2
    (World.ofFiles FileSystem.empty)

end Session

end CommandShell
