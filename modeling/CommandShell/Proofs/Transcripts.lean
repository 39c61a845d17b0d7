import CommandShell.Proofs.Encoding
import CommandShell.Proofs.Logging
import Mathlib.Data.List.Forall2

/-!
# What the console shows

A session on the console is its lines run one after the other.  `Session.runLines` runs lines
without any console: each on what the one before left, up to one that ends the session.  The console
shows what they wrote and how they failed, line by line (`Console.transcriptOf`), and this is all it
does as long as the log is silent (`Console.run_eq_transcriptOf_runLines`).  A line that is given as
an argument is shown in the same way.

The log adds to the complaints only: output and code are the same whatever is logged.  It is silent
unless it is asked to speak, because all that it is told of a line matters less than a warning
(`Log.Library.isSilent_logger`).

Between the input and the lines stand three readers: bytes are cut into lines, the bytes of each
line are decoded, and backspaces are applied.  `Console.Reads` says what line they lead to together.
On lines without line ends and backspaces they give back what was fed to them, which for the
backspaces rests on the clusters of a text being a partition of it (`Unicode.flatten_clusters`).
-/

namespace CommandShell

/-! ## Lines without a console -/

namespace Finished

variable {ε : Type}

/-- The status of a line that succeeded. -/
def status? (f : Finished ε) : Option Status :=
  match f.result with
  | .ok (status, _) => some status
  | .error _ => none

/-- What a line that succeeded wrote, if it is not empty. -/
def shown? (f : Finished ε) : Option Text :=
  match f.result with
  | .ok (_, some t) => if t = [] then none else some t
  | _ => none

/-- Why a line failed. -/
def fault? (f : Finished ε) : Option ε :=
  match f.result with
  | .ok _ => none
  | .error e => some e

end Finished

/-- Run lines one after the other, each on what the one before left, up to the first that ends the
session. -/
def Session.runLines (w : World) (env : Environment) : List Text → List (Finished LineError)
  | [] => []
  | line :: rest =>
    let finished := runLine w env line
    finished ::
      if finished.status? = some Status.terminate then []
      else runLines { w with files := finished.files } finished.environment rest

/-- A line by itself is run, however it ends. -/
lemma Session.runLines_singleton (w : World) (env : Environment) (line : Text) :
    runLines w env [line] = [runLine w env line] := by
  rw [runLines, runLines, ite_self]

/-! ## Clusters -/

namespace Unicode

/-- The clusters after one that is begun, and what continues that one, make up the text. -/
lemma flatten_clustersFrom (old : Cluster) (t : Text) :
    (clustersFrom old t).1 ++ (clustersFrom old t).2.flatten = t := by
  induction t generalizing old with
  | nil => rfl
  | cons c rest ih =>
    rw [clustersFrom]
    split
    · rw [List.cons_append, ih]
    · rw [List.nil_append, List.flatten_cons, List.cons_append, ih]

/-- The clusters of a text make it up. -/
lemma flatten_clusters (t : Text) : (clusters t).flatten = t := by
  -- No cluster is begun before the first character, so there is nothing that continues one.
  have hfirst : (clustersFrom Cluster.initial t).1 = [] := by
    cases t with
    | nil => rfl
    | cons c rest =>
      have hjoins : Cluster.initial.joins c = false := by
        simp [Cluster.joins, Cluster.initial]
      rw [clustersFrom, hjoins]
      rfl
  have hall := flatten_clustersFrom Cluster.initial t
  rwa [hfirst, List.nil_append] at hall

end Unicode

namespace Console

/-! ## A line of input -/

/-- A line that is fed as it stands: it holds neither line ends nor backspaces. -/
structure IsPlainLine (line : Text) : Prop where
  no_lineEnd : '\n' ∉ line
  no_return : '\r' ∉ line
  no_backspace : '\x08' ∉ line

instance : DecidablePred IsPlainLine := fun line =>
  decidable_of_iff ('\n' ∉ line ∧ '\r' ∉ line ∧ '\x08' ∉ line)
    ⟨fun h => ⟨h.1, h.2.1, h.2.2⟩, fun h => ⟨h.no_lineEnd, h.no_return, h.no_backspace⟩⟩

variable {line : Text}

/-- Without backspaces all clusters are kept. -/
lemma applyBackspaces?_of_not_mem {clusters : List Text} (h : ['\x08'] ∉ clusters)
    (sizes : List ℕ) (t : Text) :
    applyBackspaces? clusters sizes t = some (clusters.flatten.reverse ++ t) := by
  induction clusters generalizing sizes t with
  | nil => rfl
  | cons cluster rest ih =>
    rw [List.mem_cons, not_or] at h
    have hkept : applyBackspaces? (cluster :: rest) sizes t =
        applyBackspaces? rest (Utf8.size cluster % 256 :: sizes) (cluster.reverse ++ t) := by
      rw [applyBackspaces?]
      · exact fun _ heq => h.1 heq.symm
      · exact fun _ _ _ heq => h.1 heq.symm
    rw [hkept, ih h.2, List.flatten_cons, List.reverse_append, List.append_assoc]

/-- A line loses the end that is put to it. -/
lemma withoutLineEnd_line (h : IsPlainLine line) : withoutLineEnd (Text.line line) = line := by
  have hreverse : (Text.line line).reverse = '\n' :: line.reverse := List.reverse_concat ..
  unfold withoutLineEnd
  rw [hreverse]
  split
  · next rest heq =>
    have hmem : '\r' ∈ line.reverse := (List.cons.inj heq).2 ▸ List.mem_cons_self ..
    exact absurd (List.mem_reverse.mp hmem) h.no_return
  · next rest _ heq => rw [← (List.cons.inj heq).2, List.reverse_reverse]
  · next hne => exact absurd rfl (hne line.reverse)

/-- A line without an end stays as it is. -/
lemma withoutLineEnd_self (h : IsPlainLine line) : withoutLineEnd line = line := by
  have hhead : ∀ rest, line.reverse ≠ '\n' :: rest := fun rest heq =>
    h.no_lineEnd (List.mem_reverse.mp (heq ▸ List.mem_cons_self ..))
  unfold withoutLineEnd
  split
  · next heq => exact absurd heq (hhead _)
  · next heq => exact absurd heq (hhead _)
  · rfl

/-- The bytes are read as the line. -/
def Reads (bytes : List UInt8) (line : Text) : Prop :=
  ∃ t, Utf8.decode? bytes = some t ∧ inputLine? t = some line

/-- A text is read as the line that is left without its end. -/
lemma reads_encode {t : Text} (h : IsPlainLine line) (ht : withoutLineEnd t = line) :
    Reads (Utf8.encode t) line := by
  refine ⟨t, Utf8.decode?_encode t, ?_⟩
  have hclusters : ['\x08'] ∉ Unicode.clusters line := by
    intro hmem
    apply h.no_backspace
    rw [← Unicode.flatten_clusters line]
    exact List.mem_flatten_of_mem hmem (List.mem_singleton_self _)
  rw [inputLine?, ht, applyBackspaces?_of_not_mem hclusters, Unicode.flatten_clusters]
  simp

/-- Lines that are fed one after the other, the last of them without its end, are read as such. -/
lemma reads_lines {lines : List Text} {last : Text} (hlines : ∀ t ∈ lines, IsPlainLine t)
    (hlast : IsPlainLine last) :
    List.Forall₂ Reads (Grep.byteLines (Utf8.encode (lines.flatMap Text.line ++ last)))
      (lines ++ if last = [] then [] else [last]) := by
  rw [Grep.byteLines_encode (fun t ht => (hlines t ht).no_lineEnd) hlast.no_lineEnd]
  refine List.rel_append ?_ ?_
  · rw [List.forall₂_map_left_iff, List.forall₂_same]
    exact fun t ht => reads_encode (hlines t ht) (withoutLineEnd_line (hlines t ht))
  · split
    · exact .nil
    · exact .cons (reads_encode hlast (withoutLineEnd_self hlast)) .nil

/-! ## Turns -/

variable {w : World} {env : Environment} {bytes : List UInt8}

/-- What the console shows of lines that were run. -/
def transcriptOf (finished : List (Finished LineError)) : Transcript :=
  ⟨0, (finished.filterMap Finished.shown?).flatMap Text.line,
    (finished.filterMap Finished.fault?).flatMap fun e => Text.line e.message⟩

/-- What is reported of a line is what the console shows of it. -/
lemma report_eq (f : Finished LineError) :
    report f.result = ((transcriptOf [f]).output, (transcriptOf [f]).complaints) := by
  obtain ⟨result, environment, files⟩ := f
  cases result with
  | error e => simp [report, transcriptOf, Finished.shown?, Finished.fault?]
  | ok r =>
    obtain ⟨status, _ | _ | ⟨c, t⟩⟩ := r
    · rfl
    · rfl
    · simp [report, transcriptOf, Finished.shown?, Finished.fault?]

/-- A line ends the session by its status. -/
lemma endsSession_iff (f : Finished LineError) :
    endsSession f.result = true ↔ f.status? = some Status.terminate := by
  obtain ⟨result, environment, files⟩ := f
  cases result with
  | error e => simp [endsSession, Finished.status?]
  | ok r => simp [endsSession, Finished.status?]

/-- A blank line does nothing. -/
lemma turn_of_blank (h : Reads bytes line) (hblank : line.isBlankText = true) :
    turn w env bytes = ⟨[], [], [], .goOn env w.files⟩ := by
  obtain ⟨t, hdecode, hline⟩ := h
  simp only [turn, hdecode, hline, hblank, if_true]

/-- Any other line is run. -/
lemma turn_of_not_blank (h : Reads bytes line) (hblank : line.isBlankText = false) :
    turn w env bytes =
      ⟨(transcriptOf [Session.runLine w env line]).output, Session.events w env line,
        (transcriptOf [Session.runLine w env line]).complaints,
        if (Session.runLine w env line).status? = some Status.terminate then .stop 0
        else
          .goOn (Session.runLine w env line).environment (Session.runLine w env line).files⟩ := by
  obtain ⟨t, hdecode, hline⟩ := h
  simp only [turn, hdecode, hline, hblank, report_eq, endsSession_iff]
  rfl

/-! ## Sessions -/

/-- The transcript of one more line. -/
lemma transcriptOf_cons (f : Finished LineError) (fs : List (Finished LineError)) :
    transcriptOf (f :: fs) =
      (transcriptOf fs).after (transcriptOf [f]).output (transcriptOf [f]).complaints := by
  rw [← List.singleton_append, transcriptOf, List.filterMap_append, List.filterMap_append,
    List.flatMap_append, List.flatMap_append]
  rfl

/-- A transcript is the other one, but for what the log may have added to its complaints. -/
structure Extends (logger : Log.Logger) (t told : Transcript) : Prop where
  code : t.code = told.code
  output : t.output = told.output
  complaints : logger.IsSilent → t.complaints = told.complaints

/-- Nothing is added to what is shown before both. -/
lemma Extends.after {logger : Log.Logger} {t told : Transcript} (h : Extends logger t told)
    (n : ℕ) (events : List Log.Event) (output complaints : Text) :
    Extends logger (t.after output (logger.written n events ++ complaints))
      (told.after output complaints) where
  code := h.code
  output := congrArg (output ++ ·) h.output
  complaints hsilent := by
    simp only [Transcript.after, hsilent.written_eq, List.nil_append, h.complaints hsilent]

/-- A session without a prompt shows what its lines show, of which the blank ones are skipped. -/
lemma interact_extends (logger : Log.Logger) {inputs : List (List UInt8)} {lines : List Text}
    (h : List.Forall₂ Reads inputs lines) (n : ℕ) (w : World) (env : Environment) :
    Extends logger (interact logger [] n w env inputs)
      (transcriptOf (Session.runLines w env (lines.filter fun line => !line.isBlankText))) := by
  -- On the lines of the input: each turn shows its own line before the rest of the session, which
  -- goes on from the environment and the files that the line left.
  induction h generalizing n w env with
  | nil => exact ⟨rfl, rfl, fun _ => rfl⟩
  | @cons bytes line inputs lines hread _ ih =>
    cases hblank : line.isBlankText with
    | true =>
      rw [List.filter_cons_of_neg (by simp [hblank])]
      simp only [interact, turn_of_blank hread hblank]
      exact ih n w env
    | false =>
      rw [List.filter_cons_of_pos (by simp [hblank]), Session.runLines, interact,
        turn_of_not_blank hread hblank]
      by_cases hends : (Session.runLine w env line).status? = some Status.terminate
      · simp only [hends, if_true]
        exact ⟨rfl, rfl, fun hsilent => by simp only [hsilent.written_eq, List.nil_append]⟩
      · simp only [hends, if_false]
        rw [transcriptOf_cons (Session.runLine w env line) (Session.runLines _ _ _)]
        exact (ih _ _ _).after _ _ _ _

/-! ## Runs of the program -/

variable {p : Platform} {bindings : Bindings} {vars : Variables}

/-- Without arguments the program runs the lines of its input. -/
lemma task_of_nil (hvars : Variables.ofBindings? bindings = some vars)
    (hprompt : p.showsPrompt bindings = false) :
    task p bindings [] = .session (p.log.logger bindings false) vars [] := by
  have hread : Flags.read grammar Options.initial [] = .ok Options.initial := rfl
  simp only [task, hread, hvars, hprompt]
  rfl

/-- With a line as an argument it runs that line. -/
lemma task_of_command (hvars : Variables.ofBindings? bindings = some vars) (line : Text) :
    task p bindings ["-c".toList, line] = .command (p.log.logger bindings false) vars line := by
  have hread : Flags.read grammar Options.initial ["-c".toList, line] =
      .ok { Options.initial with command := some line } := rfl
  simp only [task, hread, hvars]
  rfl

/-- Lines on the input of a session without a prompt. -/
lemma run_lines {lines : List Text} {last : Text} (w : World) (directory : Path)
    (hvars : Variables.ofBindings? bindings = some vars)
    (hprompt : p.showsPrompt bindings = false) (hlines : ∀ t ∈ lines, IsPlainLine t)
    (hlast : IsPlainLine last) :
    Extends (p.log.logger bindings false)
      (run p w directory bindings [] (Utf8.encode (lines.flatMap Text.line ++ last)))
      (transcriptOf (Session.runLines w ⟨vars, directory⟩
        ((lines ++ [last]).filter fun line => !line.isBlankText))) := by
  have hempty : (if last = [] then [] else [last]).filter (fun line => !line.isBlankText) =
      [last].filter fun line => !line.isBlankText := by
    split
    · next hnil =>
      rw [hnil]
      rfl
    · rfl
  rw [run, task_of_nil hvars hprompt, List.filter_append, ← hempty, ← List.filter_append]
  exact interact_extends _ (reads_lines hlines hlast) 0 w ⟨vars, directory⟩

/-- A line that is all of the input is run, be it with its end or without. -/
lemma run_line {fed : Text} (w : World) (directory : Path)
    (hvars : Variables.ofBindings? bindings = some vars)
    (hprompt : p.showsPrompt bindings = false) (hline : IsPlainLine line)
    (hblank : line.isBlankText = false) (hfed : fed = line ∨ fed = Text.line line) :
    Extends (p.log.logger bindings false) (run p w directory bindings [] (Utf8.encode fed))
      (transcriptOf [Session.runLine w ⟨vars, directory⟩ line]) := by
  have hkept : [line].filter (fun line => !line.isBlankText) = [line] :=
    List.filter_cons_of_pos (by simp [hblank])
  rw [← Session.runLines_singleton, ← hkept]
  rcases hfed with rfl | rfl
  · exact run_lines w directory hvars hprompt (fun t ht => absurd ht List.not_mem_nil) hline
  · have hnil : IsPlainLine [] := ⟨List.not_mem_nil, List.not_mem_nil, List.not_mem_nil⟩
    have hlines : ∀ t ∈ [line], IsPlainLine t := fun t ht => List.mem_singleton.mp ht ▸ hline
    have hrun := run_lines w directory hvars hprompt hlines hnil
    rwa [List.flatMap_singleton, List.append_nil, List.filter_append,
      List.filter_cons_of_neg (a := []) (by decide), List.filter_nil, List.append_nil] at hrun

/-- What is shown of a line that is given as an argument is what a session shows of it, but the code
tells whether the line failed. -/
lemma run_command (p : Platform) (w : World) (directory : Path)
    (hvars : Variables.ofBindings? bindings = some vars) (line : Text) (input : List UInt8) :
    Extends (p.log.logger bindings false)
      (run p w directory bindings ["-c".toList, line] input)
      { transcriptOf [Session.runLine w ⟨vars, directory⟩ line] with
        code := if (Session.runLine w ⟨vars, directory⟩ line).fault? = none then 0 else 1 } := by
  rw [run, task_of_command hvars]
  simp only [runCommand, report_eq]
  refine ⟨?_, rfl, fun hsilent => by simp only [hsilent.written_eq, List.nil_append]⟩
  cases h : (Session.runLine w ⟨vars, directory⟩ line).result with
  | error e => simp [Finished.fault?, h]
  | ok r => simp [Finished.fault?, h]

/-- A session is its lines run one after the other.  The console is fed lines, of which the last may
lack its end, under variables that are texts and for which no prompt is to be written.  It runs the
lines that are not blank, each on what the one before left, up to the first that ends the session;
it shows what they wrote, each with a line end after it, and ends with the code zero.  Unless a
variable describes a filter for the log, its complaints are how the lines failed, each with a line
end after it.  A line that is given as an argument is shown as in a session with this one line, and
the code is one exactly if the line fails. -/
theorem run_eq_transcriptOf_runLines (p : Platform) (hwarn : p.log.KnowsWarn) (w : World)
    (directory : Path) (bindings : Bindings) (vars : Variables)
    (hvars : Variables.ofBindings? bindings = some vars)
    (hprompt : p.showsPrompt bindings = false) :
    (∀ lines last, (∀ line ∈ lines, IsPlainLine line) → IsPlainLine last →
      let t := run p w directory bindings [] (Utf8.encode (lines.flatMap Text.line ++ last))
      let told := transcriptOf (Session.runLines w ⟨vars, directory⟩
        ((lines ++ [last]).filter fun line => !line.isBlankText))
      t.code = 0 ∧ t.output = told.output ∧
        (bindings.lookup Log.filterVariable = none → t.complaints = told.complaints)) ∧
    ∀ line, IsPlainLine line → line.isBlankText = false →
      ∀ fed input, fed = line ∨ fed = Text.line line →
        let t := run p w directory bindings ["-c".toList, line] input
        let session := run p w directory bindings [] (Utf8.encode fed)
        t.output = session.output ∧
          (bindings.lookup Log.filterVariable = none → t.complaints = session.complaints) ∧
          (t.code = 1 ↔
            ∃ e, (Session.runLine w ⟨vars, directory⟩ line).result = .error e) ∧
          (t.code = 0 ↔
            ∃ r, (Session.runLine w ⟨vars, directory⟩ line).result = .ok r) := by
  refine ⟨fun lines last hlines hlast => ?_, fun line hline hblank fed input hfed => ?_⟩
  · have hsession := run_lines w directory hvars hprompt hlines hlast
    exact ⟨hsession.code, hsession.output,
      fun hunset => hsession.complaints (Log.Library.isSilent_logger hwarn hunset)⟩
  · have hsession := run_line w directory hvars hprompt hline hblank hfed
    have hcommand := run_command p w directory hvars line input
    refine ⟨hcommand.output.trans hsession.output.symm, fun hunset => ?_, ?_⟩
    · have hsilent := Log.Library.isSilent_logger hwarn hunset
      exact (hcommand.complaints hsilent).trans (hsession.complaints hsilent).symm
    · rw [hcommand.code]
      cases h : (Session.runLine w ⟨vars, directory⟩ line).result with
      | error e => simp [Finished.fault?, h]
      | ok r => simp [Finished.fault?, h]

/-- A session with a blank line, a line that fails, and a line that is not reached. -/
theorem run_eq_transcriptOf_runLines_exit :
    let t := run Machine.platform (World.ofFiles FileSystem.empty) Path.root
      (Bindings.ofStrings [("TERM", "xterm")]) []
      (Utf8.encode "x=a\n\necho |\necho $x\nexit\necho b".toList)
    t.code = 0 ∧ t.output = "a\n".toList ∧
      t.complaints = "parse: command name expected at column 7\n".toList := by
  have hrun := (run_eq_transcriptOf_runLines Machine.platform Log.knowsWarn_platform
    (World.ofFiles FileSystem.empty) Path.root (Bindings.ofStrings [("TERM", "xterm")])
    ⟨[("TERM".toList, "xterm".toList)]⟩ (by decide +kernel) (by decide +kernel)).1
    ["x=a".toList, [], "echo |".toList, "echo $x".toList, "exit".toList] "echo b".toList
    (by decide) (by decide)
  exact ⟨hrun.1, hrun.2.1.trans (by decide +kernel),
    (hrun.2.2 (by decide +kernel)).trans (by decide +kernel)⟩

/-- By itself the line `echo a` writes `a` and a line end, and no complaint.  If a variable asks for
a log, there are complaints nevertheless; with a variable that is no text the session does not
begin; and on a plain terminal it writes a prompt, also if the name of the terminal is in
capitals. -/
theorem run_shows_more_than_lines :
    IsPlainLine "echo a".toList ∧
      transcriptOf (Session.runLines (World.ofFiles FileSystem.empty)
        ⟨⟨[("RUST_LOG".toList, "debug".toList)]⟩, Path.root⟩ ["echo a".toList]) =
          ⟨0, "a\n".toList, []⟩ ∧
      run Machine.platform (World.ofFiles FileSystem.empty) Path.root
        (Bindings.ofStrings [("RUST_LOG", "debug")]) [] (Utf8.encode "echo a\n".toList) =
          ⟨0, "a\n".toList,
            ("DEBUG line_shell::shell: substituted line substituted=echo a\n" ++
              "DEBUG line_shell::shell: parsed line\n" ++
              "DEBUG line_shell::interpreter: stage finished " ++
              "stage=0 command=echo code=0\n").toList⟩ ∧
      run Machine.platform (World.ofFiles FileSystem.empty) Path.root
        [(Utf8.encode "X".toList, [0xFF])] [] (Utf8.encode "echo a\n".toList) =
          ⟨101, [], variableFault⟩ ∧
      transcriptOf (Session.runLines (World.ofFiles FileSystem.empty)
        ⟨⟨[("TERM".toList, "DUMB".toList)]⟩, Path.root⟩ ["echo a".toList]) =
          ⟨0, "a\n".toList, []⟩ ∧
      run Machine.platform (World.ofFiles FileSystem.empty) Path.root
        (Bindings.ofStrings [("TERM", "DUMB")]) [] (Utf8.encode "echo a\n".toList) =
          ⟨0, "$ a\n$ ".toList, []⟩ := by
  decide +kernel

end Console

end CommandShell
