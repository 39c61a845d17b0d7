import CommandShell.Builtin.Execute
import CommandShell.Machine
import CommandShell.Proofs.Encoding
import Mathlib.Tactic.SplitIfs

/-!
# Programs of the system

The system has programs of its own, which scripts and sessions start.  Started without arguments,
its `cat` is nearly the built-in one.  It writes what it reads (`Machine.Cat.run_copies`); since a
session takes one line end away from what a program wrote, that is the built-in `cat` on a text
without this line end (`Machine.execute_cat_program`).  Between the two stand the lookup of the
program, which has to lead to `cat`, and two encodings: of the text into bytes, and of the bytes
into the texts that programs work on.

`mkdir` and `ln` only add to the files: what stands at a path stays there, whatever their arguments
are (`Machine.makeDirectories_keeps`, `Machine.makeLink_keeps`).  Their complaints must not go to a
file, since they would change it.
-/

namespace CommandShell.Machine

/-! ## Bytes as texts -/

/-- The bytes of a text of bytes are those that it was made from. -/
lemma toBytes_ofBytes (bytes : List UInt8) : toBytes (ofBytes bytes) = bytes := by
  have hchar : ∀ n < 256, (Char.ofNat n).toNat = n := by decide +kernel
  have hbyte : ∀ b : UInt8, (Char.ofNat b.toNat).toNat.toUInt8 = b := fun b => by
    rw [hchar b.toNat b.toNat_lt]
    exact UInt8.ofNat_toNat
  simp [toBytes, ofBytes, Function.comp_def, hbyte]

/-! ## Streams -/

namespace System

variable {s : System} {id other : ℕ} {stream old : Stream} {t : Text} {done : List Text}

/-- A stream that is put in the place of another is open there. -/
lemma streams_setStream_self (h : s.streams[id]? = some old) :
    (s.setStream id stream).streams[id]? = some stream := by
  have hsize : id < s.streams.size := (Array.getElem?_eq_some_iff.mp h).1
  simp [setStream, hsize]

/-- The other streams stay as they are. -/
lemma streams_setStream_of_ne (h : id ≠ other) :
    (s.setStream id stream).streams[other]? = s.streams[other]? :=
  Array.getElem?_setIfInBounds_ne h

/-- A sink takes any text. -/
lemma write?_sink (h : s.streams[id]? = some (.sink done)) :
    s.write? id t = some (s.setStream id (.sink (t :: done))) := by
  simp only [write?, h]

/-- What was written to a sink before comes first. -/
lemma written_setStream (h : s.streams[id]? = some (.sink done)) :
    (s.setStream id (.sink (t :: done))).written id = s.written id ++ t := by
  simp [written, h, streams_setStream_self h]

end System

/-! ## Copying -/

namespace Cat

/-- Without options a text is copied as it is. -/
lemma copyOnto_none (p : Progress) (done t : Text) :
    (copyOnto Options.none p done t).2 = t.reverse ++ done := by
  unfold Options.none
  induction t generalizing p done with
  | nil => rfl
  | cons c rest ih =>
    by_cases hc : c = '\n'
    · simp [copyOnto, hc, ih]
    · have hshown : ∀ next, shown ⟨false, false, false, false, false, false⟩ c next = [c] := by
        simp [shown]
      rw [copyOnto]
      · simp [hshown, ih]
      · exact hc

variable {start : Start} {s : System} {input output : ℕ} {t : Text} {done : List Text}

/-- What a copy of a text from a source to a sink leaves behind: the source is empty, the sink holds
the text after what it held before, and nothing else has changed. -/
structure Copied (s : System) (input output : ℕ) (t : Text) (s' : System) : Prop where
  files : s'.files = s.files
  source : s'.streams[input]? = some (.source [])
  written : s'.written output = s.written output ++ t
  others : ∀ id, id ≠ input → id ≠ output → s'.streams[id]? = s.streams[id]?

/-- A stream is not both a source and a sink. -/
lemma ne_of_source_of_sink (hin : s.streams[input]? = some (.source t))
    (hout : s.streams[output]? = some (.sink done)) : input ≠ output := by
  rintro rfl
  simp [hin] at hout

/-- Emptying the source and writing its text to the sink is all there is to a copy; an empty text
need not be written. -/
lemma copied_setStream (hin : s.streams[input]? = some (.source t))
    (hout : s.streams[output]? = some (.sink done)) :
    (t = [] → Copied s input output t (s.setStream input (.source []))) ∧
      Copied s input output t
        ((s.setStream input (.source [])).setStream output (.sink (t :: done))) := by
  have hne := ne_of_source_of_sink hin hout
  have hsink : (s.setStream input (.source [])).streams[output]? = some (.sink done) := by
    rw [System.streams_setStream_of_ne hne, hout]
  have hwritten : (s.setStream input (.source [])).written output = s.written output := by
    simp only [System.written, hsink, hout]
  refine ⟨fun ht => ⟨rfl, System.streams_setStream_self hin, ?_, fun id hid _ => ?_⟩,
    rfl, ?_, ?_, fun id hid hid' => ?_⟩
  · rw [hwritten, ht, List.append_nil]
  · exact System.streams_setStream_of_ne hid.symm
  · rw [System.streams_setStream_of_ne hne.symm, System.streams_setStream_self hin]
  · rw [System.written_setStream hsink, hwritten]
  · rw [System.streams_setStream_of_ne hid'.symm, System.streams_setStream_of_ne hid.symm]

/-- Copying a source to a sink does not fail. -/
lemma copyStream_source (start : Start) (p : Progress) (failed : Bool) (name : Text)
    (hin : s.streams[input]? = some (.source t)) (hout : s.streams[output]? = some (.sink done)) :
    ∃ p' s', copyStream start Options.none output ⟨s, p, failed⟩ name input = ⟨s', p', failed⟩ ∧
      Copied s input output t s' := by
  obtain ⟨hempty, hfull⟩ := copied_setStream hin hout
  have hremaining : s.remaining input = .ok t := by simp only [System.remaining, hin]
  have hown : isOwnOutput s input output = false := by simp only [isOwnOutput, hin]
  have hadvance : s.advance input t.length = s.setStream input (.source []) := by
    simp only [System.advance, hin, List.drop_length]
  have hcopied : (copyOnto Options.none p [] t).2 = t.reverse := by
    rw [copyOnto_none, List.append_nil]
  simp only [copyStream, hremaining, hown, hadvance, hcopied, List.isEmpty_reverse,
    List.reverse_reverse, Bool.false_eq_true, if_false]
  by_cases ht : t = []
  · refine ⟨(copyOnto Options.none p [] t).1, _, ?_, hempty ht⟩
    simp [ht]
  · have hsink : (s.setStream input (.source [])).streams[output]? = some (.sink done) := by
      rw [System.streams_setStream_of_ne (ne_of_source_of_sink hin hout), hout]
    refine ⟨(copyOnto Options.none p [] t).1, _, ?_, hfull⟩
    simp [ht, System.write?_sink hsink]

/-- Without arguments the program copies its input to its output, and does not fail. -/
theorem run_copies (hargument : start.arguments.tail = [])
    (hinput : start.descriptors.lookup 0 = some input)
    (houtput : start.descriptors.lookup 1 = some output)
    (hin : s.streams[input]? = some (.source t)) (hout : s.streams[output]? = some (.sink done)) :
    ∃ s', run start s = (.exited 0, s') ∧ Copied s input output t s' := by
  obtain ⟨p', s', hcopy, hcopied⟩ :=
    copyStream_source start ⟨some 0, 0⟩ false ['-'] hin hout
  refine ⟨s', ?_, hcopied⟩
  have hread : readArguments ⟨.none, [], false⟩ start.arguments.tail = .ok ⟨.none, [], false⟩ := by
    rw [hargument]
    rfl
  have hfile : copyFile start .none output ⟨s, ⟨some 0, 0⟩, false⟩ ['-'] = ⟨s', p', false⟩ := by
    simp only [copyFile, hinput, if_true, hcopy]
  simp [run, hread, houtput, hfile]

end Cat

/-! ## Starting a program -/

/-- A path leads to a program of the system. -/
def LeadsTo (files : FileSystem) (directory : RealPath) (path : Path) (program : SystemProgram) :
    Prop :=
  ∃ place bytes, files.locate directory path = .ok place ∧
    files.node? place = some (.file bytes true) ∧
    systemPrograms.lookup place = some program

variable {files : FileSystem} {base directory : RealPath} {program : SystemProgram}

/-- A program of the system is no script, so it is run itself. -/
lemma spawn_of_leadsTo {path : Text} {start : Start} {s : System}
    (h : LeadsTo s.files start.directory (toBytes path) program) (n : ℕ) :
    spawn (n + 1) path start s = .ok (program.run (spawn n) start s) := by
  obtain ⟨place, bytes, hplace, hnode, hprogram⟩ := h
  have hresolve : resolve s.files start.directory interpreterLimit path start.arguments =
      .ok ⟨program, start.arguments⟩ := by
    rw [interpreterLimit, resolve]
    simp only [hplace, hnode, hprogram]
  rw [spawn, hresolve]

/-- Launched without arguments by a path that leads to it, `cat` hands back its input. -/
lemma launch_cat {l : Launch} (hzero : hasZero l = false)
    (hdirectory : files.locate base l.directory = .ok directory)
    (hnode : files.node? directory = some .directory) (hslash : Path.slash ∈ l.program)
    (hargument : l.arguments = []) (hcat : LeadsTo files directory l.program .cat) :
    launch base files l = .ok ⟨l.input, [], .exited 0, files⟩ := by
  have hstart : (startOf directory l).arguments.tail = [] := by simp [startOf, hargument]
  obtain ⟨s', hrun, hcopied⟩ :=
    Cat.run_copies (s := System.start files (ofBytes l.input)) hstart rfl rfl rfl rfl
  have hleads : LeadsTo (System.start files (ofBytes l.input)).files
      (startOf directory l).directory (toBytes (ofBytes l.program)) .cat := by
    rwa [toBytes_ofBytes]
  have hspawn : spawn spawnFuel (ofBytes l.program) (startOf directory l)
      (System.start files (ofBytes l.input)) = .ok (.exited 0, s') := by
    rw [← hrun]
    exact spawn_of_leadsTo hleads 9999
  have houtput : s'.written 1 = ofBytes l.input := hcopied.written
  have hcomplaints : s'.written 2 = [] := by
    have hkept : s'.streams[2]? = some (.sink []) := hcopied.others 2 (by decide) (by decide)
    simp [System.written, hkept]
  have hfiles : s'.files = files := hcopied.files
  have hempty : toBytes [] = [] := rfl
  simp [launch, hzero, hdirectory, hnode, hslash, hspawn, houtput, hcomplaints, hfiles,
    toBytes_ofBytes, hempty]

/-! ## In a session -/

variable {env : Environment} {path : Path} {name : Text}

/-- A text that was handed to a program and comes back is the text without its line end. -/
lemma verdict_of_encode (t : Text) (files : FileSystem) :
    World.verdict ⟨Utf8.encode t, [], .exited 0, files⟩ = .ok (World.dropLineEnd t) := by
  simp [World.verdict, World.endingCode, Utf8.decodeLossy_encode]

/-- A session that starts `cat` without arguments runs the built-in `cat` on what it would hand
over, without the line end at the end: the same status, output, environment and files. -/
theorem execute_cat_program
    (hfound : (world files base).programOf? env name = some path)
    (hzero : hasZero (World.launchOf env input path []) = false)
    (hdirectory : (world files base).files.locate base env.directory = .ok directory)
    (hnode : (world files base).files.node? directory = some .directory)
    (hslash : Path.slash ∈ path)
    (hcat : LeadsTo (world files base).files directory path .cat) (output : Slot) :
    (Invocation.external name []).execute (world files base) env input output =
      (Invocation.cat []).execute (world files base) env
        (.holding (World.dropLineEnd input.text)) output := by
  have hlaunch : (world files base).launch (world files base).files
      (World.launchOf env input path []) = .ok ⟨Utf8.encode input.text, [], .exited 0,
        (world files base).files⟩ :=
    launch_cat hzero hdirectory hnode hslash rfl hcat
  simp only [Invocation.execute, World.runProgram, hfound, hlaunch, World.launchResult,
    verdict_of_encode, filesAfter, Slot.holding]

/-- The path of `cat` leads to it where nothing else was put. -/
example :
    ((Invocation.external "/bin/cat".toList []).execute (world FileSystem.empty [])
      ⟨⟨[]⟩, Path.root⟩ (.holding "a\n\n".toList) Slot.empty).output =
        .holding "a\n".toList := by
  decide +kernel

/-! ## Making directories and links -/

/-- What stands somewhere in the files stands there in the others. -/
def Keeps (before after : FileSystem) : Prop :=
  ∀ place node, before.node? place = some node → after.node? place = some node

/-- What is kept twice is kept. -/
lemma Keeps.trans {first second third : FileSystem} (h : Keeps first second)
    (h' : Keeps second third) : Keeps first third :=
  fun place node hnode => h' place node (h place node hnode)

/-- A node that is added behind the others hides none of them. -/
lemma keeps_append (files : FileSystem) (entry : RealPath × Node) :
    Keeps files ⟨files.entries ++ [entry]⟩ := by
  intro place node hnode
  cases place with
  | nil => exact hnode
  | cons name rest =>
    have hlookup : files.entries.lookup (name :: rest) = some node := hnode
    simp [FileSystem.node?, List.lookup_append, hlookup]

/-- Making something puts it behind what is there. -/
lemma keeps_makeAt {after : FileSystem} {path : Text} {node : Node}
    (h : makeAt files base path node = .ok after) : Keeps files after := by
  unfold makeAt at h
  split at h
  · cases h
  · simp only at h
    split at h
    · cases h
    · split_ifs at h
      cases h
      exact keeps_append files _

/-- The stream of complaints, if there is one, is no file. -/
def ComplainsToSink (start : Start) (s : System) : Prop :=
  ∀ id, start.descriptors.lookup 2 = some id → ∃ done, s.streams[id]? = some (.sink done)

variable {start : Start} {s : System}

/-- A complaint leaves the files alone, and can be followed by another one. -/
lemma complainTo_files (h : ComplainsToSink start s) (complaint : Text) :
    (complainTo start s complaint).files = s.files ∧
      ComplainsToSink start (complainTo start s complaint) := by
  unfold complainTo
  cases hid : start.descriptors.lookup 2 with
  | none => exact ⟨rfl, h⟩
  | some id =>
    obtain ⟨done, hsink⟩ := h id hid
    simp only [System.write?_sink hsink, Option.getD_some]
    refine ⟨rfl, fun id' hid' => ⟨Text.line complaint :: done, ?_⟩⟩
    obtain rfl : id = id' := Option.some.inj (hid.symm.trans hid')
    exact System.streams_setStream_self hsink

/-- However many of the directories can be made, what was there stays. -/
lemma keeps_makeEach (done : Bool) (names : List Text) (h : ComplainsToSink start s) :
    Keeps s.files (makeEach start done s names).2.files := by
  -- On the names: each is made on the files that the ones before left.
  induction names generalizing done s with
  | nil => exact fun _ _ hnode => hnode
  | cons name rest ih =>
    rw [makeEach]
    split
    · next files hmade =>
      have hrest := ih done (s := { s with files := files }) h
      exact (keeps_makeAt hmade).trans hrest
    · next e _ =>
      obtain ⟨hfiles, hsink⟩ := complainTo_files h
        (complaintOf start "mkdir" (about "cannot create directory" name e))
      have hrest := ih false hsink
      rwa [hfiles] at hrest

/-- `mkdir` changes nothing that is there. -/
theorem makeDirectories_keeps (h : ComplainsToSink start s) :
    Keeps s.files (makeDirectories start s).2.files := by
  unfold makeDirectories
  split
  · rw [(complainTo_files h _).1]
    exact fun _ _ hnode => hnode
  · exact keeps_makeEach true _ h

/-- `ln` changes nothing that is there. -/
theorem makeLink_keeps (h : ComplainsToSink start s) :
    Keeps s.files (makeLink start s).2.files := by
  unfold makeLink
  split
  · split
    · next hmade => exact keeps_makeAt hmade
    · rw [(complainTo_files h _).1]
      exact fun _ _ hnode => hnode
  · rw [(complainTo_files h _).1]
    exact fun _ _ hnode => hnode

end CommandShell.Machine
