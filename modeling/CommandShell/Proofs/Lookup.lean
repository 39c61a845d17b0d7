import CommandShell.Proofs.Decoding
import CommandShell.Proofs.RealPaths
import CommandShell.World
import Mathlib.Logic.Basic

/-!
# Finding programs

The rules for finding a program are about separators: an absolute path stands for itself, a path
with a separator in it is taken from the directory of the session, and a name without one is looked
for along the search path (`World.Resolves`).  The lookup itself counts the parts of the path, and
separators at its end and steps `.` after its first part are no parts.  So a name with such an
ending (`Path.IsTrailed`) counts as one part, and is looked for along the search path as if nothing
stood after it.  All other names are found by the rules (`World.findProgram?_eq_some_iff`).

Every path that is tested is taken from the directory that the shell was started in.  For an
absolute path that makes no difference (`FileSystem.locate_eq_of_isAbsolute`), and what the lookup
finds is absolute unless it comes from an entry of the search path that is not
(`World.Resolves.isAbsolute_or`).
-/

namespace CommandShell

/-! ## Joining and cutting paths -/

/-- The pieces on both sides of a separator. -/
lemma Text.pieces_append_cons {α : Type} [DecidableEq α] (separator : α) (a t : List α) :
    pieces separator (a ++ separator :: t) = pieces separator a ++ pieces separator t := by
  induction a with
  | nil => simp [pieces]
  | cons c a ih =>
    by_cases hc : c = separator
    · rw [List.cons_append, pieces, if_pos hc, ih, pieces, if_pos hc, List.cons_append]
    · obtain ⟨p, ps, hp⟩ := List.exists_cons_of_ne_nil (pieces_ne_nil separator a)
      rw [List.cons_append, pieces_cons_of_ne hc hp,
        pieces_cons_of_ne hc (ih.trans (by rw [hp, List.cons_append])), List.cons_append]

namespace Path

variable {directory name p x : Path}

/-- A path taken from a directory ends with a separator and the path. -/
lemma exists_join_eq (hdirectory : directory ≠ []) (hname : isAbsolute name = false) :
    ∃ before, join directory name = before ++ Path.slash :: name := by
  by_cases hlast : directory.getLast? = some Path.slash
  · obtain ⟨before, rfl⟩ := List.getLast?_eq_some_iff.mp hlast
    refine ⟨before, ?_⟩
    rw [join, if_neg (by simp [hname]), if_neg hdirectory, if_pos hlast, List.append_assoc]
    rfl
  · refine ⟨directory, ?_⟩
    rw [join, if_neg (by simp [hname]), if_neg hdirectory, if_neg hlast]

/-- An absolute path stays as it is. -/
lemma join_of_isAbsolute (h : isAbsolute p = true) (directory : Path) : join directory p = p :=
  if_pos h

/-- An absolute path begins with a separator. -/
lemma isAbsolute_iff : isAbsolute p = true ↔ ∃ rest, p = Path.slash :: rest := by
  cases p with
  | nil => simp [isAbsolute]
  | cons c rest => simp [isAbsolute]

/-- A path taken from an absolute directory is absolute, and no other is unless it was before. -/
lemma isAbsolute_join (hname : isAbsolute name = false) :
    isAbsolute (join directory name) = isAbsolute directory := by
  cases directory with
  | nil => simpa [join, isAbsolute] using hname
  | cons c directory =>
    simp only [join, hname, Bool.false_eq_true, if_false, List.cons_ne_nil]
    split
    · rfl
    · rfl

/-- A name without separators is not absolute. -/
lemma isAbsolute_of_not_mem (hx : Path.slash ∉ x) : isAbsolute x = false := by
  rw [Bool.eq_false_iff, ne_eq, isAbsolute_iff]
  rintro ⟨rest, rfl⟩
  exact hx (List.mem_cons_self ..)

/-! ### Names that end with no further part -/

/-- A name that has a separator after its first part, and then only separators and steps `.`, which
are no parts. -/
structure IsTrailed (x name : Path) : Prop where
  ne_nil : x ≠ []
  no_separator : Path.slash ∉ x
  exists_rest : ∃ rest, name = x ++ Path.slash :: rest ∧
    ∀ piece ∈ Text.pieces Path.slash rest, piece = [] ∨ piece = Path.here

/-- A text whose pieces are empty or `.` ends, after a separator, with nothing or with `.`. -/
lemma exists_end_of_pieces {rest : Path}
    (h : ∀ piece ∈ Text.pieces Path.slash rest, piece = [] ∨ piece = Path.here) :
    ∃ before, Path.slash :: rest = before ++ [Path.slash] ∨
      Path.slash :: rest = before ++ [Path.slash, Path.dot] := by
  induction rest using induction_on_lines (e := Path.slash) with
  | last rest hrest =>
    rw [Text.pieces_of_not_mem hrest] at h
    rcases h rest (List.mem_singleton_self rest) with rfl | rfl
    · exact ⟨[], .inl rfl⟩
    · exact ⟨[], .inr rfl⟩
  | line first rest hfirst ih =>
    rw [Text.pieces_append hfirst] at h
    obtain ⟨before, hbefore⟩ := ih (List.forall_mem_cons.mp h).2
    refine ⟨Path.slash :: (first ++ before), ?_⟩
    rcases hbefore with hbefore | hbefore
    · left
      rw [hbefore]
      simp
    · right
      rw [hbefore]
      simp

namespace IsTrailed

/-- A trailed name is no absolute path. -/
lemma isAbsolute_eq_false (h : IsTrailed x name) : isAbsolute name = false := by
  obtain ⟨rest, rfl, -⟩ := h.exists_rest
  rw [Bool.eq_false_iff, ne_eq, isAbsolute_iff]
  rintro ⟨rest', hrest⟩
  obtain ⟨c, x', rfl⟩ := List.exists_cons_of_ne_nil h.ne_nil
  obtain ⟨rfl, -⟩ := List.cons.inj hrest
  exact h.no_separator (List.mem_cons_self ..)

/-- A trailed name ends with a separator, or with a step `.` after one. -/
lemma exists_end (h : IsTrailed x name) :
    ∃ before, name = before ++ [Path.slash] ∨ name = before ++ [Path.slash, Path.dot] := by
  obtain ⟨rest, rfl, hrest⟩ := h.exists_rest
  obtain ⟨before, hbefore⟩ := exists_end_of_pieces hrest
  refine ⟨x ++ before, ?_⟩
  rcases hbefore with hbefore | hbefore
  · left
    rw [hbefore, List.append_assoc]
  · right
    rw [hbefore, List.append_assoc]

end IsTrailed

/-- The parts of a name with a first piece: the piece, and then what counts of the rest. -/
lemma exists_part_of_not_mem (hne : x ≠ []) (hx : Path.slash ∉ x) :
    ∃ part : Part, part.bytes = x ∧ (part = .current ↔ x = Path.here) ∧ parts x = [part] ∧
      ∀ rest, parts (x ++ Path.slash :: rest) =
        part :: (Text.pieces Path.slash rest).filterMap Part.ofPiece? := by
  have hrelative : ∀ rest, isAbsolute (x ++ rest) = false := by
    intro rest
    obtain ⟨c, x', rfl⟩ := List.exists_cons_of_ne_nil hne
    rw [List.mem_cons, not_or] at hx
    simpa [isAbsolute] using Ne.symm hx.1
  have hhere := hrelative []
  rw [List.append_nil] at hhere
  have hparts : parts x = (if x = Path.here then [.current] else []) ++
      [x].filterMap Part.ofPiece? := by
    simp [parts, hhere, Text.pieces_of_not_mem hx]
  have hlonger : ∀ rest, parts (x ++ Path.slash :: rest) =
      (if x = Path.here then [.current] else []) ++
        (x :: Text.pieces Path.slash rest).filterMap Part.ofPiece? := by
    intro rest
    simp [parts, hrelative, Text.pieces_append hx]
  by_cases hdot : x = Path.here
  · subst hdot
    exact ⟨.current, rfl, by simp, hparts, hlonger⟩
  · by_cases habove : x = Path.above
    · subst habove
      exact ⟨.parent, rfl, by simp, hparts, hlonger⟩
    · have hpiece : Part.ofPiece? x = some (.name x) := by
        simp [Part.ofPiece?, hne, hdot, habove]
      refine ⟨.name x, rfl, by simp [hdot], ?_, fun rest => ?_⟩
      · rw [hparts, if_neg hdot, List.nil_append, List.filterMap_cons_some hpiece,
          List.filterMap_nil]
      · rw [hlonger, if_neg hdot, List.nil_append, List.filterMap_cons_some hpiece]

/-- Nothing counts of a text exactly when its pieces are empty or `.`. -/
lemma filterMap_ofPiece?_eq_nil_iff {rest : Path} :
    (Text.pieces Path.slash rest).filterMap Part.ofPiece? = [] ↔
      ∀ piece ∈ Text.pieces Path.slash rest, piece = [] ∨ piece = Path.here := by
  rw [List.filterMap_eq_nil_iff]
  refine forall₂_congr fun piece _ => ?_
  unfold Part.ofPiece?
  split
  · next h => simpa using h
  · next h =>
    split
    · simpa using h
    · simpa using h

end Path

/-! ## What a path leads to -/

namespace FileSystem

variable {fs : FileSystem} {base r : RealPath} {p : Path}

/-- An absolute path leads to the same place from everywhere. -/
lemma locate_eq_of_isAbsolute (h : Path.isAbsolute p = true) (base base' : RealPath) :
    fs.locate base p = fs.locate base' p := by
  simp only [locate, h, if_true]

/-- Paths that lead to the same place lead to the same file. -/
lemma isFile_eq_of_locate_eq {base' : RealPath} {q : Path}
    (h : fs.locate base p = fs.locate base' q) : fs.isFile base p = fs.isFile base' q := by
  simp only [isFile, find?, h]

/-- An absolute path leads to a file from everywhere, or from nowhere. -/
lemma isFile_eq_of_isAbsolute (h : Path.isAbsolute p = true) (base base' : RealPath) :
    fs.isFile base p = fs.isFile base' p :=
  isFile_eq_of_locate_eq (locate_eq_of_isAbsolute h base base')

/-- The empty path leads to no file. -/
lemma ne_nil_of_isFile (h : fs.isFile base p = true) : p ≠ [] := by
  rintro rfl
  cases h

/-- There is a directory at the end of a real path of directories. -/
lemma IsRealDirectory.node?_eq (h : IsRealDirectory fs r) : fs.node? r = some .directory := by
  cases h with
  | root => rfl
  | child hdir hname hnode => exact hnode

/-- A path that ends with a separator, or with a step `.` after one, has `.` for its last step. -/
lemma getLast?_steps {before : Path}
    (h : p = before ++ [Path.slash] ∨ p = before ++ [Path.slash, Path.dot]) :
    (steps p).getLast? = some Path.here := by
  rcases h with rfl | rfl
  · simp [steps]
  · have hpieces : Text.pieces Path.slash (before ++ [Path.slash, Path.dot]) =
        Text.pieces Path.slash before ++ [Path.here] :=
      Text.pieces_append_cons Path.slash before Path.here
    simp [steps, hpieces]

/-- An absolute path that ends with a separator, or with a step `.` after one, leads to no file. -/
lemma isFile_eq_false_of_end (before : Path) (habsolute : Path.isAbsolute p = true)
    (h : p = before ++ [Path.slash] ∨ p = before ++ [Path.slash, Path.dot]) :
    fs.isFile base p = false := by
  cases hlocate : fs.locate base p with
  | error e => simp [isFile, find?, hlocate]
  | ok r =>
    have hwalk : fs.walk linkLimit [] (steps p) = .ok r := by
      rw [← locate_of_isUsable (isUsable_of_locate hlocate) habsolute, hlocate]
    have hreal : IsRealDirectory fs r :=
      walk_isRealDirectory .root (fun name => isStep_of_mem_steps) (getLast?_steps h) hwalk
    simp [isFile, find?, hlocate, hreal.node?_eq]

/-- A path taken from a directory that is written down has the names of the directory before its
steps. -/
lemma steps_join_pathTo (hr : ∀ name ∈ r, IsStep name) (hne : p ≠ [])
    (hrelative : Path.isAbsolute p = false) : steps (Path.join (pathTo r) p) = r ++ steps p := by
  obtain ⟨before, hjoin, hbefore⟩ : ∃ before, Path.join (pathTo r) p = before ++ Path.slash :: p ∧
      (Text.pieces Path.slash before).filter (· ≠ []) = r := by
    by_cases hnil : r = []
    · refine ⟨[], ?_, by simp [hnil, Text.pieces]⟩
      simp [Path.join, hrelative, hnil, pathTo, Text.joinWith]
    · refine ⟨pathTo r, ?_, ?_⟩
      · rw [Path.join, if_neg (by simp [hrelative]), if_neg (pathTo_ne_nil r),
          if_neg (getLast?_pathTo hnil hr)]
      · have hsteps := steps_pathTo hnil hr
        rwa [steps, if_neg (getLast?_pathTo hnil hr)] at hsteps
  have hlast : (before ++ Path.slash :: p).getLast? = p.getLast? := by
    obtain ⟨c, rest, rfl⟩ := List.exists_cons_of_ne_nil hne
    rw [List.getLast?_append, List.getLast?_cons_cons, List.getLast?_cons, Option.some_or]
  simp only [steps, hjoin, hlast, Text.pieces_append_cons, List.filter_append, hbefore]
  split
  · rw [List.append_assoc]
  · rfl

/-- A path leads to the same place from a directory, and from anywhere if it is joined to that
directory. -/
lemma locate_join_pathTo (hbase : IsRealDirectory fs base) (hne : p ≠ [])
    (hrelative : Path.isAbsolute p = false) (husable : IsUsable (Path.join (pathTo base) p))
    (here : RealPath) : fs.locate here (Path.join (pathTo base) p) = fs.locate base p := by
  have habsolute : Path.isAbsolute (Path.join (pathTo base) p) = true :=
    Path.isAbsolute_join hrelative
  obtain ⟨before, hjoin⟩ := Path.exists_join_eq (pathTo_ne_nil base) hrelative
  have hzero : ¬ p.contains 0 = true := by
    have hnone := husable.no_zero
    simp only [hjoin, List.mem_append, List.mem_cons, not_or] at hnone
    simpa using hnone.2.2
  have hlength : ¬ pathLimit ≤ p.length := by
    have hlt := husable.length_lt
    rw [hjoin, List.length_append, List.length_cons] at hlt
    omega
  have hstep : ∀ name ∈ base, IsStep name := fun name hname => (hbase.isName name hname).isStep
  rw [locate_of_isUsable husable habsolute, steps_join_pathTo hstep hne hrelative,
    walk_append hbase, locate, if_neg hzero, if_neg hne, if_neg hlength,
    if_neg (by simp [hrelative])]

end FileSystem

/-! ## The rules -/

namespace World

variable {w : World} {search directory name p x : Path}

/-- The rules by which a name stands for the path of a program.  An absolute path stands for itself,
a path with a separator is taken from the directory, and a name without one from the first entry of
the search path that has such a file. -/
inductive Resolves (w : World) (search directory : Path) : Path → Path → Prop
  | absolute {name : Path} (habsolute : Path.isAbsolute name = true)
      (hfile : w.files.isFile w.base name = true) : Resolves w search directory name name
  | relative {name : Path} (hrelative : Path.isAbsolute name = false)
      (hseparator : Path.slash ∈ name)
      (hfile : w.files.isFile w.base (Path.join directory name) = true) :
      Resolves w search directory name (Path.join directory name)
  | searched {name : Path} (hne : name ≠ []) (hseparator : Path.slash ∉ name)
      {before after : List Path} {entry : Path}
      (hentries : Path.searchEntries search = before ++ entry :: after)
      (hbefore : ∀ other ∈ before, w.files.isFile w.base (Path.join other name) = false)
      (hfile : w.files.isFile w.base (Path.join entry name) = true) :
      Resolves w search directory name (Path.join entry name)

/-- A path is found if it leads to a file. -/
lemma fileAt?_eq_some_iff {q : Path} :
    w.fileAt? q = some p ↔ p = q ∧ w.files.isFile w.base q = true := by
  unfold fileAt?
  split
  · next h => simp [h, eq_comm]
  · next h => simp [h]

/-- A path is not found if it leads to no file. -/
lemma fileAt?_eq_none_iff {q : Path} :
    w.fileAt? q = none ↔ w.files.isFile w.base q = false := by
  simp [fileAt?]

/-- The search finds what the rule for names without separators says. -/
lemma searchProgram?_eq_some_iff (hne : x ≠ []) (hx : Path.slash ∉ x) :
    w.searchProgram? search x = some p ↔ w.Resolves search directory x p := by
  rw [searchProgram?, List.findSome?_eq_some_iff]
  constructor
  · rintro ⟨before, entry, after, hentries, hfound, hbefore⟩
    obtain ⟨rfl, hfile⟩ := fileAt?_eq_some_iff.mp hfound
    exact .searched hne hx hentries
      (fun other hother => fileAt?_eq_none_iff.mp (hbefore other hother)) hfile
  · intro h
    cases h with
    | absolute habsolute hfile =>
      rw [Path.isAbsolute_of_not_mem hx] at habsolute
      cases habsolute
    | relative hrelative hseparator hfile => exact absurd hseparator hx
    | searched _ _ hentries hbefore hfile =>
      exact ⟨_, _, _, hentries, fileAt?_eq_some_iff.mpr ⟨rfl, hfile⟩,
        fun other hother => fileAt?_eq_none_iff.mpr (hbefore other hother)⟩

/-! ## The lookup -/

/-- No file has a path that ends with a separator or a step `.`, taken from an absolute
directory. -/
lemma fileAt?_join_eq_none (hdirectory : Path.isAbsolute directory = true)
    (hname : Path.isAbsolute name = false)
    (hend : name = Path.here ∨ ∃ before,
      name = before ++ [Path.slash] ∨ name = before ++ [Path.slash, Path.dot]) :
    w.fileAt? (Path.join directory name) = none := by
  have hne : directory ≠ [] := by
    rintro rfl
    cases hdirectory
  obtain ⟨front, hjoin⟩ := Path.exists_join_eq hne hname
  have habsolute : Path.isAbsolute (Path.join directory name) = true := by
    rw [Path.isAbsolute_join hname, hdirectory]
  rw [fileAt?_eq_none_iff]
  rcases hend with rfl | ⟨before, rfl | rfl⟩
  · exact FileSystem.isFile_eq_false_of_end front habsolute (.inr hjoin)
  · refine FileSystem.isFile_eq_false_of_end (front ++ Path.slash :: before) habsolute (.inl ?_)
    rw [hjoin]
    simp
  · refine FileSystem.isFile_eq_false_of_end (front ++ Path.slash :: before) habsolute (.inr ?_)
    rw [hjoin]
    simp

/-- An absolute path is looked up as it is. -/
lemma findProgram?_of_isAbsolute (h : Path.isAbsolute name = true) :
    w.findProgram? search directory name = w.fileAt? name := by
  simp only [findProgram?, h, if_true]

/-- A name of one part is looked for along the search path. -/
lemma findProgram?_of_parts_eq {part : Path.Part} (hdirectory : Path.isAbsolute directory = true)
    (hname : Path.isAbsolute name = false) (hparts : Path.parts name = [part])
    (hend : part = .current →
      name = Path.here ∨ ∃ before,
        name = before ++ [Path.slash] ∨ name = before ++ [Path.slash, Path.dot]) :
    w.findProgram? search directory name = w.searchProgram? search part.bytes := by
  simp only [findProgram?, hname, Bool.false_eq_true, if_false, hparts, List.head?_cons,
    Option.some.injEq]
  split
  · next hcurrent => rw [fileAt?_join_eq_none hdirectory hname (hend hcurrent), Option.none_or]
  · rfl

/-- A path of several parts is taken from the directory. -/
lemma findProgram?_of_several_parts {part other : Path.Part} {parts : List Path.Part}
    (hname : Path.isAbsolute name = false) (hparts : Path.parts name = part :: other :: parts) :
    w.findProgram? search directory name = w.fileAt? (Path.join directory name) := by
  simp only [findProgram?, hname, Bool.false_eq_true, if_false, hparts]
  split
  · -- After a step `.` the same path is tested twice.
    exact Option.or_self
  · rfl

/-- A name without separators is looked for along the search path. -/
lemma findProgram?_of_not_mem (hdirectory : Path.isAbsolute directory = true) (hne : x ≠ [])
    (hx : Path.slash ∉ x) :
    w.findProgram? search directory x = w.searchProgram? search x := by
  obtain ⟨part, rfl, hcurrent, hparts, -⟩ := Path.exists_part_of_not_mem hne hx
  exact findProgram?_of_parts_eq hdirectory (Path.isAbsolute_of_not_mem hx) hparts
    fun h => .inl (hcurrent.mp h)

/-- A path with a separator that is not absolute has a first piece, and a rest. -/
lemma exists_first_piece (hname : Path.isAbsolute name = false) (hseparator : Path.slash ∈ name) :
    ∃ x rest, x ≠ [] ∧ Path.slash ∉ x ∧ name = x ++ Path.slash :: rest := by
  obtain ⟨x, rest, rfl, hx⟩ := List.eq_append_cons_of_mem hseparator
  refine ⟨x, rest, ?_, hx, rfl⟩
  rintro rfl
  cases hname

/-- A trailed name is looked for along the search path, as if nothing stood after its first part. -/
lemma findProgram?_of_isTrailed (hdirectory : Path.isAbsolute directory = true)
    (h : Path.IsTrailed x name) :
    w.findProgram? search directory name = w.searchProgram? search x := by
  obtain ⟨rest, hname, hrest⟩ := h.exists_rest
  obtain ⟨part, rfl, -, -, hparts⟩ := Path.exists_part_of_not_mem h.ne_nil h.no_separator
  refine findProgram?_of_parts_eq hdirectory h.isAbsolute_eq_false ?_ fun _ => .inr h.exists_end
  rw [hname, hparts, Path.filterMap_ofPiece?_eq_nil_iff.mpr hrest]

/-- Any other path with a separator is taken from the directory. -/
lemma findProgram?_of_not_isTrailed (hname : Path.isAbsolute name = false)
    (hseparator : Path.slash ∈ name) (h : ¬ ∃ x, Path.IsTrailed x name) :
    w.findProgram? search directory name = w.fileAt? (Path.join directory name) := by
  obtain ⟨x, rest, hne, hx, rfl⟩ := exists_first_piece hname hseparator
  obtain ⟨part, -, -, -, hparts⟩ := Path.exists_part_of_not_mem hne hx
  -- What comes after the first piece has a part in it, or else the name is trailed.
  cases hothers : (Text.pieces Path.slash rest).filterMap Path.Part.ofPiece? with
  | nil =>
    have hrest := Path.filterMap_ofPiece?_eq_nil_iff.mp hothers
    exact absurd ⟨x, hne, hx, rest, rfl, hrest⟩ h
  | cons other others =>
    exact findProgram?_of_several_parts hname ((hparts rest).trans (by rw [hothers]))

/-- Names that are not trailed are found by the rules. -/
lemma findProgram?_eq_some_iff (hdirectory : Path.isAbsolute directory = true)
    (h : ¬ ∃ x, Path.IsTrailed x name) :
    w.findProgram? search directory name = some p ↔ w.Resolves search directory name p := by
  by_cases hname : Path.isAbsolute name = true
  · rw [findProgram?_of_isAbsolute hname, fileAt?_eq_some_iff]
    constructor
    · rintro ⟨rfl, hfile⟩
      exact .absolute hname hfile
    · intro hresolves
      cases hresolves with
      | absolute _ hfile => exact ⟨rfl, hfile⟩
      | relative hrelative => exact absurd hname (by simp [hrelative])
      | searched _ hseparator =>
        exact absurd hname (by simp [Path.isAbsolute_of_not_mem hseparator])
  rw [Bool.not_eq_true] at hname
  by_cases hseparator : Path.slash ∈ name
  · rw [findProgram?_of_not_isTrailed hname hseparator h, fileAt?_eq_some_iff]
    constructor
    · rintro ⟨rfl, hfile⟩
      exact .relative hname hseparator hfile
    · intro hresolves
      cases hresolves with
      | absolute habsolute => exact absurd habsolute (by simp [hname])
      | relative _ _ hfile => exact ⟨rfl, hfile⟩
      | searched _ hnone => exact absurd hseparator hnone
  · by_cases hne : name = []
    · subst hne
      refine iff_of_false (by simp [findProgram?, Path.isAbsolute, Path.parts, Text.pieces,
        Path.Part.ofPiece?]) ?_
      intro hresolves
      cases hresolves with
      | absolute habsolute => cases habsolute
      | relative _ hmem => cases hmem
      | searched hne => exact hne rfl
    · rw [findProgram?_of_not_mem hdirectory hne hseparator,
        searchProgram?_eq_some_iff hne hseparator]

/-- A trailed name is found where the name without its ending is. -/
lemma findProgram?_eq_some_iff_of_isTrailed (hdirectory : Path.isAbsolute directory = true)
    (h : Path.IsTrailed x name) :
    w.findProgram? search directory name = some p ↔ w.Resolves search directory x p := by
  rw [findProgram?_of_isTrailed hdirectory h, searchProgram?_eq_some_iff h.ne_nil h.no_separator]

/-- By the rules a trailed name stands for no program. -/
lemma not_resolves_of_isTrailed (hdirectory : Path.isAbsolute directory = true)
    (h : Path.IsTrailed x name) : ¬ w.Resolves search directory name p := by
  have hname := h.isAbsolute_eq_false
  have hnone : w.fileAt? (Path.join directory name) = none :=
    fileAt?_join_eq_none hdirectory hname (.inr h.exists_end)
  intro hresolves
  cases hresolves with
  | absolute habsolute => exact absurd habsolute (by simp [hname])
  | relative _ _ hfile => simp [fileAt?_eq_none_iff.mp hnone] at hfile
  | searched _ hnot =>
    obtain ⟨rest, rfl, -⟩ := h.exists_rest
    exact hnot (by simp)

/-- The program of a name is found by the rules, unless the name is trailed.  A trailed name stands
for no program by the rules, but is found along the search path if the name without its ending
is. -/
theorem findProgram?_follows_rules (w : World) (search : Path) {directory : Path}
    (hdirectory : Path.isAbsolute directory = true) (name : Path) :
    ((¬ ∃ x, Path.IsTrailed x name) → ∀ p,
      w.findProgram? search directory name = some p ↔ w.Resolves search directory name p) ∧
    ∀ x, Path.IsTrailed x name → ∀ p,
      (w.findProgram? search directory name = some p ↔ w.Resolves search directory x p) ∧
        ¬ w.Resolves search directory name p := by
  refine ⟨fun h p => findProgram?_eq_some_iff hdirectory h, fun x h p => ⟨?_, ?_⟩⟩
  · exact findProgram?_eq_some_iff_of_isTrailed hdirectory h
  · exact not_resolves_of_isTrailed hdirectory h

/-- A directory with one program in it, and the root as the directory the shell was started in. -/
def toolWorld : World :=
  .ofFiles ⟨[([.ofString "bin"], .directory), ([.ofString "bin", .ofString "tool"], .file [] true)]⟩

/-- A path that is not trailed is taken from the directory, whatever the search path says. -/
theorem findProgram?_follows_rules_relative :
    toolWorld.findProgram? (.ofString "/nowhere") (.ofString "/bin/..")
        (.ofString "./bin//tool") = some (.ofString "/bin/.././bin//tool") ∧
      toolWorld.Resolves (.ofString "/nowhere") (.ofString "/bin/..") (.ofString "./bin//tool")
        (.ofString "/bin/.././bin//tool") := by
  have hlast : (Path.ofString "./bin//tool").getLast? = some 108 := rfl
  have htrailed : ¬ ∃ x, Path.IsTrailed x (.ofString "./bin//tool") := by
    rintro ⟨x, h⟩
    obtain ⟨before, hend | hend⟩ := h.exists_end
    · rw [hend, List.getLast?_append] at hlast
      cases hlast
    · rw [hend, List.getLast?_append] at hlast
      cases hlast
  have hfound : toolWorld.findProgram? (.ofString "/nowhere") (.ofString "/bin/..")
      (.ofString "./bin//tool") = some (.ofString "/bin/.././bin//tool") := rfl
  have habsolute : Path.isAbsolute (.ofString "/bin/..") = true := rfl
  have hrules := findProgram?_follows_rules toolWorld (.ofString "/nowhere") habsolute
    (.ofString "./bin//tool")
  exact ⟨hfound, (hrules.1 htrailed _).mp hfound⟩

/-- A name with a separator after it is taken for the name, and found along the search path. -/
theorem findProgram?_finds_trailed_name :
    toolWorld.findProgram? (.ofString "/bin") Path.root (.ofString "tool/") =
        some (.ofString "/bin/tool") ∧
      toolWorld.files.isFile toolWorld.base (Path.join Path.root (.ofString "tool/")) = false ∧
      ∀ p, ¬ toolWorld.Resolves (.ofString "/bin") Path.root (.ofString "tool/") p := by
  have htrailed : Path.IsTrailed (.ofString "tool") (.ofString "tool/") :=
    ⟨by decide, by decide, [], rfl, by decide⟩
  exact ⟨rfl, rfl, fun p => not_resolves_of_isTrailed rfl htrailed⟩

/-! ## Where the program is found -/

/-- What stands for a name is a file. -/
lemma Resolves.isFile (h : w.Resolves search directory name p) :
    w.files.isFile w.base p = true := by
  cases h with
  | absolute _ hfile => exact hfile
  | relative _ _ hfile => exact hfile
  | searched _ _ _ _ hfile => exact hfile

/-- What stands for a name is absolute, unless it comes from an entry of the search path that is
not. -/
lemma Resolves.isAbsolute_or (hdirectory : Path.isAbsolute directory = true)
    (h : w.Resolves search directory name p) :
    Path.isAbsolute p = true ∨ ∃ entry ∈ Path.searchEntries search,
      Path.isAbsolute entry = false ∧ ∃ x, Path.slash ∉ x ∧ p = Path.join entry x := by
  cases h with
  | absolute habsolute => exact .inl habsolute
  | relative hrelative => exact .inl ((Path.isAbsolute_join hrelative).trans hdirectory)
  | @searched _ hseparator before after entry hentries =>
    have hjoin : Path.isAbsolute (Path.join entry name) = Path.isAbsolute entry :=
      Path.isAbsolute_join (Path.isAbsolute_of_not_mem hseparator)
    cases hentry : Path.isAbsolute entry with
    | true => exact .inl (hjoin.trans hentry)
    | false =>
      have hmem : entry ∈ Path.searchEntries search := by simp [hentries]
      exact .inr ⟨entry, hmem, hentry, name, hseparator, rfl⟩

/-- What is found stands for the name, or for the name without its ending. -/
lemma exists_resolves_of_findProgram? (hdirectory : Path.isAbsolute directory = true)
    (h : w.findProgram? search directory name = some p) :
    ∃ x, w.Resolves search directory x p := by
  by_cases htrailed : ∃ x, Path.IsTrailed x name
  · obtain ⟨x, hx⟩ := htrailed
    exact ⟨x, (findProgram?_eq_some_iff_of_isTrailed hdirectory hx).mp h⟩
  · exact ⟨name, (findProgram?_eq_some_iff hdirectory htrailed).mp h⟩

/-- An absolute path is found from everywhere or from nowhere. -/
lemma fileAt?_of_isAbsolute (h : Path.isAbsolute p = true) (here : RealPath) :
    ({ w with base := here } : World).fileAt? p = w.fileAt? p := by
  simp only [fileAt?, FileSystem.isFile_eq_of_isAbsolute h here w.base]

/-- A search along absolute entries does not depend on where the shell was started. -/
lemma searchProgram?_of_isAbsolute
    (hsearch : ∀ entry ∈ Path.searchEntries search, Path.isAbsolute entry = true)
    (hx : Path.slash ∉ x) (here : RealPath) :
    ({ w with base := here } : World).searchProgram? search x = w.searchProgram? search x := by
  unfold searchProgram?
  generalize Path.searchEntries search = entries at hsearch
  induction entries with
  | nil => rfl
  | cons entry entries ih =>
    obtain ⟨hentry, hentries⟩ := List.forall_mem_cons.mp hsearch
    have habsolute : Path.isAbsolute (Path.join entry x) = true :=
      (Path.isAbsolute_join (Path.isAbsolute_of_not_mem hx)).trans hentry
    rw [List.findSome?_cons, List.findSome?_cons, fileAt?_of_isAbsolute habsolute, ih hentries]

/-- A lookup along absolute entries does not depend on where the shell was started. -/
lemma findProgram?_of_searchEntries (hdirectory : Path.isAbsolute directory = true)
    (hsearch : ∀ entry ∈ Path.searchEntries search, Path.isAbsolute entry = true)
    (name : Path) (here : RealPath) :
    ({ w with base := here } : World).findProgram? search directory name =
      w.findProgram? search directory name := by
  by_cases hname : Path.isAbsolute name = true
  · rw [findProgram?_of_isAbsolute hname, findProgram?_of_isAbsolute hname,
      fileAt?_of_isAbsolute hname]
  rw [Bool.not_eq_true] at hname
  by_cases htrailed : ∃ x, Path.IsTrailed x name
  · obtain ⟨x, hx⟩ := htrailed
    rw [findProgram?_of_isTrailed hdirectory hx, findProgram?_of_isTrailed hdirectory hx,
      searchProgram?_of_isAbsolute hsearch hx.no_separator]
  by_cases hseparator : Path.slash ∈ name
  · rw [findProgram?_of_not_isTrailed hname hseparator htrailed,
      findProgram?_of_not_isTrailed hname hseparator htrailed,
      fileAt?_of_isAbsolute ((Path.isAbsolute_join hname).trans hdirectory)]
  by_cases hne : name = []
  · rw [hne]
    rfl
  · rw [findProgram?_of_not_mem hdirectory hne hseparator,
      findProgram?_of_not_mem hdirectory hne hseparator,
      searchProgram?_of_isAbsolute hsearch hseparator]

/-- The program that is found is the one that a child in the directory of the session runs, if its
path is absolute: from every place the path leads to the file that was tested.  Only an entry of the
search path that is not absolute gives a path that is not, which was tested from where the shell was
started; without such entries the lookup does not depend on that place.  While the session is still
in the directory where the shell was started, a path that is not absolute is the right one too. -/
theorem findProgram?_leads_from_session (w : World) (search : Path) {directory : Path}
    (hdirectory : Path.isAbsolute directory = true) (name : Path) :
    (∀ p, w.findProgram? search directory name = some p → Path.isAbsolute p = true →
      Path.join directory p = p ∧ ∀ here : RealPath,
        w.files.isFile here (Path.join directory p) = true ∧
        w.files.locate here p = w.files.locate w.base p) ∧
    (∀ p, w.findProgram? search directory name = some p → Path.isAbsolute p = false →
      w.files.isFile w.base p = true ∧ ∃ entry ∈ Path.searchEntries search,
        Path.isAbsolute entry = false ∧ ∃ x, Path.slash ∉ x ∧ p = Path.join entry x) ∧
    ((∀ entry ∈ Path.searchEntries search, Path.isAbsolute entry = true) → ∀ here : RealPath,
      ({ w with base := here } : World).findProgram? search directory name =
        w.findProgram? search directory name) ∧
    (directory = FileSystem.pathTo w.base → w.files.IsRealDirectory w.base →
      ∀ p, w.findProgram? search directory name = some p → Path.isAbsolute p = false →
        FileSystem.IsUsable (Path.join directory p) → ∀ here : RealPath,
          w.files.isFile here (Path.join directory p) = true ∧
          w.files.locate here (Path.join directory p) = w.files.locate w.base p) := by
  refine ⟨fun p hp habsolute => ?_, fun p hp hrelative => ?_, fun hsearch here => ?_, ?_⟩
  · obtain ⟨x, hx⟩ := exists_resolves_of_findProgram? hdirectory hp
    have hjoin := Path.join_of_isAbsolute habsolute directory
    refine ⟨hjoin, fun here => ⟨?_, FileSystem.locate_eq_of_isAbsolute habsolute _ _⟩⟩
    rw [hjoin, FileSystem.isFile_eq_of_isAbsolute habsolute here w.base, hx.isFile]
  · obtain ⟨x, hx⟩ := exists_resolves_of_findProgram? hdirectory hp
    refine ⟨hx.isFile, (hx.isAbsolute_or hdirectory).resolve_left ?_⟩
    rw [hrelative]
    exact Bool.false_ne_true
  · exact findProgram?_of_searchEntries hdirectory hsearch name here
  · rintro rfl hbase p hp hrelative husable here
    obtain ⟨x, hx⟩ := exists_resolves_of_findProgram? hdirectory hp
    have hne : p ≠ [] := FileSystem.ne_nil_of_isFile hx.isFile
    have hlocate := FileSystem.locate_join_pathTo hbase hne hrelative husable here
    refine ⟨?_, hlocate⟩
    rw [FileSystem.isFile_eq_of_locate_eq hlocate, hx.isFile]

/-- A program that is taken from the directory of the session is found from every place, and so is
one that an entry of the search path leads to while the session is where the shell was started. -/
theorem findProgram?_leads_from_session_absolute :
    (toolWorld.findProgram? (.ofString "bin:/bin") (.ofString "/bin") (.ofString "./tool") =
        some (.ofString "/bin/./tool") ∧
      ∀ here : RealPath, toolWorld.files.isFile here
        (Path.join (.ofString "/bin") (.ofString "/bin/./tool")) = true) ∧
    toolWorld.findProgram? (.ofString "bin") Path.root (.ofString "tool") =
        some (.ofString "bin/tool") ∧
      ∀ here : RealPath, toolWorld.files.isFile here
        (Path.join Path.root (.ofString "bin/tool")) = true := by
  have hfound : toolWorld.findProgram? (.ofString "bin:/bin") (.ofString "/bin")
      (.ofString "./tool") = some (.ofString "/bin/./tool") := rfl
  have habsolute : Path.isAbsolute (.ofString "/bin") = true := rfl
  have hleads := findProgram?_leads_from_session toolWorld (.ofString "bin:/bin") habsolute
    (.ofString "./tool")
  have hstart : toolWorld.findProgram? (.ofString "bin") Path.root (.ofString "tool") =
      some (.ofString "bin/tool") := rfl
  have hroot : Path.isAbsolute Path.root = true := rfl
  have hrelative := findProgram?_leads_from_session toolWorld (.ofString "bin") hroot
    (.ofString "tool")
  have husable : FileSystem.IsUsable (Path.join Path.root (.ofString "bin/tool")) :=
    ⟨by decide, by decide⟩
  exact ⟨⟨hfound, fun here => ((hleads.1 _ hfound rfl).2 here).1⟩, hstart,
    fun here => (hrelative.2.2.2 rfl .root _ hstart rfl husable here).1⟩

/-- Where the shell was started in a directory that is not that of the session, an entry of the
search path that is not absolute leads to a program that the session does not have. -/
theorem findProgram?_finds_from_start :
    toolWorld.findProgram? (.ofString "bin") (.ofString "/home") (.ofString "tool") =
        some (.ofString "bin/tool") ∧
      toolWorld.files.isFile toolWorld.base
        (Path.join (.ofString "/home") (.ofString "bin/tool")) = false := by
  exact ⟨rfl, rfl⟩

end World

end CommandShell
