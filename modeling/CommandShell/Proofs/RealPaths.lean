import CommandShell.FileSystem
import Mathlib.Data.Nat.Notation
import Mathlib.Tactic.Lemma

/-!
# Real paths

Following a path ends in a real path: names from the root, none of which is a link, `.` or `..`.
`FileSystem.IsRealDirectory` and `FileSystem.IsReal` say so about a list of names, and
`FileSystem.walk_isReal` that every walk which starts in such a directory ends in such a place.

Written down, a real path is followed name by name, without meeting a link, and leads to where it
came from (`FileSystem.walk_append` and `FileSystem.locate_pathTo`).  So the canonical form of a
path is its own canonical form.
-/

namespace CommandShell

/-! ## The names along a path -/

namespace Text

variable {α : Type} [DecidableEq α] {separator : α} {a t : List α}

/-- There is always a first piece. -/
lemma pieces_ne_nil (separator : α) (t : List α) : pieces separator t ≠ [] := by
  cases t with
  | nil => exact List.cons_ne_nil _ _
  | cons c t =>
    unfold pieces
    split
    · exact List.cons_ne_nil _ _
    · split
      · exact List.cons_ne_nil _ _
      · exact List.cons_ne_nil _ _

/-- What is not the separator belongs to the first piece. -/
lemma pieces_cons_of_ne {c : α} (hc : c ≠ separator) {p : List α} {ps : List (List α)}
    (h : pieces separator t = p :: ps) : pieces separator (c :: t) = (c :: p) :: ps := by
  rw [pieces, if_neg hc, h]

/-- A separator ends a piece. -/
lemma pieces_append (ha : separator ∉ a) (t : List α) :
    pieces separator (a ++ separator :: t) = a :: pieces separator t := by
  induction a with
  | nil => rw [List.nil_append, pieces, if_pos rfl]
  | cons c a ih =>
    rw [List.mem_cons, not_or] at ha
    exact pieces_cons_of_ne (Ne.symm ha.1) (ih ha.2)

/-- Without the separator there is one piece. -/
lemma pieces_of_not_mem (ha : separator ∉ a) : pieces separator a = [a] := by
  induction a with
  | nil => rfl
  | cons c a ih =>
    rw [List.mem_cons, not_or] at ha
    exact pieces_cons_of_ne (Ne.symm ha.1) (ih ha.2)

/-- No piece holds the separator. -/
lemma not_mem_of_mem_pieces {p : List α} (h : p ∈ pieces separator t) : separator ∉ p := by
  induction t generalizing p with
  | nil =>
    rw [pieces, List.mem_singleton] at h
    rw [h]
    exact List.not_mem_nil
  | cons c t ih =>
    by_cases hc : c = separator
    · rw [pieces, if_pos hc] at h
      rcases List.mem_cons.mp h with rfl | h
      · exact List.not_mem_nil
      · exact ih h
    · obtain ⟨q, qs, hq⟩ := List.exists_cons_of_ne_nil (pieces_ne_nil separator t)
      rw [pieces_cons_of_ne hc hq] at h
      rcases List.mem_cons.mp h with rfl | h
      · rw [List.mem_cons, not_or]
        exact ⟨Ne.symm hc, ih (hq ▸ List.mem_cons_self ..)⟩
      · exact ih (hq ▸ List.mem_cons_of_mem q h)

/-- Pieces that are put together with separators are cut apart again. -/
lemma pieces_joinWith {ps : List (List α)} (hne : ps ≠ []) (hps : ∀ p ∈ ps, separator ∉ p) :
    pieces separator (joinWith [separator] ps) = ps := by
  induction ps with
  | nil => exact absurd rfl hne
  | cons p ps ih =>
    obtain ⟨hp, hps⟩ := List.forall_mem_cons.mp hps
    cases ps with
    | nil => exact pieces_of_not_mem hp
    | cons q ps =>
      have hrest := ih (List.cons_ne_nil q ps) hps
      rw [joinWith, List.append_assoc, List.singleton_append, pieces_append hp, hrest]

omit [DecidableEq α] in
/-- Texts that are put after others have a separator before them. -/
lemma joinWith_append (separator : List α) {ps qs : List (List α)} (hps : ps ≠ [])
    (hqs : qs ≠ []) :
    joinWith separator (ps ++ qs) =
      joinWith separator ps ++ separator ++ joinWith separator qs := by
  induction ps with
  | nil => exact absurd rfl hps
  | cons p ps ih =>
    cases ps with
    | nil =>
      obtain ⟨q, qs, rfl⟩ := List.exists_cons_of_ne_nil hqs
      rfl
    | cons p' ps =>
      have hrest := ih (List.cons_ne_nil p' ps)
      simp only [List.cons_append, joinWith, List.append_assoc] at hrest ⊢
      rw [hrest]

omit [DecidableEq α] in
/-- One more text is put after the others with a separator between. -/
lemma joinWith_concat (separator t : List α) {ps : List (List α)} (hne : ps ≠ []) :
    joinWith separator (ps ++ [t]) = joinWith separator ps ++ separator ++ t :=
  joinWith_append separator hne (List.cons_ne_nil t [])

end Text

namespace FileSystem

/-- A piece of a path that is a step: it is not empty and holds no separator. -/
def IsStep (name : Path) : Prop :=
  name ≠ [] ∧ Path.slash ∉ name

/-- A name that leads from a directory to something in it. -/
structure IsName (name : Path) : Prop where
  isStep : IsStep name
  ne_here : name ≠ Path.here
  ne_above : name ≠ Path.above
  length_le : name.length ≤ nameLimit

/-- All steps of a path are steps. -/
lemma isStep_of_mem_steps {p name : Path} (h : name ∈ steps p) : IsStep name := by
  have hpiece : ∀ {q : Path}, q ∈ (Text.pieces Path.slash p).filter (· ≠ []) → IsStep q := by
    intro q hq
    obtain ⟨hmem, hne⟩ := List.mem_filter.mp hq
    exact ⟨by simpa using hne, Text.not_mem_of_mem_pieces hmem⟩
  simp only [steps] at h
  split at h
  · rcases List.mem_append.mp h with h | h
    · exact hpiece h
    · rw [List.mem_singleton.mp h]
      exact ⟨by decide, by decide⟩
  · exact hpiece h

/-- A path that is written down is not empty. -/
lemma pathTo_ne_nil (r : RealPath) : pathTo r ≠ [] :=
  List.cons_ne_nil _ _

/-- A path that is written down ends with a separator only for the root. -/
lemma getLast?_pathTo {r : RealPath} (hne : r ≠ []) (hr : ∀ name ∈ r, IsStep name) :
    (pathTo r).getLast? ≠ some Path.slash := by
  obtain ⟨dir, name, rfl⟩ : ∃ dir name, r = dir ++ [name] :=
    ⟨r.dropLast, r.getLast hne, (List.dropLast_concat_getLast hne).symm⟩
  obtain ⟨hname, hslash⟩ := hr name (by simp)
  have hlast : (pathTo (dir ++ [name])).getLast? = name.getLast? := by
    obtain ⟨c, t, rfl⟩ := List.exists_cons_of_ne_nil hname
    by_cases hdir : dir = []
    · simp [pathTo, hdir, Text.joinWith, List.getLast?_cons_cons]
    · rw [pathTo, Text.joinWith_concat _ _ hdir, ← List.cons_append, List.getLast?_append]
      simp [List.getLast?_cons]
  rw [hlast]
  intro heq
  exact hslash (List.mem_of_getLast? heq)

/-- The steps of a path that is written down are its names. -/
lemma steps_pathTo {r : RealPath} (hne : r ≠ []) (hr : ∀ name ∈ r, IsStep name) :
    steps (pathTo r) = r := by
  have hpieces : Text.pieces Path.slash (pathTo r) = [] :: r := by
    rw [pathTo, Text.pieces, if_pos rfl,
      Text.pieces_joinWith hne fun name hname => (hr name hname).2]
  have hfilter : ([] :: r).filter (· ≠ []) = r := by
    rw [List.filter_cons_of_neg (by simp), List.filter_eq_self]
    intro name hname
    simpa using (hr name hname).1
  simp only [steps, hpieces, hfilter, if_neg (getLast?_pathTo hne hr)]

/-- A step that is taken from a path is written at its end. -/
lemma join_pathTo {r : RealPath} (hr : ∀ name ∈ r, IsStep name) {name : Path}
    (hname : IsStep name) : Path.join (pathTo r) name = pathTo (r ++ [name]) := by
  obtain ⟨hne, hslash⟩ := hname
  have hrelative : Path.isAbsolute name = false := by
    cases name with
    | nil => exact absurd rfl hne
    | cons c t =>
      rw [List.mem_cons, not_or] at hslash
      simpa [Path.isAbsolute] using Ne.symm hslash.1
  by_cases hnil : r = []
  · simp [Path.join, hrelative, hnil, pathTo, Text.joinWith]
  · rw [Path.join, if_neg (by simp [hrelative]), if_neg (pathTo_ne_nil r),
      if_neg (getLast?_pathTo hnil hr), pathTo, pathTo, Text.joinWith_concat _ _ hnil]
    simp

/-! ## Places without links -/

/-- The names lead from the root through directories only. -/
inductive IsRealDirectory (fs : FileSystem) : RealPath → Prop
  | root : IsRealDirectory fs []
  | child {dir : RealPath} {name : Path} (hdir : IsRealDirectory fs dir) (hname : IsName name)
      (hnode : fs.node? (dir ++ [name]) = some .directory) : IsRealDirectory fs (dir ++ [name])

/-- The names lead to a directory, or to a file or device in one. -/
inductive IsReal (fs : FileSystem) : RealPath → Prop
  | directory {r : RealPath} (h : IsRealDirectory fs r) : IsReal fs r
  | leaf {dir : RealPath} {name : Path} {node : Node} (hdir : IsRealDirectory fs dir)
      (hname : IsName name) (hnode : fs.node? (dir ++ [name]) = some node)
      (hdirectory : node ≠ .directory) (hlink : ∀ target, node ≠ .link target) :
      IsReal fs (dir ++ [name])

variable {fs : FileSystem} {base r : RealPath}

namespace IsRealDirectory

/-- The directory above a real one is real; above the root is the root. -/
lemma dropLast (h : IsRealDirectory fs r) : IsRealDirectory fs r.dropLast := by
  cases h with
  | root => exact .root
  | child hdir hname hnode => rwa [List.dropLast_concat]

/-- All names are names. -/
lemma isName (h : IsRealDirectory fs r) : ∀ name ∈ r, IsName name := by
  induction h with
  | root => exact fun name hname => absurd hname List.not_mem_nil
  | child hdir hname hnode ih =>
    intro other hother
    rcases List.mem_append.mp hother with h | h
    · exact ih other h
    · exact List.mem_singleton.mp h ▸ hname

end IsRealDirectory

/-- All names of a place are names. -/
lemma IsReal.isName (h : IsReal fs r) : ∀ name ∈ r, IsName name := by
  cases h with
  | directory h => exact h.isName
  | leaf hdir hname hnode hdirectory hlink =>
    intro other hother
    rcases List.mem_append.mp hother with h | h
    · exact hdir.isName other h
    · exact List.mem_singleton.mp h ▸ hname

/-- What stands at a place decides whether it is a directory. -/
lemma IsReal.isRealDirectory (h : IsReal fs r) (hnode : fs.node? r = some .directory) :
    IsRealDirectory fs r := by
  cases h with
  | directory h => exact h
  | leaf hdir hname hleaf hdirectory hlink =>
    rw [hleaf] at hnode
    exact absurd (Option.some.inj hnode) hdirectory

/-! ## Walks -/

section Walks

variable {missing follow : RealPath → List Path → Except FileError RealPath} {here : RealPath}
  {name : Path}

/-- At a directory, following names goes on. -/
lemma walkNames_cons_directory (hname : IsName name)
    (hnode : fs.node? (here ++ [name]) = some .directory) (rest : List Path) :
    fs.walkNames missing follow here (name :: rest) =
      fs.walkNames missing follow (here ++ [name]) rest := by
  rw [walkNames, if_neg hname.ne_here, if_neg hname.ne_above,
    if_neg (Nat.not_lt.mpr hname.length_le), hnode]

/-- At what is neither a directory nor a link, following names ends. -/
lemma walkNames_leaf {node : Node} (hname : IsName name)
    (hnode : fs.node? (here ++ [name]) = some node) (hdirectory : node ≠ .directory)
    (hlink : ∀ target, node ≠ .link target) :
    fs.walkNames missing follow here [name] = .ok (here ++ [name]) := by
  rw [walkNames, if_neg hname.ne_here, if_neg hname.ne_above,
    if_neg (Nat.not_lt.mpr hname.length_le), hnode]
  cases node with
  | directory => exact absurd rfl hdirectory
  | link target => exact absurd rfl (hlink target)
  | file bytes executable => rfl
  | void => rfl

/-- How names that are followed lead somewhere: through directories, to something else at the last
name, or to a link, from which `follow` goes on. -/
inductive Leads (fs : FileSystem) (follow : RealPath → List Path → Except FileError RealPath)
    (todo : List Path) (r : RealPath) : Prop
  | directory (h : IsRealDirectory fs r)
  | leaf {name : Path} (hlast : [name] <:+ todo) (hne : name ≠ Path.here) (h : IsReal fs r)
  | link {here : RealPath} {rest : List Path} {name target : Path} (hrest : name :: rest <:+ todo)
      (hne : name ≠ Path.here) (hhere : IsRealDirectory fs here)
      (h : follow (if Path.isAbsolute target then [] else here) (steps target ++ rest) = .ok r)

/-- One more name before the others leads to the same place. -/
lemma Leads.cons {todo : List Path} (h : fs.Leads follow todo r) (name : Path) :
    fs.Leads follow (name :: todo) r := by
  have hsuffix := List.suffix_cons name todo
  cases h with
  | directory h => exact .directory h
  | leaf hlast hne h => exact .leaf (hlast.trans hsuffix) hne h
  | link hrest hne hhere h => exact .link (hrest.trans hsuffix) hne hhere h

/-- Names that are followed from a directory to something that is there lead there. -/
lemma leads_of_walkNames {todo : List Path} (hhere : IsRealDirectory fs here)
    (htodo : ∀ name ∈ todo, IsStep name)
    (h : fs.walkNames (fun _ _ => .error .noEntry) follow here todo = .ok r) :
    fs.Leads follow todo r := by
  induction todo generalizing here with
  | nil =>
    rw [walkNames] at h
    exact Except.ok.inj h ▸ .directory hhere
  | cons name rest ih =>
    obtain ⟨hstep, hrest⟩ := List.forall_mem_cons.mp htodo
    rw [walkNames] at h
    split at h
    · exact (ih hhere hrest h).cons name
    split at h
    · exact (ih hhere.dropLast hrest h).cons name
    split at h
    · cases h
    next hdot habove hlength =>
    have hname : IsName name := ⟨hstep, hdot, habove, Nat.not_lt.mp hlength⟩
    split at h
    · cases h
    · next hnode => exact (ih (.child hhere hname hnode) hrest h).cons name
    · next target hnode => exact .link (List.suffix_refl _) hdot hhere h
    · next node hdirectory hlink hnode =>
      split at h
      · next hnil =>
        have hreal : IsReal fs (here ++ [name]) := .leaf hhere hname hnode hdirectory hlink
        exact .leaf (hnil ▸ List.suffix_refl _) hdot (Except.ok.inj h ▸ hreal)
      · cases h

/-- Without names a walk ends where it is. -/
@[simp] lemma walk_nil (links : ℕ) (here : RealPath) : fs.walk links here [] = .ok here := by
  cases links with
  | zero => rfl
  | succ links => rfl

/-- A step `.` leads nowhere. -/
@[simp] lemma walk_cons_here (links : ℕ) (here : RealPath) (rest : List Path) :
    fs.walk links here (Path.here :: rest) = fs.walk links here rest := by
  cases links with
  | zero => rfl
  | succ links => rfl

/-- A name that leads to a directory is one step of a walk. -/
lemma walk_cons_directory (hname : IsName name)
    (hnode : fs.node? (here ++ [name]) = some .directory) (links : ℕ) (rest : List Path) :
    fs.walk links here (name :: rest) = fs.walk links (here ++ [name]) rest := by
  cases links with
  | zero => exact walkNames_cons_directory hname hnode rest
  | succ links => exact walkNames_cons_directory hname hnode rest

/-- A name that leads to neither a directory nor a link ends a walk. -/
lemma walk_leaf {node : Node} (hname : IsName name)
    (hnode : fs.node? (here ++ [name]) = some node) (hdirectory : node ≠ .directory)
    (hlink : ∀ target, node ≠ .link target) (links : ℕ) :
    fs.walk links here [name] = .ok (here ++ [name]) := by
  cases links with
  | zero => exact walkNames_leaf hname hnode hdirectory hlink
  | succ links => exact walkNames_leaf hname hnode hdirectory hlink

/-- The names of a directory lead there, and the walk goes on from it. -/
lemma walk_append (h : IsRealDirectory fs r) (links : ℕ) (rest : List Path) :
    fs.walk links [] (r ++ rest) = fs.walk links r rest := by
  induction h generalizing rest with
  | root => rfl
  | child hdir hname hnode ih =>
    rw [List.append_assoc, List.singleton_append, ih, walk_cons_directory hname hnode]

/-- The names of a place lead there. -/
lemma walk_of_isReal (h : IsReal fs r) (links : ℕ) : fs.walk links [] r = .ok r := by
  cases h with
  | directory h =>
    have hwalk := walk_append h links []
    rwa [List.append_nil, walk_nil] at hwalk
  | leaf hdir hname hnode hdirectory hlink =>
    rw [walk_append hdir, walk_leaf hname hnode hdirectory hlink]

/-- What holds of names that lead through directories, or end in something else, holds of every
walk, if it passes from what stands after a link to the names before. -/
lemma walk_induction {motive : List Path → RealPath → Prop}
    (directory : ∀ {todo r}, IsRealDirectory fs r → motive todo r)
    (leaf : ∀ {todo r name}, [name] <:+ todo → name ≠ Path.here → IsReal fs r → motive todo r)
    (link : ∀ {todo r name rest target}, name :: rest <:+ todo → name ≠ Path.here →
      motive (steps target ++ rest) r → motive todo r)
    {links : ℕ} {todo : List Path} (hhere : IsRealDirectory fs here)
    (htodo : ∀ name ∈ todo, IsStep name) (h : fs.walk links here todo = .ok r) :
    motive todo r := by
  induction links generalizing here todo with
  | zero =>
    cases leads_of_walkNames hhere htodo h with
    | directory h => exact directory h
    | leaf hlast hne h => exact leaf hlast hne h
    | link _ _ _ h => cases h
  | succ links ih =>
    cases leads_of_walkNames hhere htodo h with
    | directory h => exact directory h
    | leaf hlast hne h => exact leaf hlast hne h
    | link hrest hne hhere h =>
      -- The walk goes on along the target, from the root or from the directory of the link.
      refine link hrest hne (ih ?_ ?_ h)
      · split
        · exact .root
        · exact hhere
      · intro other hother
        rcases List.mem_append.mp hother with hother | hother
        · exact isStep_of_mem_steps hother
        · exact htodo other (hrest.subset (List.mem_cons_of_mem _ hother))

/-- Every walk ends in a place without links. -/
lemma walk_isReal {links : ℕ} {todo : List Path} (hhere : IsRealDirectory fs here)
    (htodo : ∀ name ∈ todo, IsStep name) (h : fs.walk links here todo = .ok r) : IsReal fs r :=
  walk_induction (motive := fun _ r => IsReal fs r) .directory (fun _ _ h => h) (fun _ _ h => h)
    hhere htodo h

/-- A walk whose last step is `.` ends in a directory. -/
lemma walk_isRealDirectory {links : ℕ} {todo : List Path} (hhere : IsRealDirectory fs here)
    (htodo : ∀ name ∈ todo, IsStep name) (hlast : todo.getLast? = some Path.here)
    (h : fs.walk links here todo = .ok r) : IsRealDirectory fs r := by
  refine walk_induction (motive := fun todo r => todo.getLast? = some Path.here →
    IsRealDirectory fs r) (fun h _ => h) ?leaf ?link hhere htodo h hlast
  case leaf =>
    intro todo r name hsuffix hne _ hlast
    obtain ⟨before, rfl⟩ := hsuffix
    exact absurd (by simpa using hlast) hne
  case link =>
    -- The steps of the target come before the rest, which is not empty.
    intro todo r name rest target hsuffix hne ih hlast
    obtain ⟨before, rfl⟩ := hsuffix
    cases rest with
    | nil => exact absurd (by simpa using hlast) hne
    | cons other rest =>
      refine ih ?_
      rw [List.getLast?_append, List.getLast?_cons_cons, List.getLast?_cons,
        Option.some_or] at hlast
      rw [List.getLast?_append, List.getLast?_cons, Option.some_or, hlast]

end Walks

/-- Every path that leads somewhere leads to a place without links. -/
lemma locate_isReal {p : Path} (hbase : Path.isAbsolute p = true ∨ IsRealDirectory fs base)
    (h : fs.locate base p = .ok r) : IsReal fs r := by
  have hstart : IsRealDirectory fs (if Path.isAbsolute p then [] else base) := by
    split
    · exact .root
    · next hrelative => exact hbase.resolve_left hrelative
  simp only [locate] at h
  split at h
  · cases h
  split at h
  · cases h
  split at h
  · cases h
  · exact walk_isReal hstart (fun name => isStep_of_mem_steps) h

/-- A path is usable if it is shorter than the limit and holds no zero byte. -/
structure IsUsable (p : Path) : Prop where
  no_zero : 0 ∉ p
  length_lt : p.length < pathLimit

/-- A path that leads somewhere is usable. -/
lemma isUsable_of_locate {p : Path} (h : fs.locate base p = .ok r) : IsUsable p := by
  simp only [locate] at h
  split at h
  · cases h
  next hzero =>
  split at h
  · cases h
  split at h
  · cases h
  next hlength => exact ⟨by simpa using hzero, Nat.not_le.mp hlength⟩

/-- An absolute path that is usable is followed from the root. -/
lemma locate_of_isUsable {p : Path} (h : IsUsable p) (habsolute : Path.isAbsolute p = true) :
    fs.locate base p = fs.walk linkLimit [] (steps p) := by
  have hzero : ¬ p.contains 0 = true := by simpa using h.no_zero
  have hne : p ≠ [] := by
    rintro rfl
    cases habsolute
  rw [locate, if_neg hzero, if_neg hne, if_neg (Nat.not_le.mpr h.length_lt), if_pos habsolute]

/-- A real path that is written down leads to where it came from. -/
lemma locate_pathTo (h : IsReal fs r) (husable : IsUsable (pathTo r)) :
    fs.locate base (pathTo r) = .ok r := by
  rw [locate_of_isUsable husable rfl]
  by_cases hnil : r = []
  · subst hnil
    -- The root is written with a separator at its end, which is a step of its own.
    have hsteps : steps (pathTo []) = [Path.here] := by decide
    rw [hsteps, walk_cons_here, walk_nil]
  · rw [steps_pathTo hnil fun name hname => (h.isName name hname).isStep, walk_of_isReal h]

/-! ## Canonical directories -/

/-- A directory in its canonical form: an absolute path without links and steps `.` and `..`. -/
structure IsCanonicalDirectory (fs : FileSystem) (base : RealPath) (d : Path) : Prop where
  isAbsolute : Path.isAbsolute d = true
  isDirectory : fs.isDirectory base d = true
  canonical : fs.canonicalize base d = .ok d
  real : ∃ r, d = pathTo r ∧ fs.IsRealDirectory r

/-- The canonical form of a path is the place it leads to, written down.  A relative path has one
only while the directory that it is taken from is there. -/
lemma canonicalize_eq_ok_iff {p d : Path} :
    fs.canonicalize base p = .ok d ↔
      (Path.isAbsolute p = true ∨ fs.node? base = some .directory) ∧
        ∃ r, fs.locate base p = .ok r ∧ pathTo r = d := by
  rw [canonicalize]
  split
  · next hzero =>
    have hlocate : fs.locate base p = .error .zeroInPath := by rw [locate, if_pos hzero]
    simp [hlocate]
  split
  · next hgone =>
    have hstart : ¬ (Path.isAbsolute p = true ∨ fs.node? base = some .directory) := by
      simpa using hgone
    simp [hstart]
  · next hthere =>
    have hstart : Path.isAbsolute p = true ∨ fs.node? base = some .directory := by
      rwa [Decidable.not_and_iff_or_not, Bool.not_eq_false, Decidable.not_not] at hthere
    cases hlocate : fs.locate base p with
    | error e => simp [Except.map]
    | ok r => simp [Except.map, hstart]

/-- A path leads to a directory if there is one at the place it leads to. -/
lemma isDirectory_iff {p : Path} :
    fs.isDirectory base p = true ↔
      ∃ r, fs.locate base p = .ok r ∧ fs.node? r = some .directory := by
  simp only [isDirectory, find?]
  cases hlocate : fs.locate base p with
  | error e => simp
  | ok r =>
    cases hnode : fs.node? r with
    | none => simp [hnode]
    | some node => cases node <;> simp [hnode]

/-- The canonical form of a path that leads to a directory is canonical. -/
lemma isCanonicalDirectory_of_canonicalize {p d : Path}
    (hbase : Path.isAbsolute p = true ∨
      (fs.node? base = some .directory → IsRealDirectory fs base))
    (h : fs.canonicalize base p = .ok d) (hd : fs.isDirectory base d = true) :
    fs.IsCanonicalDirectory base d := by
  obtain ⟨hstart, r, hr, rfl⟩ := canonicalize_eq_ok_iff.mp h
  have hreal : IsReal fs r := by
    refine locate_isReal ?_ hr
    rcases hstart with habsolute | hthere
    · exact .inl habsolute
    · exact hbase.imp_right fun hbase => hbase hthere
  obtain ⟨r', hr', hnode⟩ := isDirectory_iff.mp hd
  have hlocate : fs.locate base (pathTo r) = .ok r :=
    locate_pathTo hreal (isUsable_of_locate hr')
  obtain rfl : r = r' := Except.ok.inj (hlocate.symm.trans hr')
  refine ⟨rfl, hd, ?_, r, rfl, hreal.isRealDirectory hnode⟩
  exact canonicalize_eq_ok_iff.mpr ⟨.inl rfl, r, hlocate, rfl⟩

/-- Joining adds at most a separator. -/
lemma mem_of_mem_join {d p : Path} {c : UInt8} (h : c ∈ Path.join d p) :
    c ∈ d ∨ c = Path.slash ∨ c ∈ p := by
  unfold Path.join at h
  split at h
  · exact .inr (.inr h)
  split at h
  · exact .inr (.inr h)
  split at h
  · exact (List.mem_append.mp h).imp_right .inr
  · simpa [List.mem_append, List.mem_cons] using h

/-- A canonical directory with a last step `.` leads to itself. -/
lemma IsCanonicalDirectory.canonicalize_join_here {d : Path} (h : fs.IsCanonicalDirectory base d)
    (hlength : (Path.join d Path.here).length < pathLimit) :
    fs.canonicalize base (Path.join d Path.here) = .ok d := by
  obtain ⟨r, rfl, hreal⟩ := h.real
  have hstep : ∀ name ∈ r, IsStep name := fun name hname => (hreal.isName name hname).isStep
  have hjoin : Path.join (pathTo r) Path.here = pathTo (r ++ [Path.here]) :=
    join_pathTo hstep ⟨by decide, by decide⟩
  have husable : IsUsable (Path.join (pathTo r) Path.here) := by
    refine ⟨fun hzero => ?_, hlength⟩
    obtain ⟨r', hr', -⟩ := isDirectory_iff.mp h.isDirectory
    rcases mem_of_mem_join hzero with hzero | hzero | hzero
    · exact (isUsable_of_locate hr').no_zero hzero
    · exact absurd hzero (by decide)
    · exact absurd hzero (by decide)
  have hsteps : steps (pathTo (r ++ [Path.here])) = r ++ [Path.here] := by
    refine steps_pathTo (List.append_ne_nil_of_right_ne_nil r (List.cons_ne_nil _ _)) ?_
    intro name hname
    rcases List.mem_append.mp hname with hname | hname
    · exact hstep name hname
    · exact List.mem_singleton.mp hname ▸ ⟨by decide, by decide⟩
  rw [hjoin] at husable ⊢
  refine canonicalize_eq_ok_iff.mpr ⟨.inl rfl, r, ?_, rfl⟩
  rw [locate_of_isUsable husable rfl, hsteps, walk_append hreal, walk_cons_here, walk_nil]

end FileSystem

end CommandShell
