import CommandShell.Proofs.Encoding
import CommandShell.Proofs.Failures
import CommandShell.Proofs.RealPaths
import Mathlib.Data.Char
import Mathlib.Data.List.Lex
import Mathlib.Data.List.Sort

/-!
# Listing directories in any order

A directory hands out its names in whatever order the system has them.  `ls` puts them into the
order of a dictionary before it prints them, so in two worlds with the same files, in which
directories are read in different orders (`World.SameFiles`), it prints the same; and it fails at
the same path with the same cause.

What is listed of a path is said by `World.Lists`: of a directory all names in it, strictly
ascending and hence each one once, and of anything else the path itself.  The lines that are printed
of several paths are `World.pageLines`: a heading and the names for each path, with one empty line
between each two.  An empty directory is printed as if it held one empty name, so one line too many
is empty after its heading unless the directory comes last (`World.page_filled_iff`).
-/

namespace CommandShell

/-! ## The order of a dictionary -/

namespace Text

/-- The first text comes before the second in a dictionary over scalar values. -/
def Precedes : Text → Text → Prop :=
  List.Lex fun c d => c.toNat < d.toNat

lemma precedes_iff {t u : Text} : Precedes t u ↔ t < u :=
  List.lex_lt

/-- Texts are compared by the first characters that differ. -/
lemma le_iff_not_lt {t u : Text} : le t u = true ↔ ¬ u < t := by
  induction t generalizing u with
  | nil => simp [le]
  | cons c t ih =>
    cases u with
    | nil => simp [le]
    | cons d u =>
      have hchar : c.toNat < d.toNat ↔ c < d := Iff.rfl
      rw [le, List.cons_lt_cons_iff]
      rcases lt_trichotomy c d with h | rfl | h
      · simp [h, h.ne, h.ne', h.not_gt, hchar]
      · simp [ih]
      · simp [h, h.ne', hchar, h.not_gt]

lemma le_iff {t u : Text} : le t u = true ↔ t ≤ u :=
  le_iff_not_lt.trans not_lt

end Text

namespace World

open Text

variable {ts us : List Text}

lemma insertText_eq (t : Text) (ts : List Text) : insertText t ts = ts.orderedInsert (· ≤ ·) t := by
  induction ts with
  | nil => rfl
  | cons u ts ih => simp only [insertText, List.orderedInsert_cons, Text.le_iff, ih]

lemma sortTexts_eq (ts : List Text) : sortTexts ts = ts.insertionSort (· ≤ ·) := by
  induction ts with
  | nil => rfl
  | cons t ts ih => rw [sortTexts, insertText_eq, ih, List.insertionSort_cons]

/-- Sorting moves texts and does nothing else. -/
lemma sortTexts_perm (ts : List Text) : (sortTexts ts).Perm ts :=
  sortTexts_eq ts ▸ List.perm_insertionSort _ ts

lemma pairwise_sortTexts (ts : List Text) : (sortTexts ts).Pairwise (· ≤ ·) :=
  sortTexts_eq ts ▸ List.pairwise_insertionSort _ ts

/-- The order that texts had before does not show after they were sorted. -/
lemma sortTexts_eq_of_perm (h : ts.Perm us) : sortTexts ts = sortTexts us := by
  have hperm : (sortTexts ts).Perm (sortTexts us) :=
    (sortTexts_perm ts).trans (h.trans (sortTexts_perm us).symm)
  exact hperm.eq_of_pairwise (fun _ _ _ _ => le_antisymm) (pairwise_sortTexts ts)
    (pairwise_sortTexts us)

/-- Different texts are strictly ascending after they were sorted. -/
lemma pairwise_precedes_sortTexts (h : ts.Nodup) : (sortTexts ts).Pairwise Precedes := by
  have hne : (sortTexts ts).Pairwise (· ≠ ·) := (sortTexts_perm ts).nodup_iff.mpr h
  have hprecedes : ∀ t u : Text, t ≤ u → t ≠ u → Precedes t u := by
    intro t u hle hne
    exact precedes_iff.mpr (lt_of_le_of_ne hle hne)
  exact (pairwise_sortTexts ts).imp₂ hprecedes hne

end World

/-! ## Directories that are read in any order -/

/-- Two readings of a directory hand out the same names, in whatever order, or fail alike. -/
inductive SameNames : Except FileError (List Path) → Except FileError (List Path) → Prop
  | names {ps qs : List Path} (h : ps.Perm qs) : SameNames (.ok ps) (.ok qs)
  | refused (e : FileError) : SameNames (.error e) (.error e)

/-- Two worlds have the same files, paths are followed from the same place, and directories hold the
same names.  These may be read in different orders, and programs may behave differently. -/
structure World.SameFiles (w w' : World) : Prop where
  files : w.files = w'.files
  base : w.base = w'.base
  directories : ∀ files dir, SameNames (w.readDirectory files dir) (w'.readDirectory files dir)

namespace World

variable {w w' : World} {env env' : Environment}

/-- Names are listed in the same order, whatever the order they were read in. -/
lemma listNames_eq {r r' : Except FileError (List Path)} (h : SameNames r r') (path : Text) :
    listNames path r = listNames path r' := by
  cases h with
  | names hperm => exact congrArg Except.ok (sortTexts_eq_of_perm (hperm.map Path.shown))
  | refused e => rfl

/-- What is listed of a path does not depend on the order in which directories are read. -/
lemma entries_eq (hw : w.SameFiles w') (hd : env.directory = env'.directory) (path : Text) :
    w.entries env path = w'.entries env' path := by
  have hnames := fun r => listNames_eq (hw.directories w'.files r) path
  simp only [entries, Environment.resolve, hw.files, hw.base, hd, hnames]

/-- A listing is made of what is listed of each path. -/
lemma listing_eq (hw : w.SameFiles w') (hd : env.directory = env'.directory) (paths : List Text) :
    w.listing env paths = w'.listing env' paths := by
  have hblocks : ∀ paths, w.listBlocks env paths = w'.listBlocks env' paths := by
    intro paths
    induction paths with
    | nil => rfl
    | cons path rest ih => rw [listBlocks, listBlocks, entries_eq hw hd, ih]
  unfold listing
  split
  · rw [entries_eq hw hd]
  · rw [entries_eq hw hd]
  · rw [hblocks]

end World

/-! ## What is listed of paths -/

/-- The path is a text. -/
def Path.IsText (p : Path) : Prop :=
  Path.ofText (Path.shown p) = p

instance : DecidablePred Path.IsText := fun p =>
  inferInstanceAs (Decidable (Path.ofText (Path.shown p) = p))

namespace World

variable {w w' : World} {env : Environment} {path : Text} {names : List Text}

/-- A directory that can be read hands out each name in it once, and no other. -/
def ReadsNames (w : World) : Prop :=
  ∀ r names, w.readDirectory w.files r = .ok names →
    names.Nodup ∧ ∀ name, name ∈ names ↔ (w.files.node? (r ++ [name])).isSome = true

/-- What is listed of a path: all names in a directory, ascending, or the path itself where it leads
to something else. -/
inductive Lists (w : World) (env : Environment) (path : Text) : List Text → Prop
  | directory {r : RealPath} {names : List Text}
      (hpath : w.files.locate w.base (env.resolve path) = .ok r)
      (hnode : w.files.node? r = some .directory) (hascending : names.Pairwise Text.Precedes)
      (hnames : ∀ t, t ∈ names ↔ (w.files.node? (r ++ [Path.ofText t])).isSome = true) :
      Lists w env path names
  | other {r : RealPath} {node : Node} (hpath : w.files.locate w.base (env.resolve path) = .ok r)
      (hnode : w.files.node? r = some node) (hother : node ≠ .directory) : Lists w env path [path]

/-- Names that are texts are listed as they are. -/
lemma mem_map_shown_iff {ps : List Path} (htexts : ∀ p ∈ ps, Path.IsText p) (t : Text) :
    t ∈ ps.map Path.shown ↔ Path.ofText t ∈ ps := by
  rw [List.mem_map]
  constructor
  · rintro ⟨p, hp, rfl⟩
    rwa [htexts p hp]
  · intro ht
    exact ⟨_, ht, Path.shown_ofText t⟩

/-- What is listed of a path is what the files say. -/
lemma lists_of_entries (hreads : w.ReadsNames)
    (htexts : ∀ r name, (w.files.node? (r ++ [name])).isSome = true → Path.IsText name)
    (h : w.entries env path = .ok names) : w.Lists env path names := by
  unfold entries at h
  split at h
  · cases h
  next r hpath =>
  split at h
  · cases h
  · next hnode =>
    cases hread : w.readDirectory w.files r with
    | error e =>
      rw [hread] at h
      cases h
    | ok ps =>
      rw [hread] at h
      obtain rfl := Except.ok.inj h
      obtain ⟨hnodup, hmem⟩ := hreads r ps hread
      have hps : ∀ p ∈ ps, Path.IsText p := fun p hp => htexts r p ((hmem p).mp hp)
      have hshown : (ps.map Path.shown).Nodup := by
        refine hnodup.map_on fun p hp q hq heq => ?_
        rw [← hps p hp, heq, hps q hq]
      refine .directory hpath hnode (pairwise_precedes_sortTexts hshown) fun t => ?_
      rw [(sortTexts_perm _).mem_iff, mem_map_shown_iff hps, hmem]
  · next node hother hnode =>
    cases h
    exact .other hpath hnode hother

/-! ## The lines of several paths -/

/-- The lines of several paths: for each one the path with a colon, and what is listed of it, with
one empty line between each two. -/
def pageLines : List (Text × List Text) → List Text
  | [] => []
  | [s] => (s.1 ++ [':']) :: s.2
  | s :: s' :: rest => (s.1 ++ [':']) :: s.2 ++ [] :: pageLines (s' :: rest)

/-- The lines of several paths as one text. -/
def page (sections : List (Text × List Text)) : Text :=
  Text.joinWith ['\n'] (pageLines sections)

/-- Where nothing is listed, an empty line. -/
def filled (s : Text × List Text) : Text × List Text :=
  (s.1, if s.2 = [] then [[]] else s.2)

section

variable {s s' : Text × List Text} {sections : List (Text × List Text)}

lemma pageLines_ne_nil (s : Text × List Text) (sections : List (Text × List Text)) :
    pageLines (s :: sections) ≠ [] := by
  cases sections with
  | nil => exact List.cons_ne_nil _ _
  | cons s' rest => exact List.cons_ne_nil _ _

/-- Between two blocks there are two line ends. -/
lemma page_cons_cons (s s' : Text × List Text) (sections : List (Text × List Text)) :
    page (s :: s' :: sections) = page [s] ++ "\n\n".toList ++ page (s' :: sections) := by
  have hrest : Text.joinWith ['\n'] ([] :: pageLines (s' :: sections)) =
      '\n' :: page (s' :: sections) := by
    obtain ⟨l, ls, hlines⟩ := List.exists_cons_of_ne_nil (pageLines_ne_nil s' sections)
    rw [page, hlines]
    rfl
  rw [page, pageLines, Text.joinWith_append ['\n'] (List.cons_ne_nil _ _) (List.cons_ne_nil _ _),
    hrest]
  simp [page, pageLines]

/-- A block begins with its path and a colon. -/
lemma exists_page_eq (s : Text × List Text) (sections : List (Text × List Text)) :
    ∃ rest, page (s :: sections) = s.1 ++ ':' :: rest := by
  have hone : ∃ rest, page [s] = s.1 ++ ':' :: rest := by
    obtain ⟨path, names⟩ := s
    cases names with
    | nil => exact ⟨[], rfl⟩
    | cons name names =>
      refine ⟨'\n' :: Text.joinWith ['\n'] (name :: names), ?_⟩
      simp [page, pageLines, Text.joinWith]
  obtain ⟨rest, hrest⟩ := hone
  cases sections with
  | nil => exact ⟨rest, hrest⟩
  | cons s' sections =>
    refine ⟨rest ++ "\n\n".toList ++ page (s' :: sections), ?_⟩
    rw [page_cons_cons, hrest]
    simp

/-- Filling adds a line end after the heading of an empty block. -/
lemma page_filled_singleton (s : Text × List Text) :
    page [filled s] = page [s] ++ (if s.2 = [] then ['\n'] else []) := by
  obtain ⟨path, names⟩ := s
  cases names with
  | nil => simp [page, pageLines, filled, Text.joinWith]
  | cons name names => simp [page, pageLines, filled]

/-- A text with a colon does not begin with a line end before itself. -/
lemma not_prefix_cons_lineEnd (p a b : Text) : ¬ p ++ ':' :: a <+: '\n' :: (p ++ ':' :: b) := by
  induction p with
  | nil => simp [List.cons_prefix_cons]
  | cons c p ih =>
    rw [List.cons_append, List.cons_prefix_cons]
    rintro ⟨rfl, hrest⟩
    exact ih hrest

/-- With blocks filled up, a page begins as without exactly when only the last one may be empty. -/
lemma page_prefix_filled_iff :
    page (s :: sections) <+: page ((s :: sections).map filled) ↔
      ∀ t ∈ (s :: sections).dropLast, t.2 ≠ [] := by
  induction sections generalizing s with
  | nil =>
    rw [List.map_singleton, page_filled_singleton]
    exact iff_of_true (List.prefix_append _ _) (by simp)
  | cons s' sections ih =>
    rw [List.map_cons, List.map_cons, page_cons_cons, page_cons_cons, page_filled_singleton,
      ← List.map_cons, List.dropLast_cons_cons, List.forall_mem_cons]
    by_cases hs : s.2 = []
    · refine iff_of_false ?_ fun h => h.1 hs
      -- The text of the next block would begin with a line end before itself.
      obtain ⟨rest, hrest⟩ := exists_page_eq s' sections
      obtain ⟨rest', hrest'⟩ := exists_page_eq (filled s') (sections.map filled)
      rw [if_pos hs, List.append_assoc, List.append_assoc, List.append_assoc,
        List.prefix_append_right_inj]
      intro hprefix
      have hnext : page (s' :: sections) <+: '\n' :: page ((s' :: sections).map filled) := by
        simpa using hprefix
      rw [List.map_cons, hrest, hrest'] at hnext
      exact not_prefix_cons_lineEnd s'.1 rest rest' hnext
    · rw [if_neg hs, List.append_nil, List.prefix_append_right_inj, ih]
      exact (and_iff_right hs).symm

/-- Filled up, a page whose last block alone may be empty has one line end more at most, at its
end. -/
lemma page_filled_eq_or (h : ∀ t ∈ (s :: sections).dropLast, t.2 ≠ []) :
    page ((s :: sections).map filled) = page (s :: sections) ∨
      page ((s :: sections).map filled) = page (s :: sections) ++ ['\n'] := by
  induction sections generalizing s with
  | nil =>
    rw [List.map_singleton, page_filled_singleton]
    split
    · exact .inr rfl
    · exact .inl (List.append_nil _)
  | cons s' sections ih =>
    rw [List.dropLast_cons_cons, List.forall_mem_cons] at h
    rw [List.map_cons, List.map_cons, page_cons_cons, page_cons_cons, page_filled_singleton,
      if_neg h.1, List.append_nil, ← List.map_cons]
    rcases ih h.2 with heq | heq
    · exact .inl (by rw [heq])
    · exact .inr (by rw [heq, ← List.append_assoc])

/-- Filled up, a page is the same, up to a line end at its end, exactly when only its last block may
be empty. -/
lemma page_filled_iff (hne : sections ≠ []) :
    page (sections.map filled) = page sections ∨
        page (sections.map filled) = page sections ++ ['\n'] ↔
      ∀ t ∈ sections.dropLast, t.2 ≠ [] := by
  obtain ⟨s, sections, rfl⟩ := List.exists_cons_of_ne_nil hne
  refine ⟨fun h => page_prefix_filled_iff.mp ?_, page_filled_eq_or⟩
  rcases h with h | h
  · exact ⟨[], (List.append_nil _).trans h.symm⟩
  · exact ⟨['\n'], h.symm⟩

end

/-! ## What is printed -/

/-- What is made of a result is made of its value. -/
lemma exists_of_map_eq_ok {ε α β : Type} {f : α → β} {r : Except ε α} {b : β}
    (h : r.map f = .ok b) : ∃ a, r = .ok a ∧ f a = b := by
  cases r with
  | error e => cases h
  | ok a => exact ⟨a, rfl, Except.ok.inj h⟩

/-- A page is made of its blocks, with two line ends between each two. -/
lemma joinWith_map_page (sections : List (Text × List Text)) :
    Text.joinWith "\n\n".toList (sections.map fun s => page [s]) = page sections := by
  induction sections with
  | nil => rfl
  | cons s sections ih =>
    cases sections with
    | nil => rfl
    | cons s' sections =>
      rw [page_cons_cons, ← ih]
      rfl

/-- A path that can be listed gives a block with a heading and what is listed. -/
lemma exists_sections_of_listBlocks {paths blocks : List Text}
    (h : w.listBlocks env paths = .ok blocks) :
    ∃ sections : List (Text × List Text), sections.map Prod.fst = paths ∧
      (∀ s ∈ sections, w.entries env s.1 = .ok s.2) ∧
      blocks = sections.map fun s => page [filled s] := by
  induction paths generalizing blocks with
  | nil =>
    cases h
    exact ⟨[], rfl, nofun, rfl⟩
  | cons path rest ih =>
    rw [listBlocks] at h
    cases hentries : w.entries env path with
    | error e => simp [hentries] at h
    | ok names =>
      cases hrest : w.listBlocks env rest with
      | error e => simp [hentries, hrest] at h
      | ok blocks' =>
        obtain ⟨sections, rfl, hsections, rfl⟩ := ih hrest
        simp only [hentries, hrest, Except.ok.injEq] at h
        have hblock : page [filled (path, names)] =
            path ++ ":\n".toList ++ Text.joinWith ['\n'] names := by
          cases names with
          | nil => simp [page, pageLines, filled, Text.joinWith]
          | cons name names => simp [page, pageLines, filled, Text.joinWith]
        refine ⟨(path, names) :: sections, rfl, List.forall_mem_cons.mpr ⟨hentries, hsections⟩, ?_⟩
        rw [List.map_cons, hblock, h]

/-- What `ls` prints of the paths it is given: of one what is listed of it, and of several a
page. -/
lemma exists_sections_of_listing {paths : List Text} {t : Text} (h : w.listing env paths = .ok t) :
    ∃ sections : List (Text × List Text), sections.map Prod.fst = listedPaths paths ∧
      (∀ s ∈ sections, w.entries env s.1 = .ok s.2) ∧
      (∀ s, sections = [s] → t = Text.joinWith ['\n'] s.2) ∧
      (2 ≤ sections.length → t = page (sections.map filled)) := by
  unfold listing at h
  split at h
  · obtain ⟨names, hnames, rfl⟩ := exists_of_map_eq_ok h
    refine ⟨[(['.'], names)], rfl, List.forall_mem_singleton.mpr hnames, ?_, by simp⟩
    rintro s ⟨⟩
    rfl
  · obtain ⟨names, hnames, rfl⟩ := exists_of_map_eq_ok h
    refine ⟨[(_, names)], rfl, List.forall_mem_singleton.mpr hnames, ?_, by simp⟩
    rintro s ⟨⟩
    rfl
  · next hnone hone =>
    obtain ⟨blocks, hblocks, rfl⟩ := exists_of_map_eq_ok h
    obtain ⟨sections, rfl, hsections, rfl⟩ := exists_sections_of_listBlocks hblocks
    refine ⟨sections, ?_, hsections, ?_, fun _ => ?_⟩
    · cases sections with
      | nil => exact absurd rfl hnone
      | cons s sections => rfl
    · rintro s rfl
      exact absurd rfl (hone s.1)
    · rw [← joinWith_map_page, List.map_map]
      rfl

/-- `ls` does not depend on the order in which directories are read.  In worlds that differ only in
that order, and in what programs do, it prints the same or fails with the same cause.  Where it
succeeds, directories hand out their names once each, and the names are texts, it lists of each
directory all its names, each one once and in ascending order of scalar values, and of every other
path the path itself.  It prints of one path what is listed; of several paths it prints a heading
and what is listed of each one, in their order, and one empty line between each two, exactly if no
directory but the last is empty.  An empty directory is printed as if it held one empty name. -/
theorem execute_ls_ignores_order (hw : w.SameFiles w') (env : Environment) (input output : Slot)
    (paths : List Text) :
    ((Invocation.ls paths).execute w env input output).result =
        ((Invocation.ls paths).execute w' env input output).result ∧
    ((Invocation.ls paths).execute w env input output).output =
        ((Invocation.ls paths).execute w' env input output).output ∧
    (w.ReadsNames →
      (∀ r name, (w.files.node? (r ++ [name])).isSome = true → Path.IsText name) → ∀ status,
      ((Invocation.ls paths).execute w env input output).result = .ok status →
      status = 0 ∧ ∃ (sections : List (Text × List Text)) (t : Text),
        sections.map Prod.fst = listedPaths paths ∧
        (∀ s ∈ sections, w.Lists env s.1 s.2) ∧
        ((Invocation.ls paths).execute w env input output).output = Slot.holding t ∧
        (∀ s, sections = [s] → t = Text.joinWith ['\n'] s.2) ∧
        (2 ≤ sections.length →
          t = Text.joinWith ['\n'] (pageLines (sections.map filled)) ∧
          (t = Text.joinWith ['\n'] (pageLines sections) ∨
              t = Text.joinWith ['\n'] (pageLines sections) ++ ['\n'] ↔
            ∀ s ∈ sections.dropLast, s.2 ≠ []))) := by
  have hlisting : w.listing env paths = w'.listing env paths := listing_eq hw rfl paths
  simp only [Invocation.execute, ← hlisting]
  cases h : w.listing env paths with
  | error e =>
    refine ⟨rfl, rfl, ?_⟩
    intro hreads htexts status hstatus
    cases hstatus
  | ok t =>
    refine ⟨rfl, rfl, ?_⟩
    intro hreads htexts status hstatus
    cases hstatus
    obtain ⟨sections, hpaths, hsections, hone, hseveral⟩ := exists_sections_of_listing h
    refine ⟨rfl, sections, t, hpaths, ?_, rfl, hone, fun hlength => ⟨hseveral hlength, ?_⟩⟩
    · exact fun s hs => lists_of_entries hreads htexts (hsections s hs)
    · have hne : sections ≠ [] := by
        rintro rfl
        simp at hlength
      rw [hseveral hlength]
      exact page_filled_iff hne

end World

/-! ## File systems that hand out their names -/

namespace FileSystem

variable {fs : FileSystem} {dir : RealPath} {name : Path}

/-- Each place has one node. -/
def HasDistinctPlaces (fs : FileSystem) : Prop :=
  (fs.entries.map Prod.fst).Nodup

instance : DecidablePred HasDistinctPlaces := fun fs =>
  inferInstanceAs (Decidable (fs.entries.map Prod.fst).Nodup)

/-- All names of places are texts. -/
def HasTextNames (fs : FileSystem) : Prop :=
  ∀ entry ∈ fs.entries, ∀ name ∈ entry.1, Path.IsText name

instance : DecidablePred HasTextNames := fun fs =>
  inferInstanceAs (Decidable (∀ entry ∈ fs.entries, ∀ name ∈ entry.1, Path.IsText name))

/-- Something stands at a name in a directory if it is the place of an entry. -/
lemma isSome_node?_iff :
    (fs.node? (dir ++ [name])).isSome = true ↔ ∃ entry ∈ fs.entries, entry.1 = dir ++ [name] := by
  obtain ⟨first, rest, hcons⟩ : ∃ first rest, dir ++ [name] = first :: rest :=
    List.exists_cons_of_ne_nil (List.append_ne_nil_of_right_ne_nil dir (List.cons_ne_nil _ _))
  rw [hcons, node?, List.lookup_isSome_iff]
  refine exists_congr fun entry => and_congr_right fun _ => ?_
  rw [beq_iff_eq, eq_comm]

/-- The name of a place in a directory. -/
def nameIn (dir p : RealPath) : Option Path :=
  match p.getLast? with
  | some name => if p.dropLast = dir then some name else none
  | none => none

lemma nameIn_eq_some_iff {p : RealPath} : nameIn dir p = some name ↔ p = dir ++ [name] := by
  rcases List.eq_nil_or_concat p with rfl | ⟨q, last, rfl⟩
  · simp [nameIn]
  · rw [nameIn, List.concat_eq_append, List.getLast?_concat]
    by_cases hq : q = dir
    · simp [hq]
    · simp [hq]

lemma names_eq (fs : FileSystem) (dir : RealPath) :
    fs.names dir = (fs.entries.map Prod.fst).filterMap (nameIn dir) := by
  rw [List.filterMap_map]
  rfl

/-- A directory holds the names at which something stands in it. -/
lemma mem_names : name ∈ fs.names dir ↔ (fs.node? (dir ++ [name])).isSome = true := by
  rw [isSome_node?_iff, names_eq]
  simp only [List.mem_filterMap, List.mem_map, nameIn_eq_some_iff, exists_exists_and_eq_and]

/-- A directory holds each name once. -/
lemma HasDistinctPlaces.nodup_names (h : fs.HasDistinctPlaces) (dir : RealPath) :
    (fs.names dir).Nodup := by
  rw [names_eq]
  refine List.Nodup.filterMap ?_ h
  intro p p' name hp hp'
  rw [nameIn_eq_some_iff.mp hp, nameIn_eq_some_iff.mp hp']

/-- What stands in a directory has a text for its name. -/
lemma HasTextNames.isText (h : fs.HasTextNames)
    (hname : (fs.node? (dir ++ [name])).isSome = true) : Path.IsText name := by
  obtain ⟨entry, hentry, hplace⟩ := isSome_node?_iff.mp hname
  exact h entry hentry name (by rw [hplace]; simp)

end FileSystem

namespace World

/-- A file system in which each place has one node hands out each name once. -/
lemma readsNames_ofFiles {fs : FileSystem} (h : fs.HasDistinctPlaces) :
    (ofFiles fs).ReadsNames := by
  intro r names hread
  obtain rfl := Except.ok.inj hread
  exact ⟨h.nodup_names r, fun name => FileSystem.mem_names⟩

/-- A directory with two names, a link to it, a file and an empty directory. -/
def listedFiles : FileSystem :=
  ⟨[([.ofString "d"], .directory), ([.ofString "d", .ofString "b"], .file [] false),
    ([.ofString "d", .ofString "B"], .void), ([.ofString "l"], .link (.ofString "d")),
    ([.ofString "f"], .file [120] false), ([.ofString "e"], .directory)]⟩

/-- A world in which directories are read the other way round. -/
def reversedWorld : World :=
  { ofFiles listedFiles with readDirectory := fun files dir => .ok (files.names dir).reverse }

/-- Capital letters come first, a link is listed under its own name, and the empty directory may
come last. -/
theorem execute_ls_ignores_order_link :
    ((Invocation.ls ["l".toList, "f".toList, "e".toList]).execute reversedWorld ⟨⟨[]⟩, Path.root⟩
        Slot.empty Slot.empty).result = .ok 0 ∧
    ((Invocation.ls ["l".toList, "f".toList, "e".toList]).execute reversedWorld ⟨⟨[]⟩, Path.root⟩
        Slot.empty Slot.empty).output = Slot.holding "l:\nB\nb\n\nf:\nf\n\ne:\n".toList ∧
    ∃ sections : List (Text × List Text),
      sections.map Prod.fst = ["l".toList, "f".toList, "e".toList] ∧
      (∀ s ∈ sections, (ofFiles listedFiles).Lists ⟨⟨[]⟩, Path.root⟩ s.1 s.2) ∧
      "l:\nB\nb\n\nf:\nf\n\ne:\n".toList =
        Text.joinWith ['\n'] (pageLines (sections.map filled)) := by
  have hlisting : (ofFiles listedFiles).listing ⟨⟨[]⟩, Path.root⟩
      ["l".toList, "f".toList, "e".toList] = .ok "l:\nB\nb\n\nf:\nf\n\ne:\n".toList := by
    decide +kernel
  have hw : (ofFiles listedFiles).SameFiles reversedWorld :=
    ⟨rfl, rfl, fun files dir => .names (List.reverse_perm _).symm⟩
  have hdistinct : listedFiles.HasDistinctPlaces := by decide
  have htexts : listedFiles.HasTextNames := by decide +kernel
  obtain ⟨hresult, houtput, hlists⟩ := execute_ls_ignores_order hw ⟨⟨[]⟩, Path.root⟩ Slot.empty
    Slot.empty ["l".toList, "f".toList, "e".toList]
  simp only [Invocation.execute, hlisting] at hresult houtput hlists
  obtain ⟨-, sections, t, hpaths, hsections, ht, -, hpage⟩ :=
    hlists (readsNames_ofFiles hdistinct) (fun _ _ => htexts.isText) 0 rfl
  obtain rfl : t = _ := (Option.some.inj (congrArg Slot.content ht)).symm
  have hlength : sections.length = 3 := by
    rw [← List.length_map (f := Prod.fst), hpaths]
    rfl
  exact ⟨hresult.symm, houtput.symm, sections, hpaths, hsections, (hpage (by omega)).1⟩

/-- Two lines are empty between an empty directory and what comes after it. -/
theorem execute_ls_adds_empty_line :
    (Invocation.ls ["e".toList, "f".toList]).execute (ofFiles listedFiles) ⟨⟨[]⟩, Path.root⟩
        Slot.empty Slot.empty =
      .written listedFiles ⟨⟨[]⟩, Path.root⟩ Slot.empty (.ok "e:\n\n\nf:\nf".toList) ∧
    Text.joinWith ['\n'] (pageLines [("e".toList, []), ("f".toList, ["f".toList])]) =
      "e:\n\nf:\nf".toList := by
  have hlisting : (ofFiles listedFiles).listing ⟨⟨[]⟩, Path.root⟩ ["e".toList, "f".toList] =
      .ok "e:\n\n\nf:\nf".toList := by
    decide +kernel
  refine ⟨?_, rfl⟩
  rw [Invocation.execute, hlisting]
  rfl

end World

end CommandShell
