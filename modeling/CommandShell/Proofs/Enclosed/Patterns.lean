import CommandShell.Proofs.Enclosed.Classes

/-!
# Patterns in an enclosed pattern

A pattern between `\b(` and `)\b` is read with one more group at the bottom of the stack
(`Frame.Over`).  Above it the steps are those of the pattern alone, so that a pattern that can be
read by itself is read to its end, and then the closing closes the group it was put in
(`parse_enclosed`).  This needs the pattern to be read by itself: a parenthesis that closes nothing
there would close the group from the enclosing.
-/

namespace CommandShell.Pattern

/-! ## What is open -/

/-- The parts read so far, without their places. -/
def PartList.erase (l : PartList) : List Tree :=
  l.parts.map Tree.erase

/-- Parts are joined to one tree in the same way wherever they stand. -/
lemma PartList.erase_toTree (l : PartList) (stop : ℕ) :
    (l.toTree stop).erase = (⟨0, l.erase⟩ : PartList).toTree 0 := by
  obtain ⟨start, parts⟩ := l
  match parts with
  | [] => rfl
  | [part] => rfl
  | first :: second :: rest => simp [toTree, erase, Tree.erase, Tree.eraseAll_eq_map, Span.point]

lemma PartList.erase_toTree_congr {l l' : PartList} (h : l'.erase = l.erase) (stop stop' : ℕ) :
    (l'.toTree stop').erase = (l.toTree stop).erase := by
  rw [erase_toTree, erase_toTree, h]

/-- Two frames that differ in their places only. -/
inductive Frame.Same : Frame → Frame → Prop
  | group {before before' : PartList} (span span' : Span) (capturing : Bool) (flags : Flags)
    (verbose : Bool) (h : before'.erase = before.erase) :
    Same (.group before span capturing flags verbose) (.group before' span' capturing flags verbose)
  | alternation {branches branches' : List Tree} (start start' : ℕ)
    (h : branches'.map Tree.erase = branches.map Tree.erase) :
    Same (.alternation start branches) (.alternation start' branches')

/-- A pattern between word boundaries, without places. -/
def Tree.enclosed (t : Tree) : Tree :=
  .concat (.point 0) [.assertion (.point 0) .wordBoundary, .group (.point 0) true [] t,
    .assertion (.point 0) .wordBoundary]

/-- The group that `\b(` opens. -/
def outerGroup : Frame :=
  .group ⟨0, [.assertion ⟨0, 2⟩ .wordBoundary]⟩ ⟨2, 3⟩ true [] false

/-- The second stack is the first, up to places, over the group of the enclosing. -/
inductive Frame.Over : List Frame → List Frame → Prop
  | bottom : Over [] [outerGroup]
  | cons {f f' : Frame} {stack stack' : List Frame} (hf : Same f f') (h : Over stack stack') :
    Over (f :: stack) (f' :: stack')

namespace ParseState

/-- The second reading stands where the first does, in the enclosed pattern. -/
structure Encloses (s s' : ParseState) : Prop where
  stack : Frame.Over s.stack s'.stack
  parts_eq : s'.parts.erase = s.parts.erase
  reader : s.reader.Encloses s'.reader
  names_eq : s'.names.map Prod.fst = s.names.map Prod.fst

/-- Both readings go on in the same way, and the first leaves fewer characters than a bound. -/
structure Follows (n : ℕ) (s s' : ParseState) : Prop extends Encloses s s' where
  length_lt : s.reader.rest.length < n

variable {s s' : ParseState} {r r' : Reader} {n : ℕ}

/-- One more part. -/
lemma push_follows {part part' : Tree} (h : s.Encloses s') (hpart : part'.erase = part.erase)
    (hr : r.Encloses r') (hlt : r.rest.length < n) :
    Follows n (s.push part r) (s'.push part' r') := by
  refine ⟨⟨h.stack, ?_, hr, h.names_eq⟩, hlt⟩
  have hparts := h.parts_eq
  simp only [PartList.erase] at hparts
  simp only [PartList.erase, push, List.map_append, List.map_cons, List.map_nil, hparts, hpart]

/-- A group is opened in the same way. -/
lemma openGroup_follows (opened opened' : Span) (capturing : Bool) (flags : Flags)
    (h : s.Encloses s') (hr : r.Encloses r') (hlt : r.rest.length < n) :
    Follows n (s.openGroup opened capturing flags r) (s'.openGroup opened' capturing flags r') := by
  have hreader : Reader.Encloses { r with verbose := (flags.lookup .verbose).getD r.verbose }
      { r' with verbose := (flags.lookup .verbose).getD r'.verbose } :=
    ⟨by rw [hr.verbose_eq], hr.rest_eq⟩
  refine ⟨⟨?_, rfl, hreader, h.names_eq⟩, hlt⟩
  simp only [openGroup, h.reader.verbose_eq]
  exact .cons (.group _ _ _ _ _ h.parts_eq) h.stack

/-- What follows a group that is closed. -/
lemma closed_follows {before before' : PartList} {rest rest' : List Frame} {body body' : Tree}
    (span span' : Span) (capturing : Bool) (flags : Flags) (verbose : Bool) (h : s.Encloses s')
    (hne : s.reader.rest ≠ []) (hbefore : before'.erase = before.erase)
    (hrest : Frame.Over rest rest') (hbody : body'.erase = body.erase) :
    Follows s.reader.rest.length
      { s with
        stack := rest
        parts := { before with parts := before.parts ++ [.group span capturing flags body] }
        reader := { s.reader.next with verbose := verbose } }
      { s' with
        stack := rest'
        parts := { before' with parts := before'.parts ++ [.group span' capturing flags body'] }
        reader := { s'.reader.next with verbose := verbose } } := by
  refine ⟨⟨hrest, ?_, ⟨rfl, (h.reader.next hne).rest_eq⟩, h.names_eq⟩, Reader.length_next_lt hne⟩
  simp only [PartList.erase] at hbefore
  simp only [PartList.erase, List.map_append, List.map_cons, List.map_nil, Tree.erase, hbefore,
    hbody]

lemma erase_alternation {branches branches' : List Tree} {l l' : PartList} (span span' : Span)
    (stop stop' : ℕ) (hbranches : branches'.map Tree.erase = branches.map Tree.erase)
    (hl : l'.erase = l.erase) :
    (Tree.alternation span' (branches' ++ [l'.toTree stop'])).erase =
      (Tree.alternation span (branches ++ [l.toTree stop])).erase := by
  simp only [Tree.erase, Tree.eraseAll_eq_map, List.map_append, List.map_cons, List.map_nil,
    hbranches, PartList.erase_toTree_congr hl stop stop']

/-- A closing parenthesis closes a group of the pattern. -/
lemma closeParenthesis_carries (h : s.Encloses s') (hne : s.reader.rest ≠ []) :
    Carries (Follows s.reader.rest.length) s.closeParenthesis s'.closeParenthesis := by
  obtain ⟨stack, parts, reader, names⟩ := s
  obtain ⟨stack', parts', reader', names'⟩ := s'
  have hparts : parts'.erase = parts.erase := h.parts_eq
  cases h.stack with
  | bottom => exact .error _ _
  | cons hframe hover =>
    cases hframe with
    | group span span' capturing flags verbose hbefore =>
      refine .ok (closed_follows _ _ capturing flags verbose h hne hbefore hover ?_)
      exact PartList.erase_toTree_congr hparts _ _
    | alternation start start' hbranches =>
      cases hover with
      | bottom => exact .error _ _
      | cons hframe hover =>
        cases hframe with
        | alternation _ _ _ => exact .error _ _
        | group span span' capturing flags verbose hbefore =>
          refine .ok (closed_follows _ _ capturing flags verbose h hne hbefore hover ?_)
          exact erase_alternation _ _ _ _ hbranches hparts

/-- A bar ends a branch. -/
lemma bar_follows (h : s.Encloses s') (hne : s.reader.rest ≠ []) :
    Follows s.reader.rest.length s.bar s'.bar := by
  obtain ⟨stack, parts, reader, names⟩ := s
  obtain ⟨stack', parts', reader', names'⟩ := s'
  have hbranch : (parts'.toTree reader'.position).erase = (parts.toTree reader.position).erase :=
    PartList.erase_toTree_congr h.parts_eq _ _
  refine ⟨⟨?_, rfl, h.reader.next hne, h.names_eq⟩, Reader.length_next_lt hne⟩
  cases h.stack with
  | bottom => exact .cons (.alternation _ _ (by simp [hbranch])) .bottom
  | cons hframe hover =>
    cases hframe with
    | group span span' capturing flags verbose hbefore =>
      exact .cons (.alternation _ _ (by simp [hbranch])) (.cons (.group _ _ _ _ _ hbefore) hover)
    | alternation start start' hbranches =>
      exact .cons (.alternation _ _ (by simp [hbranches, hbranch])) hover

/-! ## Groups -/

/-- The flags of a list, without their places. -/
def eraseFlags (flags : List (Flag × Bool × Span)) : Flags :=
  flags.map fun (f, on, _) => (f, on)

/-- Whether a flag has been read does not depend on places. -/
lemma find?_eq_none_of_eraseFlags {flags flags' : List (Flag × Bool × Span)} {f : Flag}
    (h : eraseFlags flags' = eraseFlags flags) (hfind : flags.find? (·.1 = f) = none) :
    flags'.find? (·.1 = f) = none := by
  have hnames : flags'.map (·.1) = flags.map (·.1) := by
    simpa [eraseFlags, Function.comp_def] using congrArg (List.map Prod.fst) h
  have hiff (l : List (Flag × Bool × Span)) : l.find? (·.1 = f) = none ↔ f ∉ l.map (·.1) := by
    simp only [List.find?_eq_none, decide_eq_true_eq, List.mem_map, not_exists, not_and]
  rw [hiff] at hfind ⊢
  rwa [hnames]

/-- Two states of reading flags that differ in their places only. -/
structure FlagState.Same (f f' : FlagState) : Prop where
  flags_eq : eraseFlags f'.flags = eraseFlags f.flags
  hyphen_eq : f'.hyphen.isSome = f.hyphen.isSome
  dangling_eq : f'.dangling = f.dangling

/-- Flags are read up to `)` or `:`, which has to be there. -/
lemma readFlags_carries {f f' : FlagState} (m : ℕ) (h : r.Encloses r') (hf : f.Same f') :
    Carries (fun x y => Reader.Alike id (r.rest.length + 1) x y ∧ x.2.rest ≠ []) (readFlags n f r)
      (readFlags (n + m) f' r') := by
  induction n generalizing f f' r r' with
  | zero => exact .error _ _
  | succ n ih =>
    rw [Nat.succ_add]
    unfold readFlags
    cases hrest : r.rest with
    | nil => exact .error _ _
    | cons c t =>
      have hne : r.rest ≠ [] := by simp [hrest]
      have hnext {g g' : FlagState} (hg : g.Same g') :
          Carries (fun x y => Reader.Alike id (r.rest.length + 1) x y ∧ x.2.rest ≠ [])
            (readFlags n g r.next) (readFlags (n + m) g' r'.next) := by
        have hlt := Reader.length_next_lt hne
        exact (ih (h.next hne) hg).mono fun x y hxy => ⟨hxy.1.mono (by omega), hxy.2⟩
      simp only [h.rest_cons hrest]
      rw [← hrest]
      obtain ⟨flags, hyphen, dangling⟩ := f
      obtain ⟨flags', hyphen', dangling'⟩ := f'
      obtain ⟨hflags, hhyphen, rfl : dangling' = dangling⟩ := hf
      refine Carries.ite Iff.rfl (fun _ => ?_) fun _ =>
        Carries.ite Iff.rfl (fun _ => ?_) fun _ => ?_
      · -- The end of the flags.
        have hdone : Carries (fun x y => Reader.Alike id (r.rest.length + 1) x y ∧ x.2.rest ≠ [])
            (.ok (eraseFlags flags, r)) (.ok (eraseFlags flags', r')) :=
          .ok ⟨⟨hflags, h, Nat.lt_succ_self _⟩, hne⟩
        cases dangling' with
        | false => exact hdone
        | true =>
          cases hyphen with
          | some span => exact .error _ _
          | none =>
            obtain rfl : hyphen' = none := by simpa using hhyphen
            exact hdone
      · -- A hyphen.
        cases hyphen with
        | some span => exact .error _ _
        | none =>
          obtain rfl : hyphen' = none := by simpa using hhyphen
          exact hnext ⟨hflags, rfl, rfl⟩
      · -- A flag.
        cases flagOf? c with
        | none => exact .error _ _
        | some flag =>
          cases hfind : flags.find? (·.1 = flag) with
          | some found =>
            simp only [hfind]
            exact .error _ _
          | none =>
            simp only [hfind, find?_eq_none_of_eraseFlags hflags hfind]
            refine hnext ⟨?_, hhyphen, rfl⟩
            have hnone : hyphen'.isNone = hyphen.isNone := by
              rw [← Option.not_isSome, ← Option.not_isSome, hhyphen]
            simp only [eraseFlags] at hflags
            simp only [eraseFlags, List.map_append, List.map_cons, List.map_nil, hflags, hnone]

/-- A group with flags, or a directive. -/
lemma flagGroup_carries (opened opened' : Span) (inner inner' : ℕ) (h : s.Encloses s')
    (hr : r.Encloses r') (hlt : r.rest.length < n) :
    Carries (Follows n) (s.flagGroup opened inner r) (s'.flagGroup opened' inner' r') := by
  unfold flagGroup
  refine hr.carries_of_atEnd fun hne => ?_
  have hlength : r'.rest.length + 1 = r.rest.length + 1 + 3 := by
    rw [hr.rest_eq_of_ne_nil hne, List.length_append, closing_eq, Nat.add_right_comm]
    rfl
  rw [hlength]
  cases hread : readFlags (r.rest.length + 1) ⟨[], none, false⟩ r with
  | error e => exact .error _ _
  | ok x =>
    obtain ⟨flags, q⟩ := x
    obtain ⟨⟨flags', q'⟩, hread',
      ⟨rfl : flags' = flags, hq : q.Encloses q', hlen : q.rest.length < _⟩, hqne : q.rest ≠ []⟩ :=
      readFlags_carries 3 hr ⟨rfl, rfl, rfl⟩ _ hread
    have hlt' := Reader.length_next_lt hqne
    have hnext := hq.next hqne
    have hpeek : q'.peek? = q.peek? := by
      rw [Reader.peek?, Reader.peek?, hq.rest_eq_of_ne_nil hqne, List.head?_append_of_ne_nil _ hqne]
    rw [hread']
    simp only [hpeek]
    refine Carries.ite Iff.rfl (fun _ => ?_) fun _ => ?_
    · refine Carries.ite Iff.rfl (fun _ => .error _ _) fun _ => .ok ?_
      refine push_follows h rfl ⟨?_, hnext.rest_eq⟩ (Nat.lt_of_lt_of_le hlt' (by omega))
      simp only [hnext.verbose_eq]
    · exact .ok (openGroup_follows _ _ false _ h hnext (by omega))

/-- The name of a group that ends before the text does. -/
lemma groupName_append {isFirst : Bool} {t name : Text} (u : Text)
    (h : groupName isFirst r t = .ok name) (hlt : name.length < t.length) :
    groupName isFirst r' (t ++ u) = .ok name := by
  induction t generalizing isFirst r r' name with
  | nil => simp at hlt
  | cons c t ih =>
    simp only [groupName] at h
    simp only [List.cons_append, groupName]
    by_cases hend : c = '>'
    · simpa [hend] using h
    · by_cases hchar : isGroupNameChar isFirst c = true
      · simp only [hend, hchar, if_false, Bool.not_true, Bool.false_eq_true] at h ⊢
        cases hrest : groupName false r.next t with
        | error e =>
          rw [hrest] at h
          cases h
        | ok name' =>
          rw [hrest] at h
          obtain rfl : c :: name' = name := Except.ok.inj h
          rw [ih hrest (Nat.lt_of_succ_lt_succ hlt)]
          rfl
      · simp [hend, hchar] at h

/-- Whether a name has been given does not depend on places. -/
lemma lookup_eq_none_of_names {names names' : List (Text × Span)} {name : Text}
    (h : names'.map Prod.fst = names.map Prod.fst) (hlookup : names.lookup name = none) :
    names'.lookup name = none := by
  have hiff (l : List (Text × Span)) : l.lookup name = none ↔ name ∉ l.map Prod.fst := by
    simp only [List.lookup_eq_none_iff, List.mem_map, not_exists, not_and, bne_iff_ne]
    exact forall₂_congr fun p _ => ne_comm
  rw [hiff] at hlookup ⊢
  rwa [h]

/-- A group with a name, which has to end with `>`. -/
lemma namedGroup_carries (opened opened' : Span) (h : s.Encloses s') (hr : r.Encloses r')
    (hlt : r.rest.length < n) :
    Carries (Follows n) (s.namedGroup opened r) (s'.namedGroup opened' r') := by
  unfold namedGroup
  refine hr.carries_of_atEnd fun hne => ?_
  cases hname : groupName true r r.rest with
  | error e => exact .error _ _
  | ok name =>
    by_cases hlen : name.length < r.rest.length
    · have hskip := hr.skip (Nat.le_of_lt hlen)
      rw [hr.rest_eq_of_ne_nil hne, groupName_append closing hname hlen]
      refine hskip.carries_of_atEnd fun hne' => ?_
      refine Carries.ite Iff.rfl (fun _ => .error _ _) fun _ => ?_
      cases hlookup : s.names.lookup name with
      | some earlier => exact .error _ _
      | none =>
        simp only [lookup_eq_none_of_names h.names_eq hlookup]
        have hlt' : (r.skip name.length).next.rest.length < n := by
          have hle : (r.skip name.length).rest.length ≤ r.rest.length := by
            simp only [Reader.skip, List.length_drop, Nat.sub_le]
          have := Reader.length_next_lt hne'
          omega
        have hopen := openGroup_follows opened opened' true [] h (hskip.next hne') hlt'
        refine .ok ⟨⟨hopen.stack, hopen.parts_eq, hopen.reader, ?_⟩, hopen.length_lt⟩
        simp only [List.map_append, List.map_cons, List.map_nil, hopen.names_eq]
    · have hend : (r.skip name.length).atEnd = true := by
        simpa [Reader.atEnd, Reader.skip] using hlen
      simp only [hend, if_true]
      exact .error _ _

lemma rel_or {α : Type} {R : α → α → Prop} {a b c d : Option α} (hab : Option.Rel R a b)
    (hcd : Option.Rel R c d) : Option.Rel R (a.or c) (b.or d) := by
  cases hab with
  | none => exact hcd
  | some h => exact .some h

/-- An opening parenthesis, with what follows it. -/
lemma openParenthesis_carries (h : s.Encloses s') (hne : s.reader.rest ≠ []) :
    Carries (Follows s.reader.rest.length) s.openParenthesis s'.openParenthesis := by
  have hr := h.reader.nextSpaced hne
  have hlt := Reader.length_nextSpaced_lt hne
  have hlook := rel_or (hr.skipText? "?=" (by decide)) (rel_or (hr.skipText? "?!" (by decide))
    (rel_or (hr.skipText? "?<=" (by decide)) (hr.skipText? "?<!" (by decide))))
  have hnamed := rel_or (hr.skipText? "?P<" (by decide)) (hr.skipText? "?<" (by decide))
  have hflags := hr.skipText? "?" (by decide)
  simp only [openParenthesis]
  generalize (s.reader.nextSpaced.skipText? "?=").or _ = look at hlook ⊢
  generalize (s'.reader.nextSpaced.skipText? "?=").or _ = look' at hlook ⊢
  generalize (s.reader.nextSpaced.skipText? "?P<").or _ = named at hnamed ⊢
  generalize (s'.reader.nextSpaced.skipText? "?P<").or _ = named' at hnamed ⊢
  generalize s.reader.nextSpaced.skipText? "?" = flags at hflags ⊢
  generalize s'.reader.nextSpaced.skipText? "?" = flags' at hflags ⊢
  cases hlook with
  | some _ => exact .error _ _
  | none =>
    cases hnamed with
    | some hq => exact namedGroup_carries _ _ h hq.1 (Nat.lt_of_le_of_lt hq.2 hlt)
    | none =>
      cases hflags with
      | some hq => exact flagGroup_carries _ _ _ _ h hq.1 (Nat.lt_of_le_of_lt hq.2 hlt)
      | none => exact .ok (openGroup_follows _ _ true [] h hr hlt)

/-! ## Repetitions -/

/-- What cannot be repeated: nothing, and a directive. -/
def isIdle : Tree → Bool
  | .empty _ => true
  | .directive _ _ => true
  | _ => false

lemma isIdle_eq_of_erase {part part' : Tree} (h : part'.erase = part.erase) :
    isIdle part' = isIdle part := by
  have herase (t : Tree) : isIdle t.erase = isIdle t := by
    cases t <;> rfl
  rw [← herase part', h, herase part]

lemma repeated_eq (s : ParseState) :
    s.repeated = match s.parts.parts.reverse with
      | [] => .error (.here .repetitionMissing s.reader.span)
      | part :: before =>
        if isIdle part then .error (.here .repetitionMissing s.reader.span)
        else .ok ({ s.parts with parts := before.reverse }, part) := by
  unfold repeated
  cases s.parts.parts.reverse with
  | nil => rfl
  | cons part before => cases part <;> rfl

/-- The part to be repeated is the same. -/
lemma repeated_carries (h : s.Encloses s') :
    Carries (fun x y => y.1.erase = x.1.erase ∧ y.2.erase = x.2.erase) s.repeated s'.repeated := by
  have hreverse : s'.parts.parts.reverse.map Tree.erase = s.parts.parts.reverse.map Tree.erase := by
    rw [List.map_reverse, List.map_reverse]
    exact congrArg List.reverse h.parts_eq
  rw [repeated_eq, repeated_eq]
  cases hparts : s.parts.parts.reverse with
  | nil => exact .error _ _
  | cons part before =>
    rw [hparts, List.map_cons] at hreverse
    obtain ⟨part', before', hparts', hpart, hbefore⟩ := List.map_eq_cons_iff.mp hreverse
    rw [hparts']
    simp only [isIdle_eq_of_erase hpart]
    refine Carries.ite Iff.rfl (fun _ => .error _ _) fun _ => .ok ⟨?_, hpart⟩
    simp only [PartList.erase, List.map_reverse, hbefore]

/-- A repetition stands in place of what it repeats. -/
lemma pushRepetition_follows {before before' : PartList} {part part' : Tree} (least : ℕ)
    (most : Option ℕ) (greedy : Bool) (h : s.Encloses s') (hbefore : before'.erase = before.erase)
    (hpart : part'.erase = part.erase) (hr : r.Encloses r') (hlt : r.rest.length < n) :
    Follows n (s.pushRepetition before part least most greedy r)
      (s'.pushRepetition before' part' least most greedy r') := by
  refine ⟨⟨h.stack, ?_, hr, h.names_eq⟩, hlt⟩
  simp only [PartList.erase] at hbefore
  simp only [pushRepetition, PartList.erase, List.map_append, List.map_cons, List.map_nil,
    Tree.erase, hbefore, hpart]

/-- A `?` after an operator makes it lazy. -/
lemma lazy_follows {before before' : PartList} {part part' : Tree} (least : ℕ)
    (most : Option ℕ) (h : s.Encloses s') (hbefore : before'.erase = before.erase)
    (hpart : part'.erase = part.erase) (hr : r.Encloses r') (hlt : r.rest.length < n) :
    Follows n
      (s.pushRepetition before part least most (r.peek? ≠ some '?')
        (if r.peek? ≠ some '?' then r else r.next))
      (s'.pushRepetition before' part' least most (r'.peek? ≠ some '?')
        (if r'.peek? ≠ some '?' then r' else r'.next)) := by
  simp only [ne_eq, hr.peek?_eq_some_iff (c := '?') (by decide)]
  refine pushRepetition_follows least most _ h hbefore hpart ?_ ?_
  · split
    · exact hr
    · next hlazy => exact hr.next (Reader.rest_ne_nil_of_peek? (of_not_not hlazy))
  · split
    · exact hlt
    · next hlazy =>
      have hne := Reader.rest_ne_nil_of_peek? (of_not_not hlazy)
      exact Nat.lt_trans (Reader.length_next_lt hne) hlt

lemma operator_carries (least : ℕ) (most : Option ℕ) (h : s.Encloses s')
    (hne : s.reader.rest ≠ []) :
    Carries (Follows s.reader.rest.length) (s.operator least most) (s'.operator least most) := by
  unfold operator
  cases hrepeated : s.repeated with
  | error e => exact .error _ _
  | ok x =>
    obtain ⟨before, part⟩ := x
    obtain ⟨⟨before', part'⟩, hrepeated', hbefore, hpart⟩ := repeated_carries h _ hrepeated
    rw [hrepeated']
    exact .ok (lazy_follows least most h hbefore hpart (h.reader.next hne)
      (Reader.length_next_lt hne))

/-- The blanks at the beginning end before the closing. -/
lemma skipBlanks_encloses (h : r.Encloses r') : (skipBlanks r).Encloses (skipBlanks r') := by
  have hblanks : r'.rest.takeWhile Text.isBlank = r.rest.takeWhile Text.isBlank := by
    rcases h.rest_eq with hrest | ⟨hrest, hrest'⟩
    · have hclosing : closing.takeWhile Text.isBlank = [] := rfl
      rw [hrest, List.takeWhile_append]
      split
      · next hall => rw [hclosing, List.append_nil, (List.takeWhile_prefix _).eq_of_length hall]
      · rfl
    · rw [hrest, hrest']
  unfold skipBlanks
  rw [hblanks]
  exact h.skip (List.takeWhile_prefix _).length_le

lemma length_skipBlanks_le (r : Reader) : (skipBlanks r).rest.length ≤ r.rest.length := by
  simp only [skipBlanks, Reader.skip, List.length_drop, Nat.sub_le]

/-- A number is read in the same way, and is refused in the same way. -/
lemma decimal_alike (h : r.Encloses r') :
    Reader.Alike Except.toOption (r.rest.length + 1) (decimal r) (decimal r') := by
  have hblanks := skipBlanks_encloses h
  have hdigits := Reader.collect_alike Text.isDigit hblanks (fun hparen => by cases hparen)
  have hvalue : ((skipBlanks r').collect Text.isDigit).1 =
      ((skipBlanks r).collect Text.isDigit).1 :=
    hdigits.fst_eq
  have hlen := hdigits.length_lt
  simp only [decimal, hvalue]
  generalize (skipBlanks r).collect Text.isDigit = x at hdigits hlen ⊢
  generalize (skipBlanks r').collect Text.isDigit = y at hdigits ⊢
  have hend := (skipBlanks_encloses hdigits.encloses).skipSpace
  have hlt : (skipBlanks x.2).skipSpace.rest.length < r.rest.length + 1 := by
    have := Reader.length_skipSpace_le (skipBlanks x.2)
    have := length_skipBlanks_le x.2
    have := length_skipBlanks_le r
    omega
  by_cases hempty : x.1.isEmpty = true
  · rw [if_pos hempty, if_pos hempty]
    exact ⟨rfl, hend, hlt⟩
  · rw [if_neg hempty, if_neg hempty]
    split
    · exact ⟨rfl, hend, hlt⟩
    · exact ⟨rfl, hend, hlt⟩

/-- The closing brace of a count. -/
lemma closeCount_carries {before before' : PartList} {part part' : Tree} (least : ℕ)
    (most : Option ℕ) (h : s.Encloses s') (hbefore : before'.erase = before.erase)
    (hpart : part'.erase = part.erase) (hr : r.Encloses r') (hlt : r.rest.length < n) :
    Carries (Follows n) (s.closeCount before part least most r)
      (s'.closeCount before' part' least most r') := by
  unfold closeCount
  refine Carries.ite (not_congr (hr.peek?_eq_some_iff (by decide))) (fun _ => .error _ _)
    fun hbrace => ?_
  have hne := Reader.rest_ne_nil_of_peek? (of_not_not hbrace)
  have hlt' := Reader.length_nextSpaced_lt hne
  refine Carries.ite Iff.rfl (fun _ => .error _ _) fun _ => .ok ?_
  exact lazy_follows least most h hbefore hpart (hr.nextSpaced hne) (by omega)

lemma eq_ok_of_toOption {x : Except Fault ℕ} {value : ℕ}
    (h : x.toOption = (Except.ok value : Except Fault ℕ).toOption) : x = .ok value := by
  cases x with
  | error e => cases h
  | ok v => rw [Option.some.inj h]

/-- A count in braces. -/
lemma count_carries (h : s.Encloses s') (hne : s.reader.rest ≠ []) :
    Carries (Follows s.reader.rest.length) s.count s'.count := by
  have hr := h.reader.nextSpaced hne
  have hlt := Reader.length_nextSpaced_lt hne
  simp only [count]
  cases hrepeated : s.repeated with
  | error e => exact .error _ _
  | ok x =>
    obtain ⟨before, part⟩ := x
    obtain ⟨⟨before', part'⟩, hrepeated', hbefore, hpart⟩ := repeated_carries h _ hrepeated
    rw [hrepeated']
    refine hr.carries_of_atEnd fun _ => ?_
    have hleast := decimal_alike hr
    generalize decimal s.reader.nextSpaced = x at hleast ⊢
    generalize decimal s'.reader.nextSpaced = y at hleast ⊢
    obtain ⟨least, q⟩ := x
    obtain ⟨least', q'⟩ := y
    obtain ⟨hvalue, hq : q.Encloses q', hlen : q.rest.length < _⟩ := hleast
    refine hq.carries_of_atEnd fun hne₁ => ?_
    have hlt₁ := Reader.length_nextSpaced_lt hne₁
    have hnext := hq.nextSpaced hne₁
    have hcomma := not_congr (hq.peek?_eq_some_iff (c := ',') (by decide))
    have hltq : q.rest.length < s.reader.rest.length := by omega
    have hltn : q.nextSpaced.rest.length < s.reader.rest.length := by omega
    cases least with
    | error e =>
      -- A count that is no number is refused only after the comma was looked for.
      refine Carries.ite hcomma (fun _ => .error _ _) fun _ => ?_
      exact hnext.carries_of_atEnd fun _ => .error _ _
    | ok least =>
      obtain rfl : least' = .ok least := eq_ok_of_toOption hvalue
      refine Carries.ite hcomma (fun _ => ?_) fun _ => hnext.carries_of_atEnd fun _ => ?_
      · exact closeCount_carries least (some least) h hbefore hpart hq hltq
      · refine Carries.ite (hnext.peek?_eq_some_iff (by decide)) (fun _ => ?_) fun _ => ?_
        · exact closeCount_carries least none h hbefore hpart hnext hltn
        · have hmost := decimal_alike hnext
          generalize decimal q.nextSpaced = x at hmost ⊢
          generalize decimal q'.nextSpaced = y at hmost ⊢
          obtain ⟨most, p⟩ := x
          obtain ⟨most', p'⟩ := y
          obtain ⟨hvalue', hp : p.Encloses p', hlen' : p.rest.length < _⟩ := hmost
          cases most with
          | error e => exact .error _ _
          | ok most =>
            obtain rfl : most' = .ok most := eq_ok_of_toOption hvalue'
            exact closeCount_carries least (some most) h hbefore hpart hp (by omega)

/-! ## The whole pattern -/

lemma atom_carries {c : Char} (h : s.Encloses s') (hne : s.reader.rest ≠ []) :
    Carries (Follows s.reader.rest.length) (s.atom c) (s'.atom c) := by
  unfold atom
  refine Carries.ite Iff.rfl (fun _ => ?_) fun _ => .ok ?_
  · cases hescape : s.reader.escape with
    | error e => exact .error _ _
    | ok x =>
      obtain ⟨y, hy, hxy⟩ := Reader.escape_carries h.reader hne x hescape
      rw [hy]
      refine .ok (push_follows h ?_ hxy.encloses hxy.length_lt)
      rw [Atom.erase_toTree, Atom.erase_toTree, hxy.fst_eq]
  · refine push_follows h ?_ (h.reader.next hne) (Reader.length_next_lt hne)
    rw [Atom.erase_toTree, Atom.erase_toTree]
    congr 1
    split
    · rfl
    · split
      · rfl
      · split
        · rfl
        · rfl

/-- Every step reads a character of the pattern, and in the same way. -/
lemma step_carries {c : Char} (h : s.Encloses s') (hne : s.reader.rest ≠ []) :
    Carries (Follows s.reader.rest.length) (s.step c) (s'.step c) := by
  unfold step
  refine Carries.ite Iff.rfl (fun _ => openParenthesis_carries h hne) fun _ => ?_
  refine Carries.ite Iff.rfl (fun _ => closeParenthesis_carries h hne) fun _ => ?_
  refine Carries.ite Iff.rfl (fun _ => .ok (bar_follows h hne)) fun _ => ?_
  refine Carries.ite Iff.rfl (fun _ => ?_) fun _ => ?_
  · cases hclass : s.reader.bracketed with
    | error e => exact .error _ _
    | ok x =>
      obtain ⟨y, hy, hxy⟩ := Reader.bracketed_carries h.reader hne x hclass
      rw [hy]
      exact .ok (push_follows h hxy.fst_eq hxy.encloses hxy.length_lt)
  refine Carries.ite Iff.rfl (fun _ => operator_carries 0 (some 1) h hne) fun _ => ?_
  refine Carries.ite Iff.rfl (fun _ => operator_carries 0 none h hne) fun _ => ?_
  refine Carries.ite Iff.rfl (fun _ => operator_carries 1 none h hne) fun _ => ?_
  refine Carries.ite Iff.rfl (fun _ => count_carries h hne) fun _ => ?_
  exact atom_carries h hne

/-- The group of the enclosing has to be closed. -/
lemma finish_ne_ok {stack : List Frame} (hover : Frame.Over stack s'.stack) (tree : Tree) :
    s'.finish ≠ .ok tree := by
  obtain ⟨stack', parts', reader', names'⟩ := s'
  cases hover with
  | bottom => exact fun h => by cases h
  | cons hframe hover =>
    cases hframe with
    | group span span' capturing flags verbose hbefore => exact fun h => by cases h
    | alternation start start' hbranches =>
      cases hover with
      | bottom => exact fun h => by cases h
      | cons hframe _ =>
        cases hframe with
        | group _ _ _ _ _ _ => exact fun h => by cases h
        | alternation _ _ _ => exact fun h => by cases h

/-- At the end of the pattern the parenthesis closes the group it was put in. -/
lemma closeParenthesis_of_finish {tree : Tree} (h : s.Encloses s')
    (hclosing : s'.reader.rest = closing) (hfinish : s.finish = .ok tree) :
    ∃ t, s'.closeParenthesis = .ok t ∧ t.stack = [] ∧ t.reader.rest = ['\\', 'b'] ∧
      t.reader.verbose = false ∧
      t.parts.erase =
        [.assertion (.point 0) .wordBoundary, .group (.point 0) true [] tree.erase] := by
  obtain ⟨stack, parts, reader, names⟩ := s
  obtain ⟨stack', parts', reader', names'⟩ := s'
  have hparts : parts'.erase = parts.erase := h.parts_eq
  have hrest : reader'.next.rest = ['\\', 'b'] := by
    rw [Reader.rest_next, show reader'.rest = closing from hclosing, closing_eq, List.tail_cons]
  cases h.stack with
  | bottom =>
    obtain rfl : parts.toTree _ = tree := Except.ok.inj hfinish
    refine ⟨_, rfl, rfl, hrest, rfl, ?_⟩
    simp only [PartList.erase, List.map_append, List.map_cons, List.map_nil, Tree.erase,
      PartList.erase_toTree_congr hparts reader.position]
    rfl
  | cons hframe hover =>
    cases hframe with
    | group span span' capturing flags verbose hbefore => cases hfinish
    | alternation start start' hbranches =>
      cases hover with
      | bottom =>
        obtain rfl : Tree.alternation _ _ = tree := Except.ok.inj hfinish
        refine ⟨_, rfl, rfl, hrest, rfl, ?_⟩
        simp only [PartList.erase, List.map_append, List.map_cons, List.map_nil, Tree.erase,
          Tree.eraseAll_eq_map, hbranches, PartList.erase_toTree_congr hparts reader.position]
        rfl
      | cons hframe _ =>
        cases hframe with
        | group _ _ _ _ _ _ => cases hfinish
        | alternation _ _ _ => cases hfinish

/-- The word boundary after the parenthesis is the last part. -/
lemma run_boundary (n : ℕ) (hstack : s.stack = []) (hrest : s.reader.rest = ['\\', 'b'])
    (hverbose : s.reader.verbose = false) :
    ∃ tree, run (n + 2) s = .ok tree ∧
      tree.erase =
        (⟨0, s.parts.erase ++ [.assertion (.point 0) .wordBoundary]⟩ : PartList).toTree 0 := by
  obtain ⟨stack, parts, ⟨position, rest, verbose⟩, names⟩ := s
  obtain rfl : stack = [] := hstack
  obtain rfl : rest = ['\\', 'b'] := hrest
  obtain rfl : verbose = false := hverbose
  refine ⟨_, rfl, ?_⟩
  rw [PartList.erase_toTree]
  simp only [PartList.erase, push, Atom.toTree, List.map_append, List.map_cons, List.map_nil,
    Tree.erase]

lemma run_succ (n : ℕ) (s : ParseState) :
    run (n + 1) s =
      match s.reader.skipSpace.peek? with
      | none => finish { s with reader := s.reader.skipSpace }
      | some c =>
        match step { s with reader := s.reader.skipSpace } c with
        | .error e => .error e
        | .ok s' => run n s' := rfl

/-- A pattern that is read by itself is read in the enclosing, and is what the group holds. -/
lemma run_enclosed {tree tree' : Tree} (h : s.Encloses s') (hlt : s.reader.rest.length < n)
    (hrun : run n s = .ok tree) (hrun' : run (n + 4) s' = .ok tree') :
    tree'.erase = tree.erase.enclosed := by
  induction n generalizing s s' with
  | zero => exact absurd hlt (Nat.not_lt_zero _)
  | succ n ih =>
    have hspaced : Encloses { s with reader := s.reader.skipSpace }
        { s' with reader := s'.reader.skipSpace } :=
      ⟨h.stack, h.parts_eq, h.reader.skipSpace, h.names_eq⟩
    rw [run_succ] at hrun
    rw [Nat.add_right_comm, run_succ] at hrun'
    cases hpeek : s.reader.skipSpace.peek? with
    | none =>
      rw [hpeek] at hrun
      have hend : s.reader.skipSpace.rest = [] := by simpa [Reader.peek?] using hpeek
      rcases h.reader.skipSpace.rest_eq with hrest' | ⟨-, hrest'⟩
      · -- What is left is the closing, which ends the group and the longer text.
        rw [hend, List.nil_append] at hrest'
        obtain ⟨t, hclose, hstack, hrest, hverbose, hparts⟩ :=
          closeParenthesis_of_finish hspaced hrest' hrun
        obtain ⟨u, hu, herase⟩ := run_boundary (n + 2) hstack hrest hverbose
        have hpeek' : s'.reader.skipSpace.peek? = some ')' := by
          simp [Reader.peek?, hrest', closing_eq]
        have hstep : step { s' with reader := s'.reader.skipSpace } ')' = .ok t := hclose
        rw [hpeek'] at hrun'
        simp only [hstep, hu] at hrun'
        rw [← Except.ok.inj hrun', herase, hparts]
        rfl
      · -- A comment has taken the closing away, so the group stays open.
        have hpeek' : s'.reader.skipSpace.peek? = none := by simp [Reader.peek?, hrest']
        rw [hpeek'] at hrun'
        exact absurd hrun' (finish_ne_ok hspaced.stack tree')
    | some c =>
      have hne := Reader.rest_ne_nil_of_peek? hpeek
      rw [hpeek] at hrun
      rw [h.reader.skipSpace.peek?_of_eq_some hpeek] at hrun'
      cases hstep : step { s with reader := s.reader.skipSpace } c with
      | error e =>
        simp only [hstep] at hrun
        cases hrun
      | ok t =>
        -- A step of the pattern is a step in the group, and leaves less of the pattern.
        obtain ⟨t', hstep', ht⟩ := step_carries hspaced hne t hstep
        simp only [hstep] at hrun
        simp only [hstep'] at hrun'
        refine ih ht.toEncloses ?_ hrun hrun'
        have hle := Reader.length_skipSpace_le s.reader
        have hlt' : t.reader.rest.length < s.reader.skipSpace.rest.length := ht.length_lt
        omega

/-- A text that begins with `?` is not read where another character comes next. -/
lemma skipText?_eq_none {text : String} (htext : text.toList.head? = some '?')
    (hpeek : r.peek? ≠ some '?') : r.skipText? text = none := by
  refine if_neg fun hpre => hpeek ?_
  obtain ⟨t, ht⟩ := List.isPrefixOf_iff_prefix.mp hpre
  rw [Reader.peek?, ← ht, List.head?_append, htext, Option.some_or]

end ParseState

/-- A repetition has nothing to repeat at the beginning of a pattern. -/
lemma head?_ne_of_run {n : ℕ} {p : Text} {tree : Tree}
    (h : ParseState.run (n + 1) ⟨[], ⟨0, []⟩, ⟨0, p, false⟩, []⟩ = .ok tree) :
    p.head? ≠ some '?' := by
  cases p with
  | nil => simp
  | cons c t =>
    rintro ⟨⟩
    cases h

/-- The reading of an enclosed pattern in front of its parenthesis. -/
def beforeGroup (p : Text) : ParseState :=
  ⟨[], ⟨0, [.assertion ⟨0, 2⟩ .wordBoundary]⟩, ⟨2, '(' :: (p ++ closing), false⟩, []⟩

/-- What stands before an enclosed pattern opens the group that it is read in. -/
lemma run_opening (n : ℕ) {p : Text} (hp : p.head? ≠ some '?') :
    ParseState.run (n + 2) ⟨[], ⟨0, []⟩, ⟨0, "\\b(".toList ++ p ++ closing, false⟩, []⟩ =
      ParseState.run n ⟨[outerGroup], ⟨3, []⟩, ⟨3, p ++ closing, false⟩, []⟩ := by
  have hpeek : (⟨3, p ++ closing, false⟩ : Reader).peek? ≠ some '?' := by
    cases p with
    | nil => simp [Reader.peek?, closing_eq]
    | cons c t => simpa [Reader.peek?] using hp
  have hnone {text : String} (htext : text.toList.head? = some '?') :
      (⟨3, p ++ closing, false⟩ : Reader).skipText? text = none :=
    ParseState.skipText?_eq_none htext hpeek
  have hgroup : (beforeGroup p).openParenthesis =
      .ok ⟨[outerGroup], ⟨3, []⟩, ⟨3, p ++ closing, false⟩, []⟩ := by
    have hnext : (beforeGroup p).reader.nextSpaced = ⟨3, p ++ closing, false⟩ := rfl
    -- All that changes what a parenthesis opens begins with `?`.
    simp only [ParseState.openParenthesis, hnext]
    rw [hnone rfl, hnone rfl, hnone rfl, hnone rfl, hnone rfl, hnone rfl, hnone rfl]
    rfl
  calc ParseState.run (n + 2) ⟨[], ⟨0, []⟩, ⟨0, "\\b(".toList ++ p ++ closing, false⟩, []⟩
      = ParseState.run (n + 1) (beforeGroup p) := rfl
    _ = match (beforeGroup p).openParenthesis with
        | .error e => .error e
        | .ok s => ParseState.run n s := rfl
    _ = ParseState.run n ⟨[outerGroup], ⟨3, []⟩, ⟨3, p ++ closing, false⟩, []⟩ := by rw [hgroup]

lemma run_of_parse {p : Text} {tree : Tree} (h : parse p = .ok tree) :
    ParseState.run (p.length + 1) ⟨[], ⟨0, []⟩, ⟨0, p, false⟩, []⟩ = .ok tree := by
  unfold parse at h
  split at h
  · cases h
  · next t hrun =>
    split at h
    · cases h
    · rw [hrun, h]

/-- A pattern that can be read by itself is read between word boundaries as a group between two of
them. -/
theorem parse_enclosed {p : Text} {tree tree' : Tree} (h : parse p = .ok tree)
    (h' : parse ("\\b(".toList ++ p ++ closing) = .ok tree') :
    tree'.erase = tree.erase.enclosed := by
  have hrun := run_of_parse h
  have hrun' := run_of_parse h'
  have hlength : ("\\b(".toList ++ p ++ closing).length + 1 = p.length + 1 + 4 + 2 := by
    simp [closing_eq]
  -- The first two steps read the opening.
  rw [hlength, run_opening _ (head?_ne_of_run hrun)] at hrun'
  refine ParseState.run_enclosed ?_ (Nat.lt_succ_self _) hrun hrun'
  exact ⟨.bottom, rfl, ⟨rfl, .inl rfl⟩, rfl⟩

end CommandShell.Pattern
