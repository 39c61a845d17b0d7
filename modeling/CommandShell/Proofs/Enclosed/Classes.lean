import CommandShell.Proofs.Enclosed.Readers
import Mathlib.Data.List.Forall2
import Mathlib.Data.List.TakeWhile

/-!
# Bracketed classes in an enclosed pattern

A class of a pattern is read in the same steps when the pattern stands between word boundaries.
The two readings keep stacks that are the same up to places, frame by frame, and every step reads a
character.  A class cannot run over the end of the pattern: whoever looks for its bracket there
fails on the pattern alone.
-/

namespace CommandShell.Pattern

/-! ## What is open -/

/-- The items read so far, without their places. -/
def ItemList.erase (l : ItemList) : List ClassSet :=
  l.items.map ClassSet.erase

lemma ItemList.erase_none (n n' : ℕ) : (none n').erase = (none n).erase := rfl

lemma ItemList.erase_push {l l' : ItemList} {item item' : ClassSet} (hl : l'.erase = l.erase)
    (hitem : item'.erase = item.erase) : (l'.push item').erase = (l.push item).erase := by
  simp only [erase, push, List.map_append, List.map_cons, List.map_nil] at hl ⊢
  rw [hl, hitem]

/-- Items are joined to one set in the same way wherever they stand. -/
lemma ItemList.erase_toSet (l : ItemList) :
    l.toSet.erase = (⟨.point 0, l.erase⟩ : ItemList).toSet := by
  obtain ⟨span, items⟩ := l
  match items with
  | [] => rfl
  | [item] => rfl
  | first :: second :: rest => simp [toSet, erase, ClassSet.erase, ClassSet.eraseAll_eq_map]

lemma ItemList.erase_toSet_congr {l l' : ItemList} (h : l'.erase = l.erase) :
    l'.toSet.erase = l.toSet.erase := by
  rw [erase_toSet, erase_toSet, h]

/-- Two frames that differ in their places only. -/
inductive ClassFrame.Same : ClassFrame → ClassFrame → Prop
  | bracket {before before' : ItemList} (span span' : Span) (negated : Bool)
    (h : before'.erase = before.erase) :
    Same (.bracket before span negated) (.bracket before' span' negated)
  | operation {left left' : ClassSet} (kind : SetOperation) (h : left'.erase = left.erase) :
    Same (.operation kind left) (.operation kind left')

/-- A class has a name of letters. -/
lemma NamedClass.isLetter_of_ofName? {name : Text} {c : NamedClass} (h : ofName? name = some c) :
    name ≠ [] ∧ ∀ d ∈ name, Text.isLetter d = true := by
  unfold ofName? at h
  split at h
  case h_15 => cases h
  all_goals
    next hname =>
      obtain rfl : name = _ := by rw [← String.toList_ofList (l := name), hname]
      decide

namespace ClassState

/-- The second reading of a class stands where the first does, in the longer text. -/
structure Encloses (s s' : ClassState) : Prop where
  stack : List.Forall₂ ClassFrame.Same s.stack s'.stack
  items_eq : s'.items.erase = s.items.erase
  reader : s.reader.Encloses s'.reader

variable {s s' : ClassState} {r r' : Reader}

/-- Both readings go on in the same way, and the first leaves fewer characters than a bound. -/
structure Follows (n : ℕ) (s s' : ClassState) : Prop extends Encloses s s' where
  length_lt : s.reader.rest.length < n

/-- An operation is closed in the same way wherever it stands. -/
lemma closeOperation_same {stack stack' : List ClassFrame} {right right' : ClassSet}
    (hstack : List.Forall₂ ClassFrame.Same stack stack') (hright : right'.erase = right.erase) :
    List.Forall₂ ClassFrame.Same (closeOperation stack right).1 (closeOperation stack' right').1 ∧
      (closeOperation stack' right').2.erase = (closeOperation stack right).2.erase := by
  cases hstack with
  | nil => exact ⟨.nil, hright⟩
  | cons hframe hrest =>
    cases hframe with
    | bracket span span' negated hbefore =>
      exact ⟨.cons (.bracket _ _ _ hbefore) hrest, hright⟩
    | operation kind hleft =>
      refine ⟨hrest, ?_⟩
      simp only [closeOperation, ClassSet.erase, hleft, hright]

/-- An operator has its left side from what stands before it. -/
lemma openOperation_follows (kind : SetOperation) (h : s.Encloses s')
    (hlength : 2 ≤ s.reader.rest.length) :
    Follows s.reader.rest.length (s.openOperation kind) (s'.openOperation kind) := by
  obtain ⟨hstack, hleft⟩ :=
    closeOperation_same h.stack (ItemList.erase_toSet_congr h.items_eq)
  refine ⟨⟨.cons (.operation kind hleft) hstack, rfl, h.reader.skip hlength⟩, ?_⟩
  simp only [openOperation, Reader.skip, List.length_drop]
  omega

/-! ## Brackets -/

lemma leadingHyphens_carries (opened opened' : ℕ) {n n' : ℕ} {l l' : ItemList}
    (h : r.Encloses r') (hl : l'.erase = l.erase) (hne : r.rest ≠ []) (hn : r.rest.length ≤ n)
    (hn' : r'.rest.length ≤ n') :
    Carries (Reader.Alike ItemList.erase (r.rest.length + 1)) (leadingHyphens opened n l r)
      (leadingHyphens opened' n' l' r') := by
  induction n generalizing n' l l' r r' with
  | zero => exact absurd (List.length_eq_zero_iff.mp (Nat.le_zero.mp hn)) hne
  | succ n ih =>
    obtain ⟨n', rfl⟩ : ∃ k, n' = k + 1 := by
      refine Nat.exists_eq_succ_of_ne_zero (Nat.pos_iff_ne_zero.mp ?_)
      exact Nat.lt_of_lt_of_le (List.length_pos_of_ne_nil hne) (Nat.le_trans h.length_ge hn')
    unfold leadingHyphens
    refine Carries.ite (h.peek?_eq_some_iff (by decide)) (fun _ => ?_) fun _ => ?_
    · have hnext := h.nextSpaced hne
      have hlt := Reader.length_nextSpaced_lt hne
      refine hnext.carries_of_atEnd fun hne' => ?_
      have hlt' : r'.nextSpaced.rest.length < r'.rest.length :=
        Reader.length_nextSpaced_lt (by simp [h.rest_eq_of_ne_nil hne, closing_eq])
      have hpush : (l'.push (.literal ⟨r'.charSpan, '-', false⟩)).erase =
          (l.push (.literal ⟨r.charSpan, '-', false⟩)).erase := ItemList.erase_push hl rfl
      have hn' : r'.nextSpaced.rest.length ≤ n' := by omega
      refine (ih hnext hpush hne' (by omega) hn').mono fun x y hxy => ?_
      exact hxy.mono (by omega)
    · exact Reader.Alike.carries hl h (Nat.lt_succ_self _)

/-- What may follow a bracket after its `^`: hyphens, and a `]` that stands for itself. -/
def openBracketFrom (s : ClassState) (negated : Bool) (r : Reader) : Except Fault ClassState :=
  let unclosed (r : Reader) : Fault := .here .classUnclosed (r.spanFrom s.reader.position)
  if r.atEnd then .error (unclosed r)
  else match leadingHyphens s.reader.position r.rest.length (.none r.position) r with
    | .error e => .error e
    | .ok (l, q) =>
      if l.items.isEmpty && q.peek? = some ']' then
        if q.nextSpaced.atEnd then .error (unclosed q.nextSpaced)
        else .ok ⟨.bracket s.items (q.nextSpaced.spanFrom s.reader.position) negated :: s.stack,
          l.push (.literal ⟨q.charSpan, ']', false⟩), q.nextSpaced⟩
      else .ok ⟨.bracket s.items (q.spanFrom s.reader.position) negated :: s.stack, l, q⟩

lemma openBracket_eq (s : ClassState) :
    s.openBracket =
      if s.reader.nextSpaced.atEnd then
        .error (.here .classUnclosed (s.reader.nextSpaced.spanFrom s.reader.position))
      else if s.reader.nextSpaced.peek? = some '^' then
        s.openBracketFrom true s.reader.nextSpaced.nextSpaced
      else s.openBracketFrom false s.reader.nextSpaced := by
  unfold openBracket
  by_cases hcaret : s.reader.nextSpaced.peek? = some '^'
  · simp only [hcaret, if_true, decide_true]
    rfl
  · simp only [hcaret, if_false, decide_false]
    rfl

lemma openBracketFrom_carries (negated : Bool) (h : s.Encloses s') (hr : r.Encloses r')
    (hlt : r.rest.length < s.reader.rest.length) :
    Carries (Follows s.reader.rest.length) (s.openBracketFrom negated r)
      (s'.openBracketFrom negated r') := by
  unfold openBracketFrom
  refine hr.carries_of_atEnd fun hne => ?_
  split
  · exact .error _ _
  · next l q hhyphens =>
    obtain ⟨⟨l', q'⟩, hhyphens', hl : l'.erase = l.erase, hq : q.Encloses q',
        hlen : q.rest.length < _⟩ :=
      leadingHyphens_carries _ s'.reader.position hr (ItemList.erase_none _ r'.position) hne
        (Nat.le_refl _) (Nat.le_refl _) _ hhyphens
    have hempty : l'.items.isEmpty = l.items.isEmpty := by
      simpa [ItemList.erase] using congrArg List.isEmpty hl
    rw [hhyphens']
    simp only [hempty, Bool.and_eq_true, decide_eq_true_iff,
      hq.peek?_eq_some_iff (c := ']') (by decide)]
    refine Carries.ite Iff.rfl (fun hclosed => ?_) fun _ => ?_
    · have hqne := Reader.rest_ne_nil_of_peek? hclosed.2
      have hlt' := Reader.length_nextSpaced_lt hqne
      refine (hq.nextSpaced hqne).carries_of_atEnd fun _ => .ok ?_
      exact ⟨⟨.cons (.bracket _ _ _ h.items_eq) h.stack, ItemList.erase_push hl rfl,
        hq.nextSpaced hqne⟩, by simp only; omega⟩
    · exact .ok ⟨⟨.cons (.bracket _ _ _ h.items_eq) h.stack, hl, hq⟩, by simp only; omega⟩

/-- A bracket is opened, with what may follow it at once. -/
lemma openBracket_carries (h : s.Encloses s') (hne : s.reader.rest ≠ []) :
    Carries (Follows s.reader.rest.length) s.openBracket s'.openBracket := by
  have hr := h.reader.nextSpaced hne
  have hlt := Reader.length_nextSpaced_lt hne
  rw [openBracket_eq, openBracket_eq]
  refine hr.carries_of_atEnd fun hne' => ?_
  have hlt' := Reader.length_nextSpaced_lt hne'
  refine Carries.ite (hr.peek?_eq_some_iff (by decide)) (fun _ => ?_) fun _ => ?_
  · exact openBracketFrom_carries true h (hr.nextSpaced hne') (by omega)
  · exact openBracketFrom_carries false h hr hlt

/-- A closing bracket ends the class, or gives an item of the class around it. -/
lemma closeBracket_carries (h : s.Encloses s') (hne : s.reader.rest ≠ []) :
    Carries (Sum.LiftRel (Follows s.reader.rest.length)
      (Reader.Alike Tree.erase s.reader.rest.length)) s.closeBracket s'.closeBracket := by
  have hlt := Reader.length_next_lt hne
  obtain ⟨hstack, hset⟩ := closeOperation_same h.stack (ItemList.erase_toSet_congr h.items_eq)
  unfold closeBracket
  rcases hclose : closeOperation s.stack s.items.toSet with ⟨stack, set⟩
  rcases hclose' : closeOperation s'.stack s'.items.toSet with ⟨stack', set'⟩
  rw [hclose, hclose'] at hstack hset
  cases hstack with
  | nil => exact .error _ _
  | cons hframe hrest =>
    cases hframe with
    | operation kind hleft => exact .error _ _
    | bracket span span' negated hbefore =>
      have htree : ∀ span span' : Span, (ClassSet.bracketed span' negated set').erase =
          (ClassSet.bracketed span negated set).erase := by
        intro span span'
        simp only [ClassSet.erase, hset]
      cases hrest with
      | nil =>
        refine .ok (.inr ⟨?_, h.reader.next hne, hlt⟩)
        simp only [Tree.erase, hset]
      | cons hframe' hrest' =>
        refine .ok (.inl ⟨⟨.cons hframe' hrest', ?_, h.reader.next hne⟩, hlt⟩)
        exact ItemList.erase_push hbefore (htree _ _)

/-! ## Items -/

/-- The text of a named class. -/
def namedText (negated : Bool) (name : Text) : Text :=
  '[' :: ':' :: ((if negated then ['^'] else []) ++ (name ++ [':', ']']))

lemma length_namedText (negated : Bool) (name : Text) :
    (namedText negated name).length = 2 + (if negated then 1 else 0) + name.length + 2 := by
  cases negated <;> simp [namedText] <;> omega

/-- The text after `[:` without its `^`. -/
lemma caret_append (rest : Text) :
    (if rest.head? == some '^' then ['^'] else []) ++
      (if rest.head? == some '^' then rest.tail else rest) = rest := by
  cases rest with
  | nil => rfl
  | cons c t =>
    by_cases hc : c = '^'
    · simp [hc]
    · simp [hc]

/-- A named class is read exactly where its text stands. -/
lemma namedClass?_eq_some_iff {x : ClassSet × Reader} :
    namedClass? r = some x ↔ ∃ negated name c, namedText negated name <+: r.rest ∧
      NamedClass.ofName? name = some c ∧
      x = (.named ((r.skip (namedText negated name).length).spanFrom r.position) negated c,
        r.skip (namedText negated name).length) := by
  constructor
  · intro h
    unfold namedClass? at h
    split at h
    · next rest hrest =>
      simp only at h
      split at h
      · next after c hdrop hname =>
        refine ⟨rest.head? == some '^', _, c, ⟨after, ?_⟩, hname, ?_⟩
        · have hbody := List.takeWhile_append_dropWhile (p := (· != ':'))
            (l := if rest.head? == some '^' then rest.tail else rest)
          rw [hdrop] at hbody
          rw [hrest]
          conv_rhs => rw [← caret_append rest, ← hbody]
          simp [namedText]
        · rw [length_namedText]
          exact (Option.some.inj h).symm
      · cases h
    · cases h
  · rintro ⟨negated, name, c, ⟨after, hrest⟩, hname, rfl⟩
    -- A name has letters only: it begins with no caret, and ends at the first colon.
    obtain ⟨hne, hletters⟩ := NamedClass.isLetter_of_ofName? hname
    have hcolon : ∀ d ∈ name, (d != ':') = true := by
      intro d hd
      refine bne_iff_ne.mpr ?_
      rintro rfl
      cases hletters _ hd
    have hcaret : (name ++ ':' :: ']' :: after).head? ≠ some '^' := by
      intro hhead
      rw [List.head?_append_of_ne_nil _ hne] at hhead
      cases hletters _ (List.mem_of_mem_head? hhead)
    have htake : (name ++ ':' :: ']' :: after).takeWhile (· != ':') = name := by
      rw [List.takeWhile_append_of_pos hcolon]
      simp
    have hdrop : (name ++ ':' :: ']' :: after).dropWhile (· != ':') = ':' :: ']' :: after := by
      rw [List.dropWhile_append_of_pos hcolon]
      simp
    rw [length_namedText]
    unfold namedClass?
    cases negated with
    | true =>
      have hrest' : r.rest = '[' :: ':' :: '^' :: (name ++ ':' :: ']' :: after) := by
        simp [← hrest, namedText]
      simp [hrest', htake, hdrop, hname]
    | false =>
      have hrest' : r.rest = '[' :: ':' :: (name ++ ':' :: ']' :: after) := by
        simp [← hrest, namedText]
      simp only [hrest', beq_eq_false_iff_ne.mpr hcaret, Bool.false_eq_true, if_false, htake, hdrop,
        hname]

lemma paren_not_mem_namedText {negated : Bool} {name : Text} {c : NamedClass}
    (h : NamedClass.ofName? name = some c) : ')' ∉ namedText negated name := by
  have hname : ')' ∉ name := by
    intro hmem
    cases (NamedClass.isLetter_of_ofName? h).2 _ hmem
  cases negated <;> simp [namedText, hname]

/-- A named class is read in the same way, and not over the end of the pattern. -/
lemma namedClass?_rel (h : r.Encloses r') :
    Option.Rel (Reader.Alike ClassSet.erase r.rest.length) (namedClass? r) (namedClass? r') := by
  have hstands {negated : Bool} {name : Text} {c : NamedClass}
      (hname : NamedClass.ofName? name = some c) :
      namedText negated name <+: r'.rest ↔ namedText negated name <+: r.rest := by
    rcases h.rest_eq with hrest | ⟨hrest, hrest'⟩
    · rw [hrest, prefix_append_closing_iff (paren_not_mem_namedText hname)]
    · rw [hrest, hrest']
  cases hread : namedClass? r with
  | none =>
    cases hread' : namedClass? r' with
    | none => exact .none
    | some y =>
      obtain ⟨negated, name, c, hpre, hname, -⟩ := namedClass?_eq_some_iff.mp hread'
      have hfound :=
        namedClass?_eq_some_iff.mpr ⟨negated, name, c, (hstands hname).mp hpre, hname, rfl⟩
      rw [hread] at hfound
      cases hfound
  | some x =>
    obtain ⟨negated, name, c, hpre, hname, rfl⟩ := namedClass?_eq_some_iff.mp hread
    rw [namedClass?_eq_some_iff.mpr ⟨negated, name, c, (hstands hname).mpr hpre, hname, rfl⟩]
    have hlen := hpre.length_le
    refine .some ⟨rfl, h.skip hlen, ?_⟩
    have hpos : 0 < (namedText negated name).length := by
      rw [length_namedText]
      omega
    simp only [Reader.skip, List.length_drop]
    omega

lemma item_carries (h : r.Encloses r') :
    Carries (Reader.Alike Atom.erase r.rest.length) (item r) (item r') := by
  unfold item
  cases hrest : r.rest with
  | nil => exact .error _ _
  | cons c t =>
    have hne : r.rest ≠ [] := by simp [hrest]
    simp only [h.rest_cons hrest]
    rw [← hrest]
    refine Carries.ite Iff.rfl (fun _ => Reader.escape_carries h hne) fun _ => ?_
    exact Reader.Alike.carries rfl (h.next hne) (Reader.length_next_lt hne)

end ClassState

lemma Atom.toClassItem_carries {a a' : Atom} (h : a'.erase = a.erase) :
    Carries (fun x y => y.erase = x.erase) a.toClassItem a'.toClassItem := by
  cases a <;> cases a' <;> simp only [Atom.erase, reduceCtorEq] at h
  case literal.literal l l' => exact .ok (by simpa [ClassSet.erase] using h)
  case dot.dot => exact .error _ _
  case assertion.assertion => exact .error _ _
  case letter.letter =>
    obtain ⟨-, rfl, rfl⟩ := Atom.letter.inj h
    exact .ok rfl
  case property.property =>
    obtain ⟨-, rfl, rfl⟩ := Atom.property.inj h
    exact .ok rfl

lemma Atom.toRangeEnd_carries {a a' : Atom} (h : a'.erase = a.erase) :
    Carries (fun x y => y.erase = x.erase) a.toRangeEnd a'.toRangeEnd := by
  cases a <;> cases a' <;> simp only [Atom.erase, reduceCtorEq] at h
  case literal.literal l l' => exact .ok (Atom.literal.inj h)
  all_goals exact .error _ _

namespace Reader

variable {r r' : Reader}

/-- Over the blanks of a text, and over the beginning of a comment and the blanks after it. -/
def pastSpace (t : Text) : Text :=
  let past := t.dropWhile Text.isBlank
  match past with
  | '#' :: comment => comment.dropWhile Text.isBlank
  | _ => past

lemma pastSpace_of_cons {t u : Text} {c : Char} (ht : t.dropWhile Text.isBlank = c :: u) :
    pastSpace t = if c = '#' then u.dropWhile Text.isBlank else c :: u := by
  simp only [pastSpace, ht]
  by_cases hc : c = '#'
  · subst hc
    rfl
  · simp [hc]

lemma pastSpace_of_nil {t : Text} (ht : t.dropWhile Text.isBlank = []) : pastSpace t = [] := by
  unfold pastSpace
  rw [ht]

lemma peekSpaced?_of_verbose (hverbose : r.verbose = true) :
    r.peekSpaced? = (pastSpace r.rest.tail).head?.or r.rest.tail.head? := by
  cases ht : r.rest.tail.dropWhile Text.isBlank with
  | nil => simp [peekSpaced?, hverbose, ht, pastSpace_of_nil ht]
  | cons c u =>
    rw [pastSpace_of_cons ht]
    by_cases hc : c = '#'
    · subst hc
      simp only [peekSpaced?, hverbose, ht, Bool.not_true, Bool.false_eq_true, if_false, if_true]
      cases u.dropWhile Text.isBlank <;> rfl
    · simp [peekSpaced?, hverbose, ht, hc]

/-- Blanks do not count, in a comment or out of it. -/
lemma dropSpace_of_blanks (comment : Bool) {t : Text} (ht : ∀ c ∈ t, Text.isBlank c = true) :
    (dropSpace comment t).2 = [] := by
  fun_induction dropSpace comment t with
  | case1 comment => rfl
  | case2 c t n left hdrop ih =>
    simpa [hdrop] using ih fun d hd => ht d (List.mem_cons_of_mem c hd)
  | case3 c t hspace n left hdrop ih =>
    simpa [hdrop] using ih fun d hd => ht d (List.mem_cons_of_mem c hd)
  | case4 c t hspace => simp [ht c List.mem_cons_self] at hspace

lemma dropSpace_append_of_blanks {t u : Text} (ht : ∀ c ∈ t, Text.isBlank c = true) :
    (dropSpace false (t ++ u)).2 = (dropSpace false u).2 := by
  induction t with
  | nil => rfl
  | cons c t ih =>
    obtain ⟨hc, ht⟩ := List.forall_mem_cons.mp ht
    have hcomment : (c == '#') = false := by
      refine beq_eq_false_iff_ne.mpr ?_
      rintro rfl
      cases hc
    simpa [dropSpace, hc, hcomment] using ih ht

/-- Where the look over the space finds nothing, nothing but space is left. -/
lemma dropSpace_of_pastSpace {t : Text} (h : pastSpace t = []) :
    (dropSpace false t).2 = [] ∧ ∀ c ∈ t.head?, Text.isBlank c = true ∨ c = '#' := by
  have hblanks : ∀ c ∈ t.takeWhile Text.isBlank, Text.isBlank c = true :=
    fun c hc => List.mem_takeWhile_imp hc
  cases hdrop : t.dropWhile Text.isBlank with
  | nil =>
    have ht : ∀ c ∈ t, Text.isBlank c = true := List.dropWhile_eq_nil_iff.mp hdrop
    exact ⟨dropSpace_of_blanks false ht, fun c hc => .inl (ht c (List.mem_of_mem_head? hc))⟩
  | cons c u =>
    have hsplit : t = t.takeWhile Text.isBlank ++ c :: u := by
      rw [← hdrop, List.takeWhile_append_dropWhile]
    rw [pastSpace_of_cons hdrop] at h
    obtain rfl : c = '#' := by
      by_contra hc
      simp [hc] at h
    have hu : ∀ d ∈ u, Text.isBlank d = true := List.dropWhile_eq_nil_iff.mp (by simpa using h)
    constructor
    · rw [hsplit, dropSpace_append_of_blanks hblanks]
      simpa [dropSpace] using dropSpace_of_blanks true hu
    · intro d hd
      rw [hsplit] at hd
      cases hblank : t.takeWhile Text.isBlank with
      | nil =>
        right
        simpa [hblank, eq_comm] using hd
      | cons b bs =>
        left
        have : b = d := by simpa [hblank] using hd
        exact this ▸ hblanks b (by simp [hblank])

lemma pastSpace_append_closing {t : Text} (h : pastSpace t ≠ []) :
    pastSpace (t ++ closing) = pastSpace t ++ closing := by
  cases hdrop : t.dropWhile Text.isBlank with
  | nil => exact absurd (pastSpace_of_nil hdrop) h
  | cons c u =>
    have hdrop' : (t ++ closing).dropWhile Text.isBlank = c :: (u ++ closing) := by
      simp [List.dropWhile_append, hdrop]
    rw [pastSpace_of_cons hdrop] at h
    rw [pastSpace_of_cons hdrop, pastSpace_of_cons hdrop']
    split
    · next hc =>
      rw [if_pos hc] at h
      simp [List.dropWhile_append, h]
    · rfl

/-- The look over the space finds the same, unless it runs into the end of the pattern. -/
lemma Encloses.peekSpaced?_eq_or (h : Encloses r r') (hne : r.rest ≠ []) :
    r'.peekSpaced? = r.peekSpaced? ∨
      r.nextSpaced.rest = [] ∧ ∀ c ∈ r.peekSpaced?, Text.isBlank c = true ∨ c = '#' := by
  have htail : r'.rest.tail = r.rest.tail ++ closing := by
    rw [h.rest_eq_of_ne_nil hne, List.tail_append_of_ne_nil hne]
  by_cases hverbose : r.verbose = true
  · rw [peekSpaced?_of_verbose hverbose, peekSpaced?_of_verbose (h.verbose_eq.trans hverbose),
      htail]
    by_cases hpast : pastSpace r.rest.tail = []
    · obtain ⟨hdrop, hhead⟩ := dropSpace_of_pastSpace hpast
      right
      refine ⟨?_, by simpa [hpast] using hhead⟩
      simpa [Reader.nextSpaced, Reader.skipSpace, hverbose] using hdrop
    · left
      rw [pastSpace_append_closing hpast, List.head?_append_of_ne_nil _ hpast]
      obtain ⟨c, u, hcons⟩ := List.exists_cons_of_ne_nil hpast
      simp [hcons]
  · have hverbose' : ¬ r'.verbose = true := by rwa [h.verbose_eq]
    have hpeek : r.peekSpaced? = r.rest.tail.head? := by simp [peekSpaced?, peekSecond?, hverbose]
    have hpeek' : r'.peekSpaced? = r'.rest.tail.head? := by
      simp [peekSpaced?, peekSecond?, hverbose']
    rw [hpeek, hpeek', htail]
    by_cases hrest : r.rest.tail = []
    · right
      exact ⟨by simp [Reader.nextSpaced, Reader.skipSpace, hverbose, hrest], by simp [hrest]⟩
    · left
      exact List.head?_append_of_ne_nil _ hrest

end Reader

namespace ClassState

variable {s s' : ClassState} {r r' : Reader} {first first' : Atom}

/-- A single item of a class, read up to a place. -/
def pushItem (s : ClassState) (first : Atom) (r : Reader) : Except Fault ClassState :=
  match first.toClassItem with
  | .error e => .error e
  | .ok set => .ok { s with items := s.items.push set, reader := r }

/-- A range of characters of which the first is read.  The reader is at the hyphen. -/
def pushRange (s : ClassState) (first : Atom) (r : Reader) : Except Fault ClassState :=
  if r.nextSpaced.atEnd then .error s.unclosed
  else match item r.nextSpaced with
    | .error e => .error e
    | .ok (last, q) =>
      let span : Span := ⟨first.span.start, last.span.stop⟩
      match first.toRangeEnd, last.toRangeEnd with
      | .error e, _ => .error e
      | _, .error e => .error e
      | .ok a, .ok b =>
        if b.char < a.char then .error (.here .classRangeInvalid span)
        else .ok { s with items := s.items.push (.range span a b), reader := q }

lemma itemOrRange_eq (s : ClassState) :
    s.itemOrRange = match item s.reader with
      | .error e => .error e
      | .ok (first, q) =>
        if q.skipSpace.atEnd then .error s.unclosed
        else if q.skipSpace.peek? ≠ some '-' || q.skipSpace.peekSpaced? = some ']' ||
            q.skipSpace.peekSpaced? = some '-' then
          s.pushItem first q.skipSpace
        else s.pushRange first q.skipSpace := rfl

lemma pushItem_carries {n : ℕ} (h : s.Encloses s') (hfirst : first'.erase = first.erase)
    (hr : r.Encloses r') (hlt : r.rest.length < n) :
    Carries (Follows n) (s.pushItem first r) (s'.pushItem first' r') := by
  unfold pushItem
  cases hset : first.toClassItem with
  | error e => exact .error _ _
  | ok set =>
    obtain ⟨set', hset', herase⟩ := Atom.toClassItem_carries hfirst set hset
    rw [hset']
    exact .ok ⟨⟨h.stack, ItemList.erase_push h.items_eq herase, hr⟩, hlt⟩

lemma pushRange_carries {n : ℕ} (h : s.Encloses s') (hfirst : first'.erase = first.erase)
    (hr : r.Encloses r') (hne : r.rest ≠ []) (hlt : r.rest.length < n) :
    Carries (Follows n) (s.pushRange first r) (s'.pushRange first' r') := by
  have hnext := hr.nextSpaced hne
  have hlt' := Reader.length_nextSpaced_lt hne
  unfold pushRange
  refine hnext.carries_of_atEnd fun _ => ?_
  cases hitem : item r.nextSpaced with
  | error e => exact .error _ _
  | ok x =>
    obtain ⟨last, q⟩ := x
    obtain ⟨⟨last', q'⟩, hitem', hlast, hq, hlen⟩ := item_carries hnext _ hitem
    rw [hitem']
    cases ha : first.toRangeEnd with
    | error e => exact .error _ _
    | ok a =>
      cases hb : last.toRangeEnd with
      | error e =>
        simp only [hb]
        exact .error _ _
      | ok b =>
        obtain ⟨a', ha', haa⟩ := Atom.toRangeEnd_carries hfirst a ha
        obtain ⟨b', hb', hbb⟩ := Atom.toRangeEnd_carries hlast b hb
        have hchar : a'.char = a.char := (Literal.mk.inj haa).2.1
        have hchar' : b'.char = b.char := (Literal.mk.inj hbb).2.1
        simp only [hb, ha', hb', hchar, hchar']
        refine Carries.ite Iff.rfl (fun _ => .error _ _) fun _ => .ok ?_
        refine ⟨⟨h.stack, ItemList.erase_push h.items_eq ?_, hq⟩, ?_⟩
        · simp only [ClassSet.erase, haa, hbb]
        · exact Nat.lt_trans hlen (by omega)

/-- An item or a range is read in the same way. -/
lemma itemOrRange_carries (h : s.Encloses s') :
    Carries (Follows s.reader.rest.length) s.itemOrRange s'.itemOrRange := by
  rw [itemOrRange_eq, itemOrRange_eq]
  cases hitem : item s.reader with
  | error e => exact .error _ _
  | ok x =>
    obtain ⟨first, q⟩ := x
    obtain ⟨⟨first', q'⟩, hitem', hfirst, hq : q.Encloses q', hlen⟩ := item_carries h.reader _ hitem
    have hlt : q.skipSpace.rest.length < s.reader.rest.length :=
      Nat.lt_of_le_of_lt (Reader.length_skipSpace_le q) hlen
    have hspace := hq.skipSpace
    rw [hitem']
    refine hspace.carries_of_atEnd fun hne => ?_
    have hyphen := hspace.peek?_eq_some_iff (c := '-') (by decide)
    rcases hspace.peekSpaced?_eq_or hne with hpeek | ⟨hend, hpeek⟩
    · refine Carries.ite (by simp only [ne_eq, hyphen, hpeek]) (fun _ => ?_) fun _ => ?_
      · exact pushItem_carries h hfirst hspace hlt
      · exact pushRange_carries h hfirst hspace hne hlt
    · -- Only a range looks at what follows, and there is nothing for it to end with.
      by_cases hrange : q.skipSpace.peek? = some '-'
      · have hbracket : q.skipSpace.peekSpaced? ≠ some ']' :=
          fun hsome => absurd (hpeek _ hsome) (by decide)
        have hsecond : q.skipSpace.peekSpaced? ≠ some '-' :=
          fun hsome => absurd (hpeek _ hsome) (by decide)
        rw [if_neg (by simp [hrange, hbracket, hsecond]), pushRange,
          if_pos (by simp [Reader.atEnd, hend])]
        exact .error _ _
      · rw [if_pos (by simp [hrange]), if_pos (by simp [hyphen, hrange])]
        exact pushItem_carries h hfirst hspace hlt

/-! ## The whole class -/

/-- What a step does at a character. -/
def stepAt (s : ClassState) (c : Char) : Except Fault (ClassState ⊕ (Tree × Reader)) :=
  if c = '[' then
    match (if s.stack.isEmpty then none else namedClass? s.reader) with
    | some (set, r) => .ok (.inl { s with items := s.items.push set, reader := r })
    | none => (openBracket s).map .inl
  else if c = ']' then closeBracket s
  else if c = '&' && s.reader.peekSecond? = some '&' then .ok (.inl (openOperation .intersection s))
  else if c = '-' && s.reader.peekSecond? = some '-' then .ok (.inl (openOperation .difference s))
  else if c = '~' && s.reader.peekSecond? = some '~' then
    .ok (.inl (openOperation .symmetricDifference s))
  else (itemOrRange s).map .inl

lemma step_eq (s : ClassState) :
    s.step = match s.reader.skipSpace.peek? with
      | none => .error (unclosed { s with reader := s.reader.skipSpace })
      | some c => stepAt { s with reader := s.reader.skipSpace } c := rfl

/-- A bracket inside a class may be that of a named class. -/
lemma innerBracket_rel (h : s.Encloses s') :
    Option.Rel (Reader.Alike ClassSet.erase s.reader.rest.length)
      (if s.stack.isEmpty then none else namedClass? s.reader)
      (if s'.stack.isEmpty then none else namedClass? s'.reader) := by
  have hempty : s'.stack.isEmpty = s.stack.isEmpty := by
    rw [Bool.eq_iff_iff, List.isEmpty_iff_length_eq_zero, List.isEmpty_iff_length_eq_zero,
      h.stack.length_eq]
  rw [hempty]
  split
  · exact .none
  · exact namedClass?_rel h.reader

/-- A step that is at a character reads it. -/
lemma stepAt_carries {c : Char} (h : s.Encloses s') (hpeek : s.reader.peek? = some c) :
    Carries (Sum.LiftRel (Follows s.reader.rest.length)
      (Reader.Alike Tree.erase s.reader.rest.length)) (s.stepAt c) (s'.stepAt c) := by
  have hne := Reader.rest_ne_nil_of_peek? hpeek
  have hsecond {d : Char} (hd : d ≠ ')') :
      (c = d && s'.reader.peekSecond? = some d) = (c = d && s.reader.peekSecond? = some d) := by
    simp only [h.reader.peekSecond?_eq_some_iff hne hd]
  have hoperation {d : Char} (kind : SetOperation)
      (hcond : (c = d && s.reader.peekSecond? = some d) = true) :
      Carries (Sum.LiftRel (Follows s.reader.rest.length)
        (Reader.Alike Tree.erase s.reader.rest.length)) (.ok (.inl (s.openOperation kind)))
        (.ok (.inl (s'.openOperation kind))) := by
    refine .ok (.inl (openOperation_follows kind h ?_))
    have hlength : s.reader.rest.tail ≠ [] := by
      intro hnil
      simp [Reader.peekSecond?, hnil] at hcond
    have hpos := List.length_pos_of_ne_nil hlength
    rw [List.length_tail] at hpos
    omega
  unfold stepAt
  rw [hsecond (by decide), hsecond (by decide), hsecond (by decide)]
  refine Carries.ite Iff.rfl (fun _ => ?_) fun _ => ?_
  · have hinner := innerBracket_rel h
    generalize (if s.stack.isEmpty then none else namedClass? s.reader) = x at hinner ⊢
    generalize (if s'.stack.isEmpty then none else namedClass? s'.reader) = y at hinner ⊢
    cases hinner with
    | none => exact (openBracket_carries h hne).map_inl
    | some hset =>
      refine .ok (.inl ⟨⟨h.stack, ?_, hset.encloses⟩, hset.length_lt⟩)
      exact ItemList.erase_push h.items_eq hset.fst_eq
  refine Carries.ite Iff.rfl (fun _ => closeBracket_carries h hne) fun _ => ?_
  refine Carries.ite Iff.rfl (hoperation .intersection) fun _ => ?_
  refine Carries.ite Iff.rfl (hoperation .difference) fun _ => ?_
  refine Carries.ite Iff.rfl (hoperation .symmetricDifference) fun _ => ?_
  exact (itemOrRange_carries h).map_inl

/-- Every step reads a character, and the same one. -/
lemma step_carries (h : s.Encloses s') :
    Carries (Sum.LiftRel (Follows s.reader.rest.length)
      (Reader.Alike Tree.erase s.reader.rest.length)) s.step s'.step := by
  have hspace := h.reader.skipSpace
  have hle := Reader.length_skipSpace_le s.reader
  rw [step_eq, step_eq]
  cases hpeek : s.reader.skipSpace.peek? with
  | none => exact .error _ _
  | some c =>
    rw [hspace.peek?_of_eq_some hpeek]
    have hspaced : Encloses { s with reader := s.reader.skipSpace }
        { s' with reader := s'.reader.skipSpace } := ⟨h.stack, h.items_eq, hspace⟩
    refine (stepAt_carries hspaced hpeek).mono fun x y hxy => ?_
    exact hxy.mono (fun a b hab => ⟨hab.toEncloses, Nat.lt_of_lt_of_le hab.length_lt hle⟩)
      fun a b hab => hab.mono hle

lemma run_carries (n m : ℕ) (h : s.Encloses s') :
    Carries (Reader.Alike Tree.erase s.reader.rest.length) (run n s) (run (n + m) s') := by
  induction n generalizing s s' with
  | zero => exact .error _ _
  | succ n ih =>
    rw [Nat.succ_add, run, run]
    cases hstep : s.step with
    | error e => exact .error _ _
    | ok x =>
      obtain ⟨y, hy, hxy⟩ := step_carries h x hstep
      rw [hy]
      cases hxy with
      | inl hnext =>
        refine (ih hnext.toEncloses).mono fun a b hab => ?_
        exact hab.mono (Nat.le_of_lt hnext.length_lt)
      | inr hdone => exact .ok hdone

end ClassState

/-- A class is read of the longer text too, and takes at least one character. -/
lemma Reader.bracketed_carries {r r' : Reader} (h : r.Encloses r') (hne : r.rest ≠ []) :
    Carries (Reader.Alike Tree.erase r.rest.length) r.bracketed r'.bracketed := by
  have hlength : r'.rest.length = r.rest.length + 3 := by
    rw [h.rest_eq_of_ne_nil hne, List.length_append, closing_eq]
    rfl
  unfold bracketed
  rw [hlength, Nat.add_right_comm]
  exact ClassState.run_carries (r.rest.length + 1) 3 ⟨.nil, rfl, h⟩

end CommandShell.Pattern
