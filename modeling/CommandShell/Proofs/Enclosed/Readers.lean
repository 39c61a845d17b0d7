import CommandShell.Proofs.Spans
import Mathlib.Data.List.Basic

/-!
# Reading with a parenthesis after the text

A pattern that is searched for whole words is put between `\b(` and `)\b` before it is read.  The
reader of the longer text is then at the same place as one that reads the pattern alone, with more
text after it (`Reader.Encloses`).  The two part only at the end: in verbose mode a comment at the
end of the pattern runs on over what comes after it, and nothing is left of either.

What is read of the pattern alone is read of the longer text too, up to places (`Carries`).  For
this no reader may take the parenthesis for a part of what it reads, and where one runs into the
end of the pattern it has to fail there.  Every reader also leaves less than it was given, which is
what bounds the steps that a pattern takes.
-/

namespace CommandShell.Pattern

/-- What comes after a pattern that is put between word boundaries. -/
def closing : Text :=
  ")\\b".toList

lemma closing_eq : closing = [')', '\\', 'b'] := rfl

/-- A text without the parenthesis does not reach into the closing. -/
lemma prefix_append_closing_iff {u t : Text} (hu : ')' ∉ u) : u <+: t ++ closing ↔ u <+: t := by
  refine ⟨fun hpre => ?_, fun hpre => hpre.trans (List.prefix_append _ _)⟩
  rcases Nat.lt_or_ge t.length u.length with hlt | hle
  · have hparen : t ++ [')'] <+: t ++ closing :=
      (List.prefix_append_right_inj t).mpr ⟨['\\', 'b'], rfl⟩
    have hin : t ++ [')'] <+: u :=
      List.prefix_of_prefix_length_le hparen hpre (by simpa [Nat.succ_le_iff] using hlt)
    exact absurd (hin.subset (by simp)) hu
  · exact List.prefix_of_prefix_length_le hpre (List.prefix_append _ _) hle

/-! ## Results that are carried over -/

/-- Whatever the first reading finds, the second finds too, and the two are related. -/
def Carries {α : Type} (R : α → α → Prop) (x y : Except Fault α) : Prop :=
  ∀ a, x = .ok a → ∃ b, y = .ok b ∧ R a b

namespace Carries

variable {α β : Type} {R : α → α → Prop} {x y x' y' : Except Fault α}

/-- Nothing is asked of a reading that fails alone. -/
lemma error (e : Fault) (y : Except Fault α) : Carries R (.error e) y := by
  rintro a ⟨⟩

lemma ok {a b : α} (h : R a b) : Carries R (.ok a) (.ok b) := by
  rintro a' ⟨⟩
  exact ⟨b, rfl, h⟩

/-- A choice that falls the same way in both. -/
lemma ite {p q : Prop} [Decidable p] [Decidable q] (hpq : q ↔ p) (hpos : p → Carries R x y)
    (hneg : ¬ p → Carries R x' y') : Carries R (if p then x else x') (if q then y else y') := by
  by_cases hp : p
  · rw [if_pos hp, if_pos (hpq.mpr hp)]
    exact hpos hp
  · rw [if_neg hp, if_neg (mt hpq.mp hp)]
    exact hneg hp

/-- A result of which the second kind does not come about. -/
lemma map_inl {S : β → β → Prop} (h : Carries R x y) :
    Carries (Sum.LiftRel R S) (x.map Sum.inl) (y.map Sum.inl) := by
  cases hx : x with
  | error e => exact .error e _
  | ok a =>
    obtain ⟨b, rfl, hab⟩ := h a hx
    exact .ok (.inl hab)

lemma mono {R' : α → α → Prop} (h : Carries R x y) (hR : ∀ a b, R a b → R' a b) :
    Carries R' x y := by
  intro a ha
  obtain ⟨b, hb, hab⟩ := h a ha
  exact ⟨b, hb, hR a b hab⟩

end Carries

/-! ## Readers -/

namespace Reader

variable {r r' : Reader} {c : Char} {t : Text}

/-- The second reader has the text of the first before it, and then the closing, unless a comment
has taken that away. -/
structure Encloses (r r' : Reader) : Prop where
  verbose_eq : r'.verbose = r.verbose
  rest_eq : r'.rest = r.rest ++ closing ∨ r.rest = [] ∧ r'.rest = []

@[simp] lemma rest_next (r : Reader) : r.next.rest = r.rest.tail := by
  unfold next
  split
  · next h => simp [h]
  · next h => simp [h]

lemma rest_ne_nil_of_peek? (hpeek : r.peek? = some c) : r.rest ≠ [] := by
  intro hnil
  simp [peek?, hnil] at hpeek

@[simp] lemma verbose_next (r : Reader) : r.next.verbose = r.verbose := by
  unfold next
  split
  · rfl
  · rfl

@[simp] lemma verbose_skipSpace (r : Reader) : r.skipSpace.verbose = r.verbose := by
  unfold skipSpace
  split
  · rfl
  · rfl

/-- What is left of a text after space in front of the closing. -/
lemma dropSpace_append (comment : Bool) (t : Text) :
    (dropSpace comment (t ++ closing)).2 = (dropSpace comment t).2 ++ closing ∨
      (dropSpace comment t).2 = [] ∧ (dropSpace comment (t ++ closing)).2 = [] := by
  fun_induction dropSpace comment t with
  | case1 comment =>
    cases comment
    · exact .inl rfl
    · exact .inr ⟨rfl, rfl⟩
  | case2 c t n left hdrop ih => simpa [dropSpace, hdrop] using ih
  | case3 c t hspace n left hdrop ih => simpa [dropSpace, hspace, hdrop] using ih
  | case4 c t hspace =>
    left
    simp [dropSpace, hspace]

/-- Skipping space leaves no more than there was. -/
lemma length_dropSpace_le (comment : Bool) (t : Text) :
    (dropSpace comment t).2.length ≤ t.length := by
  fun_induction dropSpace comment t with
  | case1 comment => exact Nat.le_refl _
  | case2 c t n left hdrop ih => exact Nat.le_succ_of_le (by simpa [hdrop] using ih)
  | case3 c t hspace n left hdrop ih => exact Nat.le_succ_of_le (by simpa [hdrop] using ih)
  | case4 c t hspace => exact Nat.le_refl _

lemma length_skipSpace_le (r : Reader) : r.skipSpace.rest.length ≤ r.rest.length := by
  unfold skipSpace
  split
  · exact length_dropSpace_le false r.rest
  · exact Nat.le_refl _

lemma length_nextSpaced_lt (hrest : r.rest ≠ []) : r.nextSpaced.rest.length < r.rest.length := by
  have hle := length_skipSpace_le r.next
  have hpos := List.length_pos_of_ne_nil hrest
  rw [rest_next, List.length_tail] at hle
  unfold nextSpaced
  omega

lemma length_next_lt (hrest : r.rest ≠ []) : r.next.rest.length < r.rest.length := by
  have hpos := List.length_pos_of_ne_nil hrest
  rw [rest_next, List.length_tail]
  omega

namespace Encloses

variable (h : Encloses r r')

include h

/-- Before the end of the pattern the closing stands. -/
lemma rest_eq_of_ne_nil (hrest : r.rest ≠ []) : r'.rest = r.rest ++ closing :=
  h.rest_eq.resolve_right fun hend => hrest hend.1

lemma rest_cons (hrest : r.rest = c :: t) : r'.rest = c :: (t ++ closing) := by
  rw [h.rest_eq_of_ne_nil (by simp [hrest]), hrest, List.cons_append]

lemma length_ge : r.rest.length ≤ r'.rest.length := by
  rcases h.rest_eq with hrest | ⟨hrest, hrest'⟩
  · rw [hrest, List.length_append]
    exact Nat.le_add_right _ _
  · simp [hrest, hrest']

lemma skipSpace : Encloses r.skipSpace r'.skipSpace := by
  refine ⟨by simpa using h.verbose_eq, ?_⟩
  by_cases hverbose : r.verbose = true
  · have hverbose' : r'.verbose = true := h.verbose_eq.trans hverbose
    simp only [Reader.skipSpace, hverbose, hverbose', if_true]
    rcases h.rest_eq with hrest | ⟨hrest, hrest'⟩
    · rw [hrest]
      exact dropSpace_append false r.rest
    · rw [hrest, hrest']
      exact .inr ⟨rfl, rfl⟩
  · have hverbose' : ¬ r'.verbose = true := by rwa [h.verbose_eq]
    simp only [Reader.skipSpace, hverbose, hverbose', Bool.false_eq_true, if_false]
    exact h.rest_eq

lemma next (hrest : r.rest ≠ []) : Encloses r.next r'.next := by
  refine ⟨by simpa using h.verbose_eq, .inl ?_⟩
  rw [rest_next, rest_next, h.rest_eq_of_ne_nil hrest, List.tail_append_of_ne_nil hrest]

lemma nextSpaced (hrest : r.rest ≠ []) : Encloses r.nextSpaced r'.nextSpaced :=
  (h.next hrest).skipSpace

lemma skip {n : ℕ} (hn : n ≤ r.rest.length) : Encloses (r.skip n) (r'.skip n) := by
  refine ⟨h.verbose_eq, ?_⟩
  rcases h.rest_eq with hrest | ⟨hrest, hrest'⟩
  · left
    simp only [Reader.skip, hrest, List.drop_append_of_le_length hn]
  · right
    simp [Reader.skip, hrest, hrest']

/-- The next character is the same, unless the parenthesis comes next. -/
lemma peek?_eq_some_iff (hc : c ≠ ')') : r'.peek? = some c ↔ r.peek? = some c := by
  unfold peek?
  cases hrest : r.rest with
  | nil =>
    rcases h.rest_eq with hrest' | ⟨-, hrest'⟩
    · simpa [hrest', hrest, closing_eq] using Ne.symm hc
    · simp [hrest']
  | cons d t => rw [h.rest_cons hrest, List.head?_cons, List.head?_cons]

lemma peek?_of_eq_some (hpeek : r.peek? = some c) : r'.peek? = some c := by
  rw [peek?, h.rest_eq_of_ne_nil (rest_ne_nil_of_peek? hpeek),
    List.head?_append_of_ne_nil _ (rest_ne_nil_of_peek? hpeek)]
  exact hpeek

/-- So is the character after the next one. -/
lemma peekSecond?_eq_some_iff (hrest : r.rest ≠ []) (hc : c ≠ ')') :
    r'.peekSecond? = some c ↔ r.peekSecond? = some c := by
  have hnext := (h.next hrest).peek?_eq_some_iff hc
  simpa only [peek?, peekSecond?, rest_next] using hnext

/-- A text without the parenthesis is not read over the end of the pattern. -/
lemma skipText? (text : String) (htext : ')' ∉ text.toList) :
    Option.Rel (fun q q' => Encloses q q' ∧ q.rest.length ≤ r.rest.length)
      (r.skipText? text) (r'.skipText? text) := by
  have hiff : text.toList.isPrefixOf r'.rest = true ↔ text.toList.isPrefixOf r.rest = true := by
    rw [List.isPrefixOf_iff_prefix, List.isPrefixOf_iff_prefix]
    rcases h.rest_eq with hrest | ⟨hrest, hrest'⟩
    · rw [hrest]
      exact prefix_append_closing_iff htext
    · rw [hrest, hrest']
  unfold Reader.skipText?
  by_cases hpre : text.toList.isPrefixOf r.rest = true
  · have hle : text.length ≤ r.rest.length := by
      rw [← String.length_toList]
      exact (List.isPrefixOf_iff_prefix.mp hpre).length_le
    rw [if_pos hpre, if_pos (hiff.mpr hpre)]
    refine .some ⟨h.skip hle, ?_⟩
    simp only [Reader.skip, List.length_drop, Nat.sub_le]
  · rw [if_neg hpre, if_neg (mt hiff.mp hpre)]
    exact .none

end Encloses

/-- A reading that fails at the end of the pattern. -/
lemma Encloses.carries_of_atEnd {α : Type} {R : α → α → Prop} {e e' : Fault}
    {x y : Except Fault α} (h : Encloses r r') (hxy : r.rest ≠ [] → Carries R x y) :
    Carries R (if r.atEnd then .error e else x) (if r'.atEnd then .error e' else y) := by
  by_cases hrest : r.rest = []
  · rw [if_pos (by simp [atEnd, hrest])]
    exact .error _ _
  · have hrest' := h.rest_eq_of_ne_nil hrest
    rw [if_neg (by simpa [atEnd] using hrest), if_neg (by simp [atEnd, hrest', closing_eq])]
    exact hxy hrest

/-- What two readings found and where they are: the same once `f` has forgotten the places, and the
first leaves fewer characters than a bound. -/
structure Alike {α β : Type} (f : α → β) (n : ℕ) (x y : α × Reader) : Prop where
  fst_eq : f y.1 = f x.1
  encloses : Encloses x.2 y.2
  length_lt : x.2.rest.length < n

lemma Alike.mono {α β : Type} {f : α → β} {m n : ℕ} {x y : α × Reader} (h : Alike f m x y)
    (hmn : m ≤ n) : Alike f n x y :=
  ⟨h.fst_eq, h.encloses, Nat.lt_of_lt_of_le h.length_lt hmn⟩

/-- Two readings that are done. -/
lemma Alike.carries {α β : Type} {f : α → β} {n : ℕ} {a b : α} (hab : f b = f a)
    (h : Encloses r r') (hlen : r.rest.length < n) :
    Carries (Alike f n) (.ok (a, r)) (.ok (b, r')) :=
  .ok ⟨hab, h, hlen⟩

/-- Nothing is collected where the class lets the next character out. -/
lemma collectFrom_of_stop {keep : Char → Bool} (n : ℕ)
    (hstop : ∀ c ∈ r.rest.head?, keep c = false) :
    collectFrom keep n r = ([], r) := by
  cases n with
  | zero => rfl
  | succ n =>
    unfold collectFrom
    split
    · rfl
    · next c t hrest => rw [if_neg (by simp [hstop c (by simp [hrest])])]

/-- At the end of the pattern nothing is collected, if the class lets the parenthesis out. -/
lemma collectFrom_alike_of_nil {keep : Char → Bool} (n n' : ℕ) (h : Encloses r r')
    (hrest : r.rest = []) (hkeep : keep ')' = false) :
    Alike id (r.rest.length + 1) (collectFrom keep n r) (collectFrom keep n' r') := by
  have hstop' : ∀ c ∈ r'.rest.head?, keep c = false := by
    rcases h.rest_eq with hrest' | ⟨-, hrest'⟩
    · simpa [hrest', hrest, closing_eq] using hkeep
    · simp [hrest']
  rw [collectFrom_of_stop n (by simp [hrest]), collectFrom_of_stop n' hstop']
  exact ⟨rfl, h, Nat.lt_succ_self _⟩

/-- The characters of a class, if it lets the parenthesis out or something is left after them. -/
lemma collectFrom_alike {keep : Char → Bool} {n n' : ℕ} (h : Encloses r r')
    (hn : r.rest.length ≤ n) (hn' : r'.rest.length ≤ n')
    (hkeep : keep ')' = true → (collectFrom keep n r).2.rest ≠ []) :
    Alike id (r.rest.length + 1) (collectFrom keep n r) (collectFrom keep n' r') := by
  -- The induction is on the steps of the reader of the pattern alone, which stops first.
  induction n generalizing n' r r' with
  | zero =>
    have hrest : r.rest = [] := List.length_eq_zero_iff.mp (Nat.le_zero.mp hn)
    refine collectFrom_alike_of_nil 0 n' h hrest ?_
    simpa using mt hkeep (not_not_intro hrest)
  | succ n ih =>
    cases hrest : r.rest with
    | nil =>
      rw [← hrest]
      refine collectFrom_alike_of_nil (n + 1) n' h hrest ?_
      have hcollect : collectFrom keep (n + 1) r = ([], r) :=
        collectFrom_of_stop _ (by simp [hrest])
      simpa [hcollect, hrest] using hkeep
    | cons c t =>
      have hne : r.rest ≠ [] := by simp [hrest]
      have hrest' := h.rest_cons hrest
      obtain ⟨n', rfl⟩ : ∃ k, n' = k + 1 := Nat.exists_eq_succ_of_ne_zero (by
        rintro rfl
        simp [hrest'] at hn')
      rw [← hrest]
      by_cases hc : keep c = true
      · have hcollect : collectFrom keep (n + 1) r =
            (c :: (collectFrom keep n r.nextSpaced).1, (collectFrom keep n r.nextSpaced).2) := by
          rw [collectFrom, hrest]
          exact if_pos hc
        have hcollect' : collectFrom keep (n' + 1) r' =
            (c :: (collectFrom keep n' r'.nextSpaced).1,
              (collectFrom keep n' r'.nextSpaced).2) := by
          rw [collectFrom, hrest']
          exact if_pos hc
        have hlt := length_nextSpaced_lt hne
        have hlt' := length_nextSpaced_lt (r := r') (by simp [hrest'])
        have hnext := ih (h.nextSpaced hne) (Nat.le_of_lt_succ (Nat.lt_of_lt_of_le hlt hn))
          (Nat.le_of_lt_succ (Nat.lt_of_lt_of_le hlt' hn')) (by simpa [hcollect] using hkeep)
        rw [hcollect, hcollect']
        refine ⟨?_, hnext.encloses, ?_⟩
        · simpa using hnext.fst_eq
        · exact Nat.lt_of_lt_of_le hnext.length_lt (by omega)
      · rw [collectFrom_of_stop, collectFrom_of_stop]
        · exact ⟨rfl, h, Nat.lt_succ_self _⟩
        · simpa [hrest'] using hc
        · simpa [hrest] using hc

/-- The characters of a class, if it lets the parenthesis out or something is left after them. -/
lemma collect_alike (keep : Char → Bool) (h : Encloses r r')
    (hkeep : keep ')' = true → (r.collect keep).2.rest ≠ []) :
    Alike id (r.rest.length + 1) (r.collect keep) (r'.collect keep) :=
  collectFrom_alike h (Nat.le_refl _) (Nat.le_refl _) hkeep

end Reader

/-! ## Escapes -/

/-- An atom without its place. -/
def Atom.erase : Atom → Atom
  | literal l => .literal l.erase
  | dot _ => .dot (.point 0)
  | assertion _ kind => .assertion (.point 0) kind
  | letter _ negated name => .letter (.point 0) negated name
  | property _ negated query => .property (.point 0) negated query

lemma Atom.erase_toTree (a : Atom) : a.toTree.erase = a.erase.toTree := by
  cases a <;> rfl

namespace Reader

variable {r r' : Reader}

lemma hexDigits_carries (n : ℕ) (h : Encloses r r') :
    Carries (Alike id (r.rest.length + 1)) (hexDigits n r) (hexDigits n r') := by
  induction n generalizing r r' with
  | zero => exact Alike.carries rfl h (Nat.lt_succ_self _)
  | succ n ih =>
    cases hrest : r.rest with
    | nil =>
      unfold hexDigits
      simp only [hrest]
      exact .error _ _
    | cons c t =>
      have hne : r.rest ≠ [] := by simp [hrest]
      have hlt := length_nextSpaced_lt hne
      unfold hexDigits
      simp only [hrest, h.rest_cons hrest]
      refine Carries.ite Iff.rfl (fun _ => .error _ _) fun _ => ?_
      cases hdigits : hexDigits n r.nextSpaced with
      | error e => exact .error _ _
      | ok x =>
        obtain ⟨y, hy, hxy⟩ := ih (h.nextSpaced hne) x hdigits
        rw [hy]
        have hlen := hxy.length_lt
        rw [← hrest]
        exact Alike.carries (by simpa using hxy.fst_eq) hxy.encloses (by omega)

lemma hexFixed_carries (start start' digits : ℕ) (h : Encloses r r') :
    Carries (Alike Atom.erase (r.rest.length + 1)) (hexFixed start digits r)
      (hexFixed start' digits r') := by
  unfold hexFixed
  cases hdigits : hexDigits digits r with
  | error e => exact .error _ _
  | ok x =>
    obtain ⟨⟨t, q⟩, hy, hxy⟩ := hexDigits_carries digits h x hdigits
    obtain rfl : t = x.1 := hxy.fst_eq
    rw [hy]
    cases hcode : charOfCode? (Unicode.CodeSet.hexNumber x.1) with
    | none =>
      simp only [hcode]
      exact .error _ _
    | some c =>
      simp only [hcode]
      exact Alike.carries rfl hxy.encloses hxy.length_lt

lemma hexBraced_carries (start start' : ℕ) (h : Encloses r r') (hne : r.rest ≠ []) :
    Carries (Alike Atom.erase r.rest.length) (hexBraced start r) (hexBraced start' r') := by
  have hdigits := collect_alike isHex (h.nextSpaced hne) (fun hparen => by cases hparen)
  have hlt := length_nextSpaced_lt hne
  unfold hexBraced
  rcases hcollect : r.nextSpaced.collect isHex with ⟨digits, q⟩
  rcases hcollect' : r'.nextSpaced.collect isHex with ⟨digits', q'⟩
  rw [hcollect, hcollect'] at hdigits
  obtain ⟨rfl : digits' = digits, hq : Encloses q q', hlen : q.rest.length < _⟩ := hdigits
  cases hrest : q.rest with
  | nil =>
    simp only [hrest]
    exact .error _ _
  | cons c t =>
    have hne : q.rest ≠ [] := by simp [hrest]
    have hlt' := length_nextSpaced_lt hne
    simp only [hrest, hq.rest_cons hrest]
    refine Carries.ite Iff.rfl (fun _ => .error _ _) fun _ => ?_
    refine Carries.ite Iff.rfl (fun _ => .error _ _) fun _ => ?_
    cases hcode : charOfCode? (Unicode.CodeSet.hexNumber digits') with
    | none => exact .error _ _
    | some d =>
      exact Alike.carries rfl (hq.nextSpaced hne) (by omega)

lemma hexEscape_carries (start start' digits : ℕ) (h : Encloses r r') (hne : r.rest ≠ []) :
    Carries (Alike Atom.erase r.rest.length) (hexEscape start digits r)
      (hexEscape start' digits r') := by
  have hq := h.nextSpaced hne
  have hlt := length_nextSpaced_lt hne
  unfold hexEscape
  cases hrest : r.nextSpaced.rest with
  | nil =>
    simp only [hrest]
    exact .error _ _
  | cons c t =>
    simp only [hrest, hq.rest_cons hrest]
    refine Carries.ite Iff.rfl (fun _ => ?_) fun _ => ?_
    · refine (hexBraced_carries start start' hq (by simp [hrest])).mono fun x y hxy => ?_
      exact hxy.mono (by omega)
    · exact (hexFixed_carries start start' digits hq).mono fun x y hxy => hxy.mono (by omega)

lemma propertyEscape_carries (start start' : ℕ) (negated : Bool) (h : Encloses r r')
    (hne : r.rest ≠ []) :
    Carries (Alike Atom.erase r.rest.length) (propertyEscape start negated r)
      (propertyEscape start' negated r') := by
  have hq := h.nextSpaced hne
  have hlt := length_nextSpaced_lt hne
  unfold propertyEscape
  cases hrest : r.nextSpaced.rest with
  | nil =>
    simp only [hrest]
    exact .error _ _
  | cons c t =>
    have hqne : r.nextSpaced.rest ≠ [] := by simp [hrest]
    have hlt₁ := length_nextSpaced_lt hqne
    simp only [hrest, hq.rest_cons hrest]
    refine Carries.ite Iff.rfl (fun _ => ?_) fun _ => ?_
    · -- The name in the braces may hold the parenthesis; if it runs to the end, there is no brace.
      by_cases hend : (r.nextSpaced.nextSpaced.collect (· != '\x7d')).2.rest = []
      · rw [if_pos (by simpa [atEnd] using hend)]
        exact .error _ _
      · have hbody := collect_alike _ (hq.nextSpaced hqne) fun _ => hend
        have hlt₂ := length_next_lt hend
        have hlen := hbody.length_lt
        refine hbody.encloses.carries_of_atEnd fun _ => ?_
        rw [show (r'.nextSpaced.nextSpaced.collect (· != '\x7d')).1 = _ from hbody.fst_eq]
        exact Alike.carries rfl (hbody.encloses.next hend) (by omega)
    · refine Carries.ite Iff.rfl (fun _ => .error _ _) fun _ => ?_
      exact Alike.carries rfl (hq.nextSpaced hqne) (by omega)

lemma boundaryName_carries (start start' : ℕ) (h : Encloses r r') (hne : r.rest ≠ []) :
    Carries (Alike id (r.rest.length + 1)) (boundaryName start r) (boundaryName start' r') := by
  have hq := h.nextSpaced hne
  have hlt := length_nextSpaced_lt hne
  unfold boundaryName
  cases hrest : r.nextSpaced.rest with
  | nil =>
    simp only [hrest]
    exact .error _ _
  | cons c t =>
    have hname := collect_alike isBoundaryChar hq (fun hparen => by cases hparen)
    simp only [hrest, hq.rest_cons hrest]
    refine Carries.ite Iff.rfl (fun _ => Alike.carries rfl h (Nat.lt_succ_self _)) fun _ => ?_
    rcases hcollect : r.nextSpaced.collect isBoundaryChar with ⟨name, q⟩
    rcases hcollect' : r'.nextSpaced.collect isBoundaryChar with ⟨name', q'⟩
    rw [hcollect, hcollect'] at hname
    obtain ⟨rfl : name' = name, hqq : Encloses q q', hlen : q.rest.length < _⟩ := hname
    refine Carries.ite (not_congr (hqq.peek?_eq_some_iff (by decide))) (fun _ => .error _ _)
      fun hpeek => ?_
    have hqne : q.rest ≠ [] := rest_ne_nil_of_peek? (of_not_not hpeek)
    have hlt' := length_next_lt hqne
    have hlen' : q.next.rest.length < r.rest.length + 1 := by omega
    cases hkind : boundaryOfName? name' with
    | none => exact .error _ _
    | some kind => exact Alike.carries rfl (hqq.next hqne) hlen'

/-- An escape is read of the longer text too, and takes at least one character. -/
lemma escape_carries (h : Encloses r r') (hne : r.rest ≠ []) :
    Carries (Alike Atom.erase r.rest.length) r.escape r'.escape := by
  have hq := h.next hne
  have hlt := length_next_lt hne
  unfold escape
  cases hrest : r.next.rest with
  | nil =>
    simp only [hrest]
    exact .error _ _
  | cons c t =>
    have hqne : r.next.rest ≠ [] := hrest ▸ List.cons_ne_nil c t
    have hq₂ := hq.next hqne
    have hlt₂ := length_next_lt hqne
    -- An escape ends with this character (`hdone`), or goes on after it (`hmono`).
    have hdone {a b : Atom} (hab : b.erase = a.erase) :
        Carries (Alike Atom.erase r.rest.length) (.ok (a, r.next.next)) (.ok (b, r'.next.next)) :=
      Alike.carries hab hq₂ (by omega)
    have hmono {x y : Except Fault (Atom × Reader)}
        (hxy : Carries (Alike Atom.erase r.next.rest.length) x y) :
        Carries (Alike Atom.erase r.rest.length) x y :=
      hxy.mono fun a b hab => hab.mono (Nat.le_of_lt hlt)
    simp only [hrest, hq.rest_cons hrest]
    refine Carries.ite Iff.rfl (fun _ => .error _ _) fun _ => ?_
    refine Carries.ite Iff.rfl (fun _ => hmono (hexEscape_carries _ _ 2 hq hqne)) fun _ => ?_
    refine Carries.ite Iff.rfl (fun _ => hmono (hexEscape_carries _ _ 4 hq hqne)) fun _ => ?_
    refine Carries.ite Iff.rfl (fun _ => hmono (hexEscape_carries _ _ 8 hq hqne)) fun _ => ?_
    refine Carries.ite Iff.rfl (fun _ => hmono (propertyEscape_carries _ _ false hq hqne))
      fun _ => ?_
    refine Carries.ite Iff.rfl (fun _ => hmono (propertyEscape_carries _ _ true hq hqne))
      fun _ => ?_
    refine Carries.ite Iff.rfl (fun _ => hdone rfl) fun _ => ?_
    refine Carries.ite Iff.rfl (fun _ => ?_) fun _ => ?_
    · refine Carries.ite (hq₂.peek?_eq_some_iff (by decide)) (fun hpeek => ?_) fun _ => hdone rfl
      have hne₂ : r.next.next.rest ≠ [] := rest_ne_nil_of_peek? hpeek
      cases hname : boundaryName r.position r.next.next with
      | error e => exact .error _ _
      | ok x =>
        obtain ⟨y, hy, hxy⟩ := boundaryName_carries _ r'.position hq₂ hne₂ x hname
        obtain ⟨name, q⟩ := x
        obtain ⟨name', q'⟩ := y
        obtain ⟨rfl : name' = name, hqq : Encloses q q', hlen : q.rest.length < _⟩ := hxy
        rw [hy]
        cases name' with
        | none => exact hdone rfl
        | some kind => exact Alike.carries rfl hqq (by omega)
    · split
      · exact hdone rfl
      · exact hdone rfl
      · exact hdone rfl
      · exact .error _ _

end Reader

end CommandShell.Pattern
