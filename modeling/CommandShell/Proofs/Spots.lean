import CommandShell.Pattern.Matcher
import Mathlib.Data.List.Basic
import Mathlib.Logic.Function.Iterate

/-!
# Where matches end

An expression takes a set of spots of a line to the set of spots where matches from there end.
Sets are merged by the indices of their spots, and a step that leaves the indices alone is not
taken again; so both are right for the spots of one line only, which their indices tell apart
(`Spot.eq_of_index_eq`).

Among these, from more spots matches end at more spots (`Expr.isSteady_ends`).  So an expression
with conditions before it and after it matches no line that it does not match alone
(`Expr.isMatch_of_between`).
-/

namespace CommandShell.Pattern

/-! ## The spots of a line -/

namespace Spot

variable {line t : Text} {n : ℕ} {b : Option Char} {p q : Spot} {ps qs : List Spot}

/-- The spots from a spot on have no smaller indices. -/
lemma le_index_of_mem_onward (hp : p ∈ onward n b t) : n ≤ p.index := by
  induction t generalizing n b with
  | nil =>
    rw [onward, List.mem_singleton] at hp
    exact Nat.le_of_eq (congrArg index hp).symm
  | cons c t ih =>
    rcases List.mem_cons.mp hp with rfl | hp
    · exact Nat.le_refl _
    · exact Nat.le_of_succ_le (ih hp)

/-- The spots of a line are told apart by their indices. -/
lemma eq_of_mem_onward (hp : p ∈ onward n b t) (hq : q ∈ onward n b t) (h : p.index = q.index) :
    p = q := by
  induction t generalizing n b with
  | nil =>
    rw [onward, List.mem_singleton] at hp hq
    rw [hp, hq]
  | cons c t ih =>
    rcases List.mem_cons.mp hp with hp | hp
    · rcases List.mem_cons.mp hq with hq | hq
      · rw [hp, hq]
      · have hle := le_index_of_mem_onward hq
        rw [hp] at h
        dsimp only at h
        omega
    · rcases List.mem_cons.mp hq with hq | hq
      · have hle := le_index_of_mem_onward hp
        rw [hq] at h
        dsimp only at h
        omega
      · exact ih hp hq

lemma eq_of_index_eq (hp : p ∈ all line) (hq : q ∈ all line) (h : p.index = q.index) : p = q :=
  eq_of_mem_onward hp hq h

/-- There is always a first spot. -/
lemma head_mem_onward (n : ℕ) (b : Option Char) (t : Text) : ⟨n, b, t⟩ ∈ onward n b t := by
  cases t <;> exact List.mem_cons_self ..

/-- The spot after a character is a spot of the line. -/
lemma step?_mem_onward {s : Unicode.CodeSet} (hp : p ∈ onward n b t) (h : step? s p = some q) :
    q ∈ onward n b t := by
  induction t generalizing n b with
  | nil =>
    rw [onward, List.mem_singleton] at hp
    rw [hp] at h
    cases h
  | cons c t ih =>
    rcases List.mem_cons.mp hp with rfl | hp
    · simp only [step?] at h
      split at h
      · cases h
        exact List.mem_cons_of_mem _ (head_mem_onward _ _ _)
      · cases h
    · exact List.mem_cons_of_mem _ (ih hp)

/-- Two sets of spots of a line are merged to what is in one or the other. -/
lemma mem_merge (hps : ps ⊆ all line) (hqs : qs ⊆ all line) :
    p ∈ merge ps qs ↔ p ∈ ps ∨ p ∈ qs := by
  fun_induction merge ps qs with
  | case1 qs => simp
  | case2 ps hne => simp
  | case3 a ps b qs hindex ih =>
    obtain ⟨ha, hps'⟩ := List.cons_subset.mp hps
    obtain ⟨hb, hqs'⟩ := List.cons_subset.mp hqs
    -- The same index is the same spot, so nothing is lost with the second.
    obtain rfl : a = b := eq_of_index_eq ha hb hindex
    rw [List.mem_cons, ih hps' hqs']
    simp only [List.mem_cons]
    tauto
  | case4 a ps b qs hindex hlt ih =>
    rw [List.mem_cons, ih (List.cons_subset.mp hps).2 hqs]
    simp only [List.mem_cons]
    tauto
  | case5 a ps b qs hindex hlt ih =>
    rw [List.mem_cons, ih hps (List.cons_subset.mp hqs).2]
    simp only [List.mem_cons]
    tauto

/-- Sets of spots of a line with the same indices are the same. -/
lemma eq_of_sameSpots (hps : ps ⊆ all line) (hqs : qs ⊆ all line) (h : sameSpots ps qs = true) :
    ps = qs := by
  have h : ps.map index = qs.map index := by simpa [sameSpots] using h
  induction ps generalizing qs with
  | nil => exact (List.map_eq_nil_iff.mp h.symm).symm
  | cons p ps ih =>
    cases qs with
    | nil => cases h
    | cons q qs =>
      obtain ⟨hp, hps⟩ := List.cons_subset.mp hps
      obtain ⟨hq, hqs⟩ := List.cons_subset.mp hqs
      obtain ⟨hindex, hindices⟩ := List.cons.inj h
      rw [eq_of_index_eq hp hq hindex, ih hps hqs (by simpa [sameSpots] using hindices) hindices]

end Spot

/-! ## Steps from more spots -/

/-- A step that does not leave the spots of a line, and from more spots leads to more. -/
structure IsSteady (line : Text) (f : List Spot → List Spot) : Prop where
  stays : ∀ {ps}, ps ⊆ Spot.all line → f ps ⊆ Spot.all line
  mono : ∀ {ps qs}, ps ⊆ qs → qs ⊆ Spot.all line → f ps ⊆ f qs

namespace IsSteady

variable {line : Text} {f g : List Spot → List Spot}

lemma id : IsSteady line fun ps => ps :=
  ⟨fun h => h, fun h _ => h⟩

/-- One step after another. -/
lemma comp (hg : IsSteady line g) (hf : IsSteady line f) : IsSteady line fun ps => g (f ps) :=
  ⟨fun h => hg.stays (hf.stays h), fun h hqs => hg.mono (hf.mono h hqs) (hf.stays hqs)⟩

/-- What one step or the other leads to. -/
lemma merge (hf : IsSteady line f) (hg : IsSteady line g) :
    IsSteady line fun ps => Spot.merge (f ps) (g ps) := by
  refine ⟨fun {ps} hps p hp => ?_, fun {ps qs} hsub hqs p hp => ?_⟩
  · rcases (Spot.mem_merge (hf.stays hps) (hg.stays hps)).mp hp with hp | hp
    · exact hf.stays hps hp
    · exact hg.stays hps hp
  · have hps : ps ⊆ Spot.all line := fun q hq => hqs (hsub hq)
    rw [Spot.mem_merge (hf.stays hqs) (hg.stays hqs)]
    rcases (Spot.mem_merge (hf.stays hps) (hg.stays hps)).mp hp with hp | hp
    · exact .inl (hf.mono hsub hqs hp)
    · exact .inr (hg.mono hsub hqs hp)

/-- Only what a step does to spots of the line counts. -/
lemma congr (h : ∀ ps, ps ⊆ Spot.all line → f ps = g ps) (hg : IsSteady line g) :
    IsSteady line f := by
  refine ⟨fun {ps} hps => ?_, fun {ps qs} hsub hqs => ?_⟩
  · rw [h ps hps]
    exact hg.stays hps
  · rw [h ps fun p hp => hqs (hsub hp), h qs hqs]
    exact hg.mono hsub hqs

/-- A step taken several times. -/
lemma iterate (hf : IsSteady line f) (n : ℕ) : IsSteady line f^[n] := by
  induction n with
  | zero => exact .id
  | succ n ih => exact ih.comp hf

end IsSteady

namespace Expr

variable {line : Text} {f : List Spot → List Spot} {ps : List Spot}

/-- A step that is not taken again once it leaves the set alone is taken as often as it says. -/
lemma iterate_eq (hf : IsSteady line f) (hps : ps ⊆ Spot.all line) (n : ℕ) :
    iterate f n ps = f^[n] ps := by
  induction n generalizing ps with
  | zero => rfl
  | succ n ih =>
    rw [iterate]
    split
    · next hsame =>
      have hfixed : ps = f ps := Spot.eq_of_sameSpots hps (hf.stays hps) hsame
      exact (Function.iterate_fixed hfixed.symm (n + 1)).symm
    · rw [ih (hf.stays hps), Function.iterate_succ_apply]

/-- What is reached is what a step that keeps its spots leads to. -/
lemma reach_eq (hf : IsSteady line f) (hps : ps ⊆ Spot.all line) (n : ℕ) :
    reach f n ps = (fun ps => Spot.merge ps (f ps))^[n] ps := by
  have hmerge : IsSteady line fun ps => Spot.merge ps (f ps) := .merge .id hf
  induction n generalizing ps with
  | zero => rfl
  | succ n ih =>
    rw [reach]
    split
    · next hsame =>
      have hfixed : ps = Spot.merge ps (f ps) :=
        Spot.eq_of_sameSpots hps (hmerge.stays hps) hsame
      exact (Function.iterate_fixed (f := fun ps => Spot.merge ps (f ps)) hfixed.symm
        (n + 1)).symm
    · rw [ih (hmerge.stays hps), Function.iterate_succ_apply]

/-- From more spots matches end at more spots. -/
lemma isSteady_ends (line : Text) (bound : ℕ) (e : Expr) : IsSteady line (e.ends bound) := by
  induction e with
  | empty => exact .id
  | set bytes s =>
    refine ⟨fun {ps} hps q hq => ?_, fun hsub _ => List.filterMap_subset _ hsub⟩
    obtain ⟨p, hp, hstep⟩ := List.mem_filterMap.mp hq
    exact Spot.step?_mem_onward (hps hp) hstep
  | look l =>
    exact ⟨fun hps => List.Subset.trans (List.filter_subset_self _) hps,
      fun hsub _ => List.filter_subset _ hsub⟩
  | concat a b iha ihb => exact ihb.comp iha
  | either a b iha ihb => exact iha.merge ihb
  | repeated least most greedy body ih =>
    -- A loop that stops has come to a fixed point, so both loops are iterations of one step.
    have hreach : ∀ n, IsSteady line fun ps =>
        reach (body.ends bound) n (iterate (body.ends bound) least ps) := by
      intro n
      refine .congr (fun ps hps => ?_) (((IsSteady.merge .id ih).iterate n).comp (ih.iterate least))
      rw [iterate_eq ih hps, reach_eq ih ((ih.iterate least).stays hps)]
    exact hreach _
  | capture start body ih => exact ih

/-- An expression between two conditions matches no line that it does not match alone. -/
lemma isMatch_of_between {e : Expr} {before after : Look} {start : ℕ} {line : Text}
    (h : (concat (look before) (concat (capture start e) (concat (look after) empty))).isMatch
      line = true) : e.isMatch line = true := by
  have hall : (Spot.all line).filter (·.satisfies before) ⊆ Spot.all line :=
    List.filter_subset_self _
  have hsub := (isSteady_ends line (line.length + 1) e).mono hall fun p hp => hp
  simp only [isMatch, ends, Bool.not_eq_true', List.isEmpty_eq_false_iff] at h ⊢
  obtain ⟨p, hp⟩ := List.exists_mem_of_ne_nil _ h
  exact List.ne_nil_of_mem (hsub (List.mem_of_mem_filter hp))

end Expr

end CommandShell.Pattern
