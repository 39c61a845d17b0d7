import CommandShell.Pattern.Matcher
import Mathlib.Data.Option.Basic
import Mathlib.Data.Prod.Basic

/-!
# Patterns without their places

A syntax tree keeps where each of its parts was read, which only faults tell.  `Tree.erase` forgets
the places.  Two trees that differ in nothing else have a meaning under the same flags, and it is
the same up to the places by which groups are told apart (`Tree.toExpr_erase`), on which no match
depends (`Expr.isMatch_erase`).
-/

namespace CommandShell.Pattern

/-! ## Forgetting places -/

/-- A character without its place. -/
def Literal.erase (l : Literal) : Literal :=
  { l with span := .point 0 }

mutual

/-- A set of a class without its places. -/
def ClassSet.erase : ClassSet → ClassSet
  | .empty _ => .empty (.point 0)
  | .literal l => .literal l.erase
  | .range _ first last => .range (.point 0) first.erase last.erase
  | .named _ negated name => .named (.point 0) negated name
  | .letter _ negated name => .letter (.point 0) negated name
  | .property _ negated query => .property (.point 0) negated query
  | .bracketed _ negated set => .bracketed (.point 0) negated set.erase
  | .union _ items => .union (.point 0) (ClassSet.eraseAll items)
  | .operation _ kind left right => .operation (.point 0) kind left.erase right.erase

/-- Several sets without their places. -/
def ClassSet.eraseAll : List ClassSet → List ClassSet
  | [] => []
  | item :: rest => item.erase :: ClassSet.eraseAll rest

end

mutual

/-- A tree without its places. -/
def Tree.erase : Tree → Tree
  | .empty _ => .empty (.point 0)
  | .directive _ flags => .directive (.point 0) flags
  | .literal l => .literal l.erase
  | .dot _ => .dot (.point 0)
  | .assertion _ kind => .assertion (.point 0) kind
  | .letter _ negated name => .letter (.point 0) negated name
  | .property _ negated query => .property (.point 0) negated query
  | .bracketed _ negated set => .bracketed (.point 0) negated set.erase
  | .repetition _ least most greedy body => .repetition (.point 0) least most greedy body.erase
  | .group _ capturing flags body => .group (.point 0) capturing flags body.erase
  | .alternation _ branches => .alternation (.point 0) (Tree.eraseAll branches)
  | .concat _ parts => .concat (.point 0) (Tree.eraseAll parts)

/-- Several trees without their places. -/
def Tree.eraseAll : List Tree → List Tree
  | [] => []
  | t :: rest => t.erase :: Tree.eraseAll rest

end

/-- An expression without the places of its groups. -/
def Expr.erase : Expr → Expr
  | .concat a b => .concat a.erase b.erase
  | .either a b => .either a.erase b.erase
  | .repeated least most greedy body => .repeated least most greedy body.erase
  | .capture _ body => .capture 0 body.erase
  | e => e

lemma ClassSet.eraseAll_eq_map (items : List ClassSet) :
    ClassSet.eraseAll items = items.map ClassSet.erase := by
  induction items with
  | nil => rfl
  | cons item rest ih => rw [ClassSet.eraseAll, ih, List.map_cons]

lemma Tree.eraseAll_eq_map (ts : List Tree) : Tree.eraseAll ts = ts.map Tree.erase := by
  induction ts with
  | nil => rfl
  | cons t rest ih => rw [Tree.eraseAll, ih, List.map_cons]

/-! ## The meaning of a tree -/

/-- A result that is kept when faults are forgotten, for one step after another. -/
lemma toOption_bind {ε α β : Type} (x : Except ε α) (f : α → Except ε β) :
    (x >>= f).toOption = x.toOption.bind fun a => (f a).toOption := by
  cases x <;> rfl

namespace Mode

variable (m : Mode)

lemma toOption_classCode_erase (l : Literal) :
    (m.classCode l.erase).toOption = (m.classCode l).toOption := by
  unfold classCode Literal.erase
  split
  · rfl
  · split <;> rfl

lemma toOption_checked (span span' : Span) (s : Unicode.CodeSet) :
    (m.checked span s).toOption = (m.checked span' s).toOption := by
  unfold checked
  split <;> rfl

lemma toOption_foldAndNegate (span span' : Span) (negated : Bool) (s : Unicode.CodeSet) :
    (m.foldAndNegate span negated s).toOption = (m.foldAndNegate span' negated s).toOption :=
  m.toOption_checked span span' _

lemma toOption_letterClass (span span' : Span) (negated : Bool) (name : LetterClass) :
    (m.letterClass span negated name).toOption = (m.letterClass span' negated name).toOption :=
  m.toOption_checked span span' _

lemma toOption_propertyClass (span span' : Span) (negated : Bool) (query : Unicode.Query) :
    (m.propertyClass span negated query).toOption =
      (m.propertyClass span' negated query).toOption := by
  unfold propertyClass
  split
  · rfl
  · split
    · rfl
    · rfl
    · exact m.toOption_foldAndNegate span span' negated _

lemma toOption_literal_erase (l : Literal) :
    (m.literal l.erase).toOption = (m.literal l).toOption := by
  unfold literal Literal.erase
  split <;> rfl

lemma toOption_dot (span span' : Span) : (m.dot span).toOption = (m.dot span').toOption := by
  unfold dot
  split <;> rfl

end Mode

mutual

/-- The characters of a set do not depend on its places. -/
theorem ClassSet.toSet_erase (m : Mode) :
    ∀ s : ClassSet, (s.erase.toSet m).toOption = (s.toSet m).toOption
  | .empty _ => rfl
  | .literal l => by
    rw [ClassSet.erase, ClassSet.toSet, ClassSet.toSet, toOption_bind, toOption_bind,
      m.toOption_classCode_erase]
  | .range _ first last => by
    simp only [ClassSet.erase, ClassSet.toSet, toOption_bind, m.toOption_classCode_erase]
  | .named span negated name => m.toOption_foldAndNegate _ _ negated _
  | .letter span negated name => m.toOption_letterClass _ _ negated name
  | .property span negated query => m.toOption_propertyClass _ _ negated query
  | .bracketed span negated set => by
    simp only [ClassSet.erase, ClassSet.toSet, toOption_bind, ClassSet.toSet_erase m set,
      m.toOption_foldAndNegate (.point 0) span]
  | .union _ items => ClassSet.toSets_eraseAll m items
  | .operation _ kind left right => by
    simp only [ClassSet.erase, ClassSet.toSet, toOption_bind, ClassSet.toSet_erase m left,
      ClassSet.toSet_erase m right]

/-- The characters of several sets do not depend on their places. -/
theorem ClassSet.toSets_eraseAll (m : Mode) :
    ∀ items : List ClassSet,
      (ClassSet.toSets m (ClassSet.eraseAll items)).toOption = (ClassSet.toSets m items).toOption
  | [] => rfl
  | item :: rest => by
    simp only [ClassSet.eraseAll, ClassSet.toSets, toOption_bind, ClassSet.toSet_erase m item,
      ClassSet.toSets_eraseAll m rest]

end

mutual

/-- The meaning of a tree does not depend on its places. -/
theorem Tree.toExpr_erase (m : Mode) :
    ∀ t : Tree, (t.erase.toExpr m).toOption =
      (t.toExpr m).toOption.map (Prod.map Expr.erase id)
  | .empty _ => rfl
  | .directive _ _ => rfl
  | .literal l => by
    simp only [Tree.erase, Tree.toExpr, toOption_bind, m.toOption_literal_erase]
    unfold Mode.literal
    split <;> rfl
  | .dot span => by
    simp only [Tree.erase, Tree.toExpr, toOption_bind, m.toOption_dot (.point 0) span]
    unfold Mode.dot
    split <;> rfl
  | .assertion _ _ => rfl
  | .letter span negated name => by
    simp only [Tree.erase, Tree.toExpr, toOption_bind, m.toOption_letterClass (.point 0) span]
    cases (m.letterClass span negated name).toOption <;> rfl
  | .property span negated query => by
    simp only [Tree.erase, Tree.toExpr, toOption_bind, m.toOption_propertyClass (.point 0) span]
    cases (m.propertyClass span negated query).toOption <;> rfl
  | .bracketed span negated set => by
    simp only [Tree.erase, Tree.toExpr, toOption_bind, ClassSet.toSet_erase m set,
      m.toOption_foldAndNegate (.point 0) span]
    cases (set.toSet m).toOption with
    | none => rfl
    | some s =>
      simp only [Option.bind_some]
      cases (m.foldAndNegate span negated s).toOption <;> rfl
  | .repetition _ least most greedy body => by
    simp only [Tree.erase, Tree.toExpr, toOption_bind, Tree.toExpr_erase m body]
    cases (body.toExpr m).toOption <;> rfl
  | .group span capturing flags body => by
    simp only [Tree.erase, Tree.toExpr, toOption_bind, Tree.toExpr_erase (m.setAll flags) body]
    cases (body.toExpr (m.setAll flags)).toOption with
    | none => rfl
    | some result => cases capturing <;> rfl
  | .alternation _ branches => Tree.branchesToExpr_eraseAll m branches
  | .concat _ parts => Tree.partsToExpr_eraseAll m parts

/-- The meaning of a sequence does not depend on its places. -/
theorem Tree.partsToExpr_eraseAll (m : Mode) :
    ∀ parts : List Tree, (Tree.partsToExpr m (Tree.eraseAll parts)).toOption =
      (Tree.partsToExpr m parts).toOption.map (Prod.map Expr.erase id)
  | [] => rfl
  | part :: rest => by
    simp only [Tree.eraseAll, Tree.partsToExpr, toOption_bind, Tree.toExpr_erase m part]
    cases (part.toExpr m).toOption with
    | none => rfl
    | some result =>
      simp only [Option.map_some, Option.bind_some, Prod.map_fst, Prod.map_snd, id_eq,
        Tree.partsToExpr_eraseAll result.2 rest]
      cases (Tree.partsToExpr result.2 rest).toOption <;> rfl

/-- The meaning of a choice does not depend on its places. -/
theorem Tree.branchesToExpr_eraseAll (m : Mode) :
    ∀ branches : List Tree, (Tree.branchesToExpr m (Tree.eraseAll branches)).toOption =
      (Tree.branchesToExpr m branches).toOption.map (Prod.map Expr.erase id)
  | [] => rfl
  | branch :: rest => by
    simp only [Tree.eraseAll, Tree.branchesToExpr, toOption_bind, Tree.toExpr_erase m branch]
    cases (branch.toExpr m).toOption with
    | none => rfl
    | some result =>
      simp only [Option.map_some, Option.bind_some, Prod.map_fst, Prod.map_snd, id_eq,
        Tree.branchesToExpr_eraseAll result.2 rest]
      cases (Tree.branchesToExpr result.2 rest).toOption <;> rfl

end

namespace Expr

/-- Where matches end does not depend on the places of groups. -/
lemma ends_erase (bound : ℕ) (e : Expr) : e.erase.ends bound = e.ends bound := by
  induction e with
  | empty => rfl
  | set bytes s => rfl
  | look l => rfl
  | concat a b iha ihb =>
    funext ps
    simp only [erase, ends, iha, ihb]
  | either a b iha ihb =>
    funext ps
    simp only [erase, ends, iha, ihb]
  | repeated least most greedy body ih =>
    funext ps
    simp only [erase, ends, ih]
  | capture start body ih =>
    funext ps
    simp only [erase, ends, ih]

/-- Whether a line matches does not depend on the places of groups. -/
lemma isMatch_erase (e : Expr) : e.erase.isMatch = e.isMatch := by
  funext line
  rw [isMatch, isMatch, ends_erase]

end Expr

end CommandShell.Pattern
