import CommandShell.Pattern.Matcher
import CommandShell.Pattern.Size

/-!
# Patterns

`Pattern.compile` reads the text of a pattern and works out what it matches.
-/

namespace CommandShell.Pattern

/-- Why the text of a pattern was refused. -/
inductive CompileError where
  /-- A fault in the pattern. -/
  | fault (pattern : Text) (f : Fault)
  /-- The pattern takes too much room. -/
  | tooLarge
deriving Repr, DecidableEq

/-- The wording of a refusal. -/
def CompileError.message : CompileError → Text
  | .fault pattern f => f.message pattern
  | .tooLarge =>
    "Compiled regex exceeds size limit of ".toList ++ Text.ofNat sizeLimit ++ " bytes.".toList

/-- The expression of a pattern. -/
def compile (ignoreCase : Bool) (pattern : Text) : Except CompileError Expr :=
  match parse pattern with
  | .error f => .error (.fault pattern f)
  | .ok tree =>
    match tree.toExpr (Mode.initial ignoreCase) with
    | .error f => .error (.fault pattern f)
    | .ok (e, _) => if e.toPlan.isTooLarge then .error .tooLarge else .ok e

end CommandShell.Pattern
