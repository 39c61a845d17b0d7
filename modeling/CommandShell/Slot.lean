import CommandShell.Text.Basic

/-!
# Slots

Two stages of a pipeline are connected by a slot that holds at most one text.  A stage
writes its whole result into the slot, and the next stage reads it once the first is
done.  An empty slot differs from one that holds the empty text: nothing was written.
-/

namespace CommandShell

/-- A slot between two stages. -/
structure Slot where
  content : Option Text
deriving Repr, DecidableEq

namespace Slot

/-- A slot nothing was written to. -/
def empty : Slot :=
  ⟨none⟩

/-- A slot that holds a text. -/
def holding (t : Text) : Slot :=
  ⟨some t⟩

/-- Replace what the slot holds. -/
def write (_ : Slot) (t : Text) : Slot :=
  ⟨some t⟩

/-- Remove what the slot holds. -/
def clear (_ : Slot) : Slot :=
  ⟨none⟩

/-- Nothing was written. -/
def isEmpty (s : Slot) : Bool :=
  s.content.isNone

/-- What the slot holds; an empty slot reads as the empty text. -/
def text (s : Slot) : Text :=
  s.content.getD []

end Slot

end CommandShell
