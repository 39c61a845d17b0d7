import CommandShell.Pattern.Escape

/-!
# Reading bracketed classes

A class such as `[a-z&&[^aeiou]]` is read with a stack of what is still open: a bracket
with the items read before it, or an operation with its left side.  The operations bind
equally and to the left.
-/

namespace CommandShell.Pattern

/-- The items read so far at one level of a class. -/
structure ItemList where
  span : Span
  items : List ClassSet
deriving Repr

namespace ItemList

/-- No items, at a place. -/
def none (n : Nat) : ItemList :=
  ⟨Span.point n, []⟩

/-- One more item. -/
def push (l : ItemList) (item : ClassSet) : ItemList :=
  let start := if l.items.isEmpty then item.span.start else l.span.start
  ⟨⟨start, item.span.stop⟩, l.items ++ [item]⟩

/-- The items as one set. -/
def toSet (l : ItemList) : ClassSet :=
  match l.items with
  | [] => .empty l.span
  | [item] => item
  | items => .union l.span items

end ItemList

/-- What is still open in a class. -/
inductive ClassFrame where
  /-- A bracket, with the items before it, its span up to its first item, and whether it is
  negated. -/
  | bracket (before : ItemList) (span : Span) (negated : Bool)
  /-- An operation, with its left side. -/
  | operation (kind : SetOperation) (left : ClassSet)
deriving Repr

/-- Where the reading of a class stands. -/
structure ClassState where
  stack : List ClassFrame
  items : ItemList
  reader : Reader
deriving Repr

namespace ClassState

/-- The fault of a class that is never closed: it points at the last bracket opened. -/
def unclosed (s : ClassState) : Fault :=
  let opened := s.stack.findSome? fun
    | .bracket _ span _ => some span
    | .operation _ _ => none
  .here .classUnclosed (opened.getD s.reader.span)

/-- The operation on top of the stack applied to its right side, if there is one. -/
def closeOperation (stack : List ClassFrame) (right : ClassSet) : List ClassFrame × ClassSet :=
  match stack with
  | .operation kind left :: rest =>
    (rest, .operation ⟨left.span.start, right.span.stop⟩ kind left right)
  | _ => (stack, right)

/-- An operator: the items before it are its left side. -/
def openOperation (kind : SetOperation) (s : ClassState) : ClassState :=
  let (stack, left) := closeOperation s.stack s.items.toSet
  let r := s.reader.skip 2
  ⟨.operation kind left :: stack, .none r.position, r⟩

/-- The leading `-` of a class, which stand for themselves. -/
def leadingHyphens (opened : Nat) : Nat → ItemList → Reader → Except Fault (ItemList × Reader)
  | 0, l, r => .ok (l, r)
  | n + 1, l, r =>
    if r.peek? = some '-' then
      let l' := l.push (.literal ⟨r.charSpan, '-', false⟩)
      let r' := r.nextSpaced
      if r'.atEnd then .error (.here .classUnclosed (Span.point opened))
      else leadingHyphens opened n l' r'
    else .ok (l, r)

/-- An opening bracket with what may follow it at once: `^`, hyphens, and a `]` that stands
for itself. -/
def openBracket (s : ClassState) : Except Fault ClassState :=
  let start := s.reader.position
  let unclosed (r : Reader) : Fault := .here .classUnclosed (r.spanFrom start)
  let r₁ := s.reader.nextSpaced
  if r₁.atEnd then .error (unclosed r₁)
  else
    let negated := r₁.peek? = some '^'
    let r₂ := if negated then r₁.nextSpaced else r₁
    if r₂.atEnd then .error (unclosed r₂)
    else match leadingHyphens start r₂.rest.length (.none r₂.position) r₂ with
      | .error e => .error e
      | .ok (l, r₃) =>
        if l.items.isEmpty && r₃.peek? = some ']' then
          let l' := l.push (.literal ⟨r₃.charSpan, ']', false⟩)
          let r₄ := r₃.nextSpaced
          if r₄.atEnd then .error (unclosed r₄)
          else .ok ⟨.bracket s.items (r₄.spanFrom start) negated :: s.stack, l', r₄⟩
        else .ok ⟨.bracket s.items (r₃.spanFrom start) negated :: s.stack, l, r₃⟩

/-- A class `[:name:]`, if the text here is one. -/
def namedClass? (r : Reader) : Option (ClassSet × Reader) :=
  match r.rest with
  | '[' :: ':' :: rest =>
    let negated := rest.head? == some '^'
    let body := if negated then rest.tail else rest
    let name := body.takeWhile (· != ':')
    match body.dropWhile (· != ':'), NamedClass.ofName? name with
    | ':' :: ']' :: _, some c =>
      let r' := r.skip (2 + (if negated then 1 else 0) + name.length + 2)
      some (.named (r'.spanFrom r.position) negated c, r')
    | _, _ => none
  | _ => none

/-- One end of a range, or a single item. -/
def item (r : Reader) : Except Fault (Atom × Reader) :=
  match r.rest with
  | [] => .error (.here .classUnclosed r.span)
  | c :: _ =>
    if c = '\\' then r.escape else .ok (.literal ⟨r.charSpan, c, false⟩, r.next)

/-- An item of a class, or a range of characters. -/
def itemOrRange (s : ClassState) : Except Fault ClassState :=
  match item s.reader with
  | .error e => .error e
  | .ok (first, r₁) =>
    let r₂ := r₁.skipSpace
    if r₂.atEnd then .error s.unclosed
    else if r₂.peek? ≠ some '-' || r₂.peekSpaced? = some ']' || r₂.peekSpaced? = some '-' then
      match first.toClassItem with
      | .error e => .error e
      | .ok set => .ok { s with items := s.items.push set, reader := r₂ }
    else
      let r₃ := r₂.nextSpaced
      if r₃.atEnd then .error s.unclosed
      else match item r₃ with
        | .error e => .error e
        | .ok (last, r₄) =>
          let span : Span := ⟨first.span.start, last.span.stop⟩
          match first.toRangeEnd, last.toRangeEnd with
          | .error e, _ => .error e
          | _, .error e => .error e
          | .ok a, .ok b =>
            if b.char < a.char then .error (.here .classRangeInvalid span)
            else .ok { s with items := s.items.push (.range span a b), reader := r₄ }

/-- A closing bracket: the class is done, or it is an item of the class around it. -/
def closeBracket (s : ClassState) : Except Fault (ClassState ⊕ (Tree × Reader)) :=
  let (stack, set) := closeOperation s.stack s.items.toSet
  match stack with
  | .bracket before span negated :: rest =>
    let r := s.reader.next
    let span : Span := ⟨span.start, r.position⟩
    if rest.isEmpty then .ok (.inr (.bracketed span negated set, r))
    else .ok (.inl ⟨rest, before.push (.bracketed span negated set), r⟩)
  | _ => .error s.unclosed

/-- One step of reading a class. -/
def step (s : ClassState) : Except Fault (ClassState ⊕ (Tree × Reader)) :=
  let s := { s with reader := s.reader.skipSpace }
  let second := s.reader.peekSecond?
  match s.reader.peek? with
  | none => .error s.unclosed
  | some c =>
    if c = '[' then
      match (if s.stack.isEmpty then none else namedClass? s.reader) with
      | some (set, r) => .ok (.inl { s with items := s.items.push set, reader := r })
      | none => (openBracket s).map .inl
    else if c = ']' then closeBracket s
    else if c = '&' && second = some '&' then .ok (.inl (openOperation .intersection s))
    else if c = '-' && second = some '-' then .ok (.inl (openOperation .difference s))
    else if c = '~' && second = some '~' then
      .ok (.inl (openOperation .symmetricDifference s))
    else (itemOrRange s).map .inl

/-- Read on for at most the given number of steps. -/
def run : Nat → ClassState → Except Fault (Tree × Reader)
  | 0, s => .error s.unclosed
  | n + 1, s =>
    match s.step with
    | .error e => .error e
    | .ok (.inr done) => .ok done
    | .ok (.inl s') => run n s'

end ClassState

/-- Read a class.  The reader is at its opening bracket.  Every step reads a character. -/
def Reader.bracketed (r : Reader) : Except Fault (Tree × Reader) :=
  ClassState.run (r.rest.length + 1) ⟨[], .none r.position, r⟩

end CommandShell.Pattern
