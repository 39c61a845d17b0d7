import CommandShell.Pattern.Fault

/-!
# Reading the text of a pattern

A reader is a place in the text of a pattern.  In verbose mode blanks and comments, which
run from `#` to the end of the line, do not count between the parts of a pattern, so many
steps come in two forms: one character forward, and one character forward with the space
after it.
-/

namespace CommandShell.Pattern

/-- A place in the text of a pattern. -/
structure Reader where
  /-- The number of characters read. -/
  position : Nat
  rest : Text
  /-- Blanks and comments do not count. -/
  verbose : Bool
deriving Repr, DecidableEq

namespace Reader

/-- Nothing is left. -/
def atEnd (r : Reader) : Bool :=
  r.rest.isEmpty

/-- The next character. -/
def peek? (r : Reader) : Option Char :=
  r.rest.head?

/-- The character after the next one. -/
def peekSecond? (r : Reader) : Option Char :=
  r.rest.tail.head?

/-- One character forward. -/
def next (r : Reader) : Reader :=
  match r.rest with
  | [] => r
  | _ :: rest => { r with position := r.position + 1, rest := rest }

/-- Forward by the given number of characters. -/
def skip (n : Nat) (r : Reader) : Reader :=
  { r with position := r.position + (r.rest.take n).length, rest := r.rest.drop n }

/-- The blanks and comments at the beginning of a text: how many characters, and what is
left. -/
def dropSpace : Bool → Text → Nat × Text
  | _, [] => (0, [])
  | true, c :: rest =>
    let (n, left) := dropSpace (c != '\n') rest
    (n + 1, left)
  | false, c :: rest =>
    if Text.isBlank c || c == '#' then
      let (n, left) := dropSpace (c == '#') rest
      (n + 1, left)
    else (0, c :: rest)

/-- Over the blanks and comments, where they do not count. -/
def skipSpace (r : Reader) : Reader :=
  if r.verbose then
    let (n, left) := dropSpace false r.rest
    { r with position := r.position + n, rest := left }
  else r

/-- One character forward, and over the space after it. -/
def nextSpaced (r : Reader) : Reader :=
  r.next.skipSpace

/-- Over a given text, if it comes next. -/
def skipText? (t : String) (r : Reader) : Option Reader :=
  if t.toList.isPrefixOf r.rest then some (r.skip t.length) else none

/-- The empty span at this place. -/
def span (r : Reader) : Span :=
  Span.point r.position

/-- The span of the next character. -/
def charSpan (r : Reader) : Span :=
  ⟨r.position, r.position + 1⟩

/-- The span from an earlier place to this one. -/
def spanFrom (r : Reader) (start : Nat) : Span :=
  ⟨start, r.position⟩

/-- The character after the next one, blanks and the beginning of a comment left out where
they do not count.  Where nothing else follows it is the blank itself. -/
def peekSpaced? (r : Reader) : Option Char :=
  if !r.verbose then r.peekSecond?
  else
    let after := r.rest.tail
    let past := after.dropWhile Text.isBlank
    let past := match past with
      | '#' :: comment => comment.dropWhile Text.isBlank
      | _ => past
    match past with
    | c :: _ => some c
    | [] => after.head?

/-- The characters of a class from here on, with the space after each where it does not
count.  The number bounds how many characters are left. -/
def collectFrom (keep : Char → Bool) : Nat → Reader → Text × Reader
  | 0, r => ([], r)
  | n + 1, r =>
    match r.rest with
    | [] => ([], r)
    | c :: _ =>
      if keep c then
        let (t, r') := collectFrom keep n r.nextSpaced
        (c :: t, r')
      else ([], r)

/-- The characters of a class from here on, with the space after each where it does not
count. -/
def collect (keep : Char → Bool) (r : Reader) : Text × Reader :=
  collectFrom keep r.rest.length r

end Reader

end CommandShell.Pattern
