import CommandShell.Script.Source

/-!
# Reading scripts

Words are read with a stack of frames, one for each way of reading that is in force: inside
double quotes, inside an expansion in braces, inside arithmetic.  What a word is made of is
built on the side; an expansion that has not ended yet holds the parts around it.

A word may hold commands, so words and commands are read by functions that call each other.
Each call has less fuel than its caller, which is more than any text takes that is shorter
than the fuel.
-/

namespace CommandShell.Script

/-! ### Parts being read -/

/-- A part whose end was not read yet. -/
inductive Opened where
  | parameter (name : Text) (operator : Operator) (orEmpty : Bool)
  | arithmetic

/-- The parts of a word that is being read: those of the innermost part that is open, the last
first, and what stands around it. -/
structure Builder where
  parts : List Part
  outer : List (Opened × List Part)

namespace Builder

/-- One more part. -/
def push (b : Builder) (p : Part) : Builder :=
  { b with parts := p :: b.parts }

/-- A part begins. -/
def enter (b : Builder) (o : Opened) : Builder :=
  ⟨[], (o, b.parts) :: b.outer⟩

/-- A part ends. -/
def leave (b : Builder) : Builder :=
  match b.outer with
  | [] => b
  | (.parameter name operator orEmpty, parts) :: outer =>
    ⟨.parameter name operator orEmpty b.parts.reverse :: parts, outer⟩
  | (.arithmetic, parts) :: outer => ⟨.arithmetic b.parts.reverse :: parts, outer⟩

/-- The word that was read. -/
def word (b : Builder) : Word :=
  b.parts.reverse

end Builder

/-! ### Ways of reading -/

/-- A way of reading characters. -/
inductive Style where
  | plain
  /-- Inside double quotes. -/
  | double
  /-- Inside single quotes. -/
  | single
  | arithmetic
deriving Repr, DecidableEq

/-- What a character means. -/
inductive Meaning where
  | newline
  /-- Itself. -/
  | itself
  | backslash
  | singleQuote
  | doubleQuote
  | endQuote
  | expansion
  | endBrace
  | leftParen
  | rightParen
  | backQuote
  /-- The end of a word. -/
  | boundary
deriving Repr, DecidableEq

/-- What a character means in a way of reading. -/
def meaning : Style → Char → Meaning
  | _, '\n' => .newline
  | .single, '\'' => .endQuote
  | .single, _ => .itself
  | _, '\\' => .backslash
  | _, '$' => .expansion
  | _, '\x60' => .backQuote
  | _, '\x7d' => .endBrace
  | .plain, '\'' => .singleQuote
  | .plain, '"' => .doubleQuote
  | .double, '"' => .endQuote
  | .arithmetic, '(' => .leftParen
  | .arithmetic, ')' => .rightParen
  | .plain, c => if "<>();&| \t".toList.contains c then .boundary else .itself
  | _, _ => .itself

/-- Characters are quoted in a way of reading. -/
def Style.isQuoting (s : Style) : Bool :=
  s == .double || s == .single

/-- A way of reading that is in force. -/
structure Frame where
  style : Style
  /-- Double quotes are around. -/
  doubled : Bool
  /-- The number of braces that are open. -/
  nesting : Nat
  /-- The frame was made for braces. -/
  forBraces : Bool
  /-- Double quotes are open inside of the braces. -/
  innerQuote : Bool
  /-- The number of those braces that stand inside double quotes. -/
  quotedNesting : Nat
  /-- The number of parentheses that are open. -/
  parens : Nat

/-- A new way of reading. -/
def Frame.ofStyle (style : Style) (doubled : Bool) : Frame :=
  ⟨style, doubled, 0, false, false, 0, 0⟩

/-- A word that is being read. -/
structure WordState where
  frame : Frame
  outer : List Frame
  builder : Builder
  /-- Something in it was quoted. -/
  quoted : Bool

namespace WordState

/-- Before the first character. -/
def start (style : Style) : WordState :=
  ⟨.ofStyle style (style == .double), [], ⟨[], []⟩, false⟩

/-- One more part. -/
def push (st : WordState) (p : Part) : WordState :=
  { st with builder := st.builder.push p }

/-- One more character, quoted as the way of reading says. -/
def pushChar (st : WordState) (c : Char) : WordState :=
  st.push (.char c st.frame.style.isQuoting)

/-- A new way of reading is in force. -/
def pushFrame (st : WordState) (f : Frame) : WordState :=
  { st with frame := f, outer := st.frame :: st.outer }

/-- The way of reading before is in force again. -/
def popFrame (st : WordState) : WordState :=
  match st.outer with
  | f :: outer => { st with frame := f, outer := outer }
  | [] => st

/-- A double quotation mark begins or ends a quotation inside of braces. -/
def toggle (st : WordState) : WordState :=
  if 0 < st.frame.nesting then
    { st with frame := { st.frame with innerQuote := !st.frame.innerQuote } }
  else st

/-- A brace ends an expansion, or stands for itself. -/
def endBrace (st : WordState) : WordState :=
  let f := st.frame
  if f.innerQuote || f.nesting = 0 then st.pushChar '\x7d'
  else
    let f' := { f with nesting := f.nesting - 1 }
    let closed := { st with frame := f', builder := st.builder.leave }
    if f'.nesting = 0 && f'.forBraces then closed.popFrame
    else { closed with frame := { f' with quotedNesting := f'.quotedNesting - 1 } }

/-- A quotation begins. -/
def beginQuote (st : WordState) (style : Style) (marks : Bool) : WordState :=
  let st := { st with frame :=
    { st.frame with style := style, doubled := st.frame.doubled || style == .double } }
  let st := if style == .double then st.toggle else st
  if marks then st.push .quote else st

/-- A quotation ends. -/
def endQuote (st : WordState) (c : Char) (marks : Bool) : WordState :=
  let st := if st.frame.quotedNesting = 0 then
      { st with frame := { st.frame with style := .plain, doubled := false } }
    else st
  let st := { st with quoted := true }
  let st := if c == '"' then st.toggle else st
  if marks then st.push .quote else st

/-- An expansion in braces begins, of which the name and the operator were read.  Patterns are
read as if they stood outside of quotes. -/
def enterBraces (st : WordState) (name : Text) (operator : Operator) (orEmpty : Bool) :
    WordState :=
  let style : Style := match operator with
    | .dropStart _ => .plain
    | .dropEnd _ => .plain
    | _ => if st.frame.style == .arithmetic then .double else st.frame.style
  let st := if style != st.frame.style || st.frame.innerQuote then
      st.pushFrame { Frame.ofStyle style (style != .plain) with forBraces := true }
    else st
  let f := st.frame
  { st with
    frame := { f with
      nesting := f.nesting + 1
      quotedNesting := if f.doubled then f.quotedNesting + 1 else f.quotedNesting }
    builder := st.builder.enter (.parameter name operator orEmpty) }

end WordState

/-! ### Names of parameters -/

/-- The parameters whose name is one character that is no letter. -/
def isSpecial (c : Char) : Bool :=
  "!#$*-?@".toList.contains c || Text.isDigit c

/-- A character that may be none has a property. -/
def holds (p : Char → Bool) (c : Option Char) : Bool :=
  c.any p

/-- The characters of a class from a given one on, and the character after them. -/
def takeRun (keep : Char → Bool) : Nat → Text → Option Char → Reading (Text × Option Char)
  | 0, taken, c => return (taken.reverse, c)
  | n + 1, taken, c =>
    match c with
    | some d =>
      if keep d then do takeRun keep n (d :: taken) (← nextJoined)
      else return (taken.reverse, c)
    | none => return (taken.reverse, none)

/-- The operator that a character stands for after the name of a parameter. -/
def operatorOf? : Option Char → Option Operator
  | some '\x7d' => some .value
  | some '-' => some .default
  | some '+' => some .alternative
  | some '?' => some .demand
  | some '=' => some .assign
  | _ => none

/-- The operator after the name of a parameter in braces, of which the first character is
given.  What begins no operator takes the meaning away. -/
def readOperator (c : Option Char) : Reading (Operator × Bool) := do
  match c with
  | some ':' =>
    let d ← nextJoined
    return ((operatorOf? d).getD .meaningless, true)
  | some '#' =>
    let d ← nextJoined
    if d == some '#' then return (.dropStart true, false)
    unread d
    return (.dropStart false, false)
  | some '%' =>
    let d ← nextJoined
    if d == some '%' then return (.dropEnd true, false)
    unread d
    return (.dropEnd false, false)
  | c => return ((operatorOf? c).getD .meaningless, false)

/-- The end of an expansion that asks for a length. -/
def readLengthEnd (name : Text) (c : Option Char) : Reading (Text × Operator × Bool) := do
  unread c
  return (name, if c == some '\x7d' then .length else .meaningless, false)

/-- The name and the operator of an expansion in braces, of which the first character is
given. -/
def readBraces (n : Nat) (c : Option Char) : Reading (Text × Operator × Bool) := do
  let withOperator (name : Text) (c : Option Char) : Reading (Text × Operator × Bool) := do
    let (operator, orEmpty) ← readOperator c
    return (name, operator, orEmpty)
  match c with
  | none => return ([], .meaningless, false)
  | some '\x7d' =>
    unread c
    return ([], .meaningless, false)
  | some d =>
    if Text.isNameStart d then
      let (name, c) ← takeRun Text.isNameChar n [] c
      withOperator name c
    else if Text.isDigit d then
      let (name, c) ← takeRun Text.isDigit n [] c
      withOperator name c
    else if d == '#' then
      let e ← nextJoined
      if holds Text.isNameStart e then
        let (name, c) ← takeRun Text.isNameChar n [] e
        readLengthEnd name c
      else if holds Text.isDigit e then
        let (name, c) ← takeRun Text.isDigit n [] e
        readLengthEnd name c
      else
        let f ← nextJoined
        if e == some '\x7d' || f != some '\x7d' then
          unread f
          withOperator ['#'] e
        else if holds isSpecial e then readLengthEnd e.toList f
        else
          unread f
          return ([], .meaningless, false)
    else
      let e ← nextJoined
      if isSpecial d then withOperator [d] e
      else
        unread e
        return ([], .meaningless, false)

/-! ### Backquotes -/

/-- The text up to a backquote.  A backslash keeps its meaning for a command that is read
later, except before the characters that it has to protect here. -/
def readBackquoted (doubled : Bool) : Nat → Text → Reading Text
  | 0, taken => return taken.reverse
  | n + 1, taken => do
    match ← nextJoined with
    | none => fault "EOF in backquote substitution".toList
    | some '\x60' => return taken.reverse
    | some '\\' =>
      match ← nextChar with
      | none => readBackquoted doubled n ('\\' :: taken)
      | some c =>
        let isProtected := c == '\\' || c == '\x60' || c == '$' || (doubled && c == '"')
        readBackquoted doubled n (if isProtected then c :: taken else c :: '\\' :: taken)
    | some '\n' =>
      countLine
      readBackquoted doubled n ('\n' :: taken)
    | some c => readBackquoted doubled n (c :: taken)

/-! ### Documents -/

/-- The text of a document ends at the line that begins with a given character.  Tabs that
indent the line are left out. -/
def readDelimiter (e : Expected) : Nat → Option Char → Reading (Option Char × Bool)
  | 0, c => return (c, false)
  | n + 1, c => do
    if e.indented && c == some '\t' then readDelimiter e n (← nextChar)
    else
      unread c
      let s ← get
      let rest := match s.layers with
        | l :: _ => l.rest
        | [] => []
      let after := rest.drop e.delimiter.length
      if e.delimiter.isPrefixOf rest && (after.isEmpty || after.head? == some '\n') then
        let layers := match s.layers with
          | l :: outer => { l with rest := after.tail } :: outer
          | [] => []
        set { s with layers := layers, line := s.line + 1 }
        return (none, true)
      else return (← nextChar, false)

/-! ### Words and commands -/

/-- What is looked for in a word that is read as a token. -/
structure Checks where
  /-- Line ends are left out. -/
  newlines : Bool
  /-- The word may be one of the language. -/
  keywords : Bool
  /-- The word may be an alias. -/
  aliases : Bool
  /-- The word ends a document, so nothing in it is expanded. -/
  delimiter : Bool

/-- No checks. -/
def Checks.none : Checks := ⟨false, false, false, false⟩

/-- The beginning of a command. -/
def Checks.command : Checks := ⟨false, true, true, false⟩

/-- The beginning of a command that may stand on a later line. -/
def Checks.commandBelow : Checks := ⟨true, true, true, false⟩

/-- The names that no function may have. -/
def specialCommands : List String :=
  [".", ":", "break", "continue", "eval", "exec", "exit", "export", "local", "readonly",
    "return", "set", "shift", "times", "trap", "unset"]

/-- How a list of commands ends. -/
inductive ListMode where
  /-- At the end of a line. -/
  | line
  /-- At a word of the language, and there is at least one command. -/
  | body
  /-- The same, and there may be no command. -/
  | bodyOrNothing
deriving Repr, DecidableEq

/-- A list of commands that was read, and whether the end of the input was met before any. -/
structure ReadList where
  command : Option Command
  atEnd : Bool

/-- Put a command behind others. -/
def sequenceOf : Option Command → Command → Command
  | none, c => c
  | some a, c => .sequence a c

/-- A command that is not waited for. -/
def inBackground : Command → Command
  | .pipeline commands _ => .pipeline commands true
  | .redirected line body rs => .background line body rs
  | c => .background 0 c []

/-- The redirection that a redirector and a word make.  A descriptor is copied from a digit, or
from what the word expands to. -/
def copyOf (descriptor : Nat) (w : Word) : Redirection :=
  match Word.plain? w with
  | some ['-'] => .copy descriptor none
  | some [c] => if Text.isDigit c then .copy descriptor (some (c.toNat - 48)) else .copyWord descriptor w
  | _ => .copyWord descriptor w

/-- The arguments of a script, each as a word. -/
def allArguments : Word :=
  [.quote, .parameter ['@'] .value false [], .quote]

/-- There is no fuel left. -/
def exhausted {α : Type} : Reading α :=
  fault "out of memory".toList

mutual

/-- Read on in a word.  `c` is the next character; a document has its delimiter. -/
def readWord (document : Option Expected) (delimiter : Bool) :
    Nat → WordState → Option Char → Reading (WordState × Option Char)
  | 0, _, _ => exhausted
  | n + 1, st, c => do
    let marks := document.isNone
    let next (st : WordState) : Reading (Option Char) :=
      if st.frame.style == .single then nextChar else nextJoined
    match c with
    | none => return (st, none)
    | some c =>
      match meaning st.frame.style c with
      | .newline =>
        if st.frame.style == .plain && st.frame.nesting = 0 then return (st, some c)
        else
          countLine
          let st := st.pushChar c
          let d ← next st
          match document with
          | none => readWord document delimiter n st d
          | some e =>
            let (d, ended) ← readDelimiter e n d
            if ended then return (st, none) else readWord document delimiter n st d
      | .itself =>
        let st := st.pushChar c
        readWord document delimiter n st (← next st)
      | .backslash =>
        match ← nextChar with
        | none => readWord document delimiter n (st.push (.char '\\' true)) none
        | some d =>
          let f := st.frame
          let escapes := !f.doubled || d == '\\' || d == '\x60' || d == '$' ||
            (d == '"' && (marks || 0 < f.nesting)) || (d == '\x7d' && 0 < f.nesting)
          let st := if escapes then st else st.push (.char '\\' true)
          let st := { st.push (.char d true) with quoted := true }
          readWord document delimiter n st (← next st)
      | .singleQuote =>
        let st := st.beginQuote .single marks
        readWord document delimiter n st (← next st)
      | .doubleQuote =>
        let st := st.beginQuote .double marks
        readWord document delimiter n st (← next st)
      | .endQuote =>
        let st := if !marks && st.frame.nesting = 0 then st.pushChar c else st.endQuote c marks
        readWord document delimiter n st (← next st)
      | .endBrace =>
        let st := st.endBrace
        readWord document delimiter n st (← next st)
      | .leftParen =>
        let st := { st.pushChar c with frame := { st.frame with parens := st.frame.parens + 1 } }
        readWord document delimiter n st (← next st)
      | .rightParen =>
        if 0 < st.frame.parens then
          let st := { st.pushChar c with
            frame := { st.frame with parens := st.frame.parens - 1 } }
          readWord document delimiter n st (← next st)
        else
          let d ← nextJoined
          if d == some ')' then
            let st := { st with builder := st.builder.leave }.popFrame
            readWord document delimiter n st (← next st)
          else
            unread d
            let st := st.pushChar c
            readWord document delimiter n st (← next st)
      | .backQuote =>
        if delimiter then
          let st := st.pushChar c
          readWord document delimiter n st (← next st)
        else
          let body ← readOldCommand n st.frame.doubled
          let st := st.push (.command body)
          readWord document delimiter n st (← next st)
      | .expansion =>
        let st ← readExpansion n delimiter st
        readWord document delimiter n st (← next st)
      | .boundary =>
        if st.frame.nesting = 0 then return (st, some c)
        else
          let st := st.pushChar c
          readWord document delimiter n st (← next st)

/-- Read what stands after a dollar sign. -/
def readExpansion : Nat → Bool → WordState → Reading WordState
  | 0, _, _ => exhausted
  | n + 1, delimiter, st => do
    let c ← nextJoined
    if delimiter || !holds (fun c => c == '(' || c == '\x7b' || Text.isNameStart c || isSpecial c) c
    then
      unread c
      return st.pushChar '$'
    else if c == some '(' then
      let d ← nextJoined
      if d == some '(' then
        return { st with builder := st.builder.enter .arithmetic }.pushFrame
          (.ofStyle .arithmetic true)
      else
        unread d
        return st.push (.command (← readNewCommand n))
    else if c == some '\x7b' then
      let (name, operator, orEmpty) ← readBraces n (← nextJoined)
      if operator = .value && !orEmpty then return st.push (.parameter name .value false [])
      else return st.enterBraces name operator orEmpty
    else if holds Text.isNameStart c then
      let (name, d) ← takeRun Text.isNameChar n [] c
      unread d
      return st.push (.parameter name .value false [])
    else return st.push (.parameter c.toList .value false [])

/-- Read a command in parentheses that is expanded. -/
def readNewCommand : Nat → Reading (Option Command)
  | 0 => exhausted
  | n + 1 => do
    let expected := (← get).expected
    modify fun s => { s with expected := [] }
    let body ← readList n .bodyOrNothing
    let t ← readToken n .none
    if t.kind ≠ .mark ")" then unexpected (some (.mark ")"))
    modify fun s => { s with expected := expected }
    return body.command

/-- Read a command in backquotes: its text, and then that text as a script of its own. -/
def readOldCommand : Nat → Bool → Reading (Option Command)
  | 0, _ => exhausted
  | n + 1, doubled => do
    let t ← readBackquoted doubled n []
    let s ← get
    set { s with layers := [⟨none, t, false⟩], line := 1, expected := [] }
    let body ← readList n .bodyOrNothing
    modify fun s' =>
      { s' with layers := s.layers, line := s.line, expected := s.expected, pushed := none }
    return body.command

/-- Read the word or the redirection that begins with a character. -/
def readWordToken : Nat → Bool → Option Char → Reading Token
  | 0, _, _ => exhausted
  | n + 1, delimiter, c => do
    let (st, d) ← readWord none delimiter n (.start .plain) c
    if st.frame.style == .arithmetic then fault "Missing '))'".toList
    if st.frame.style != .plain then fault "Unterminated quoted string".toList
    if st.frame.nesting ≠ 0 then fault "Missing '\x7d'".toList
    let w := st.builder.word
    let number? : Option (Option Nat) := match w with
      | [] => some none
      | [.char e false] => if Text.isDigit e then some (some (e.toNat - 48)) else none
      | _ => none
    match d, st.quoted, number? with
    | some '>', false, some number =>
      let descriptor := number.getD 1
      match ← nextJoined with
      | some '>' => return .redirection (.file descriptor .appending)
      | some '|' => return .redirection (.file descriptor .replacing)
      | some '&' => return .redirection (.copy descriptor)
      | e =>
        unread e
        return .redirection (.file descriptor .output)
    | some '<', false, some number =>
      let descriptor := number.getD 0
      match ← nextJoined with
      | some '<' =>
        let e ← nextJoined
        if e == some '-' then return .redirection (.document descriptor true)
        unread e
        return .redirection (.document descriptor false)
      | some '&' => return .redirection (.copy descriptor)
      | some '>' => return .redirection (.file descriptor .both)
      | e =>
        unread e
        return .redirection (.file descriptor .input)
    | d, quoted, _ =>
      unread d
      return .word w quoted

/-- Read a token as it stands. -/
def scanToken : Nat → Bool → Reading Token
  | 0, _ => exhausted
  | n + 1, delimiter => do
    let double (c : Char) : Reading Token := do
      let d ← nextJoined
      if d == some c then return .mark (String.ofList [c, c])
      unread d
      return .mark (String.ofList [c])
    match ← nextJoined with
    | none => return .endOfInput
    | some ' ' => scanToken n delimiter
    | some '\t' => scanToken n delimiter
    | some '\n' =>
      countLine
      return .newline
    | some '#' =>
      modify fun s =>
        match s.layers with
        | l :: outer => { s with layers := { l with rest := l.rest.dropWhile (· != '\n') } :: outer }
        | [] => s
      scanToken n delimiter
    | some '&' => double '&'
    | some '|' => double '|'
    | some ';' => double ';'
    | some '(' => return .mark "("
    | some ')' => return .mark ")"
    | c => readWordToken n delimiter c

/-- Read a token.  A token that was put back is looked at anew. -/
def readToken : Nat → Checks → Reading Token
  | 0, _ => exhausted
  | n + 1, checks => do
    let s ← get
    let t ← match s.pushed with
      | some t =>
        set { s with pushed := none }
        pure t
      | none =>
        set { s with afterAlias := false }
        scanToken n checks.delimiter
    modify fun s => { s with last := t.kind }
    match t with
    | .newline =>
      if checks.newlines then
        readDocuments n
        readToken n checks
      else return t
    | .word w false =>
      match Word.plain? w with
      | none => return t
      | some text =>
        if checks.keywords && keywords.contains (String.ofList text) then
          let t := Token.mark (String.ofList text)
          modify fun s => { s with last := t.kind }
          return t
        else if checks.aliases || (← get).afterAlias then
          match ← aliasText? text with
          | none => return t
          | some value =>
            pushAlias text value
            readToken n checks
        else return t
    | t => return t

/-- Read the texts of the documents that are due. -/
def readDocuments : Nat → Reading Unit
  | 0 => exhausted
  | n + 1 => do
    match (← get).expected with
    | [] => return
    | e :: rest =>
      modify fun s => { s with expected := rest }
      let c ← if e.literal then nextChar else nextJoined
      let (c, ended) ← readDelimiter e n c
      let (st, _) ← if ended then pure (.start .double, none)
        else readWord (some e) false n (.start (if e.literal then .single else .double)) c
      if st.frame.style == .arithmetic then fault "Missing '))'".toList
      if st.frame.nesting ≠ 0 then fault "Missing '\x7d'".toList
      modify fun s =>
        { s with documents := (e.id, ⟨st.builder.word, e.literal⟩) :: s.documents }
      readDocuments n

/-- Read the word of a redirection. -/
def readRedirection : Nat → Redirector → Reading Redirection
  | 0, _ => exhausted
  | n + 1, r => do
    let isDocument := match r with
      | .document _ _ => true
      | _ => false
    match ← readToken n ⟨false, false, false, isDocument⟩ with
    | .word w quoted =>
      match r with
      | .file descriptor direction => return .file descriptor direction w
      | .copy descriptor => return copyOf descriptor w
      | .document descriptor indented =>
        let s ← get
        let e : Expected := ⟨s.nextDocument, Word.unquoted w, indented, quoted⟩
        set { s with expected := s.expected ++ [e], nextDocument := e.id + 1 }
        return .document descriptor e.id
    | _ => unexpected none

/-- Read the redirections after a command. -/
def readRedirections : Nat → Reading (List Redirection)
  | 0 => exhausted
  | n + 1 => do
    match ← readToken n .command with
    | .redirection r =>
      let first ← readRedirection n r
      return first :: (← readRedirections n)
    | t =>
      pushBack t
      return []

/-- Read a list of commands. -/
def readList : Nat → ListMode → Reading ReadList
  | 0, _ => exhausted
  | n + 1, mode => readListFrom n mode none

/-- Read on in a list of commands. -/
def readListFrom : Nat → ListMode → Option Command → Reading ReadList
  | 0, _, _ => exhausted
  | n + 1, mode, before => do
    let t ← readToken n (if mode = .line then .command else .commandBelow)
    match t with
    | .newline =>
      readDocuments n
      return ⟨before, false⟩
    | .endOfInput =>
      readDocuments n
      pushBack t
      modify fun s => { s with last := .endOfInput }
      return ⟨before, before.isNone && mode = .line⟩
    | t =>
      pushBack t
      if endsList t.kind && (mode = .bodyOrNothing || (mode = .body && before.isSome)) then
        return ⟨before, false⟩
      let c ← readAndOr n
      let t ← readToken n .none
      let c := if t.kind = .mark "&" then inBackground c else c
      let commands := sequenceOf before c
      match t.kind with
      | .newline =>
        pushBack t
        readListFrom n mode (some commands)
      | .endOfInput =>
        pushBack t
        readListFrom n mode (some commands)
      | .mark "&" => readListFrom n mode (some commands)
      | .mark ";" => readListFrom n mode (some commands)
      | _ =>
        if mode = .line then unexpected none
        pushBack t
        return ⟨some commands, false⟩

/-- Read commands joined by `&&` and `||`. -/
def readAndOr : Nat → Reading Command
  | 0 => exhausted
  | n + 1 => do
    let first ← readPipeline n .none
    readAndOrFrom n first

/-- Read on in commands joined by `&&` and `||`. -/
def readAndOrFrom : Nat → Command → Reading Command
  | 0, _ => exhausted
  | n + 1, first => do
    let t ← readToken n .none
    match t.kind with
    | .mark "&&" => readAndOrFrom n (.both first (← readPipeline n .commandBelow))
    | .mark "||" => readAndOrFrom n (.either first (← readPipeline n .commandBelow))
    | _ =>
      pushBack t
      return first

/-- Read a pipeline. -/
def readPipeline : Nat → Checks → Reading Command
  | 0, _ => exhausted
  | n + 1, checks => do
    let t ← readToken n checks
    let negated := t.kind = .mark "!"
    if !negated then pushBack t
    let first ← readCommand n (if negated then .command else .none)
    let rest ← readStages n
    let c := if rest.isEmpty then first else .pipeline (first :: rest) false
    return if negated then .negation c else c

/-- Read the commands of a pipeline after the first. -/
def readStages : Nat → Reading (List Command)
  | 0 => exhausted
  | n + 1 => do
    let t ← readToken n .none
    if t.kind = .mark "|" then
      let c ← readCommand n .commandBelow
      return c :: (← readStages n)
    else
      pushBack t
      return []

/-- Read a token that has to be there. -/
def require : Nat → Checks → Kind → Reading Unit
  | 0, _, _ => exhausted
  | n + 1, checks, k => do
    let t ← readToken n checks
    if t.kind ≠ k then unexpected (some k)

/-- Read a list of commands that is not empty.  It is only where the input ends, and then the
token that has to follow is missing too. -/
def readBody : Nat → Reading Command
  | 0 => exhausted
  | n + 1 => do
    return (← readList n .body).command.getD (.simple 0 [] [] [])

/-- Read a command. -/
def readCommand : Nat → Checks → Reading Command
  | 0, _ => exhausted
  | n + 1, checks => do
    let line := (← get).line
    let withRedirections (c : Command) : Reading Command := do
      match ← readRedirections n with
      | [] => return c
      | rs =>
        match c with
        | .subshell line body _ => return .subshell line body rs
        | c => return .redirected line c rs
    let t ← readToken n checks
    match t with
    | .mark "if" =>
      let c ← readConditional n
      require n .none (.mark "fi")
      withRedirections c
    | .mark "while" =>
      let test ← readBody n
      require n .none (.mark "do")
      let body ← readBody n
      require n .none (.mark "done")
      withRedirections (.loop false test body)
    | .mark "until" =>
      let test ← readBody n
      require n .none (.mark "do")
      let body ← readBody n
      require n .none (.mark "done")
      withRedirections (.loop true test body)
    | .mark "for" =>
      let c ← readForEach n line
      require n .none (.mark "done")
      withRedirections c
    | .mark "case" =>
      let t ← readToken n .none
      match t with
      | .word w _ =>
        require n .commandBelow (.mark "in")
        let cases ← readCases n
        withRedirections (.choice line w cases)
      | _ => unexpected (some .word)
    | .mark "(" =>
      let body ← readBody n
      require n .none (.mark ")")
      withRedirections (.subshell line body [])
    | .mark "\x7b" =>
      let body ← readBody n
      require n .none (.mark "\x7d")
      withRedirections body
    | .word _ _ =>
      pushBack t
      readSimple n (← get).line true [] [] []
    | .redirection _ =>
      pushBack t
      readSimple n (← get).line true [] [] []
    | _ => unexpected none

/-- Read a condition after `if` or `elif`, and what depends on it. -/
def readConditional : Nat → Reading Command
  | 0 => exhausted
  | n + 1 => do
    let test ← readBody n
    require n .none (.mark "then")
    let body ← readBody n
    let t ← readToken n .none
    match t.kind with
    | .mark "elif" => return .conditional test body (some (← readConditional n))
    | .mark "else" => return .conditional test body (some (← readBody n))
    | _ =>
      pushBack t
      return .conditional test body none

/-- Read a loop over words, from its variable up to its end. -/
def readForEach : Nat → Nat → Reading Command
  | 0, _ => exhausted
  | n + 1, line => do
    let bad {α : Type} : Reading α := fault "Bad for loop variable".toList
    match ← readToken n .none with
    | .word w false =>
      match Word.plain? w with
      | some name =>
        if !Word.isName name then bad
        let t ← readToken n .commandBelow
        if t.kind = .mark "in" then
          let (words, t) ← readWords n
          if t.kind ≠ .newline && t.kind ≠ .mark ";" then unexpected none
          require n .commandBelow (.mark "do")
          return .forEach line name words (← readBody n)
        else
          if t.kind ≠ .mark ";" then pushBack t
          require n .commandBelow (.mark "do")
          return .forEach line name [allArguments] (← readBody n)
      | none => bad
    | _ => bad

/-- Read words, and the token after them. -/
def readWords : Nat → Reading (List Word × Token)
  | 0 => exhausted
  | n + 1 => do
    match ← readToken n .none with
    | .word w _ =>
      let (words, t) ← readWords n
      return (w :: words, t)
    | t => return ([], t)

/-- Read the cases of a choice. -/
def readCases : Nat → Reading (List (List Word × Option Command))
  | 0 => exhausted
  | n + 1 => do
    let t ← readToken n ⟨true, true, false, false⟩
    if t.kind = .mark "esac" then return []
    let t ← if t.kind = .mark "(" then readToken n .none else pure t
    let patterns ← readPatterns n t
    let body ← readList n .bodyOrNothing
    let t ← readToken n ⟨true, true, false, false⟩
    match t.kind with
    | .mark "esac" => return [(patterns, body.command)]
    | .mark ";;" => return (patterns, body.command) :: (← readCases n)
    | _ => unexpected (some (.mark ";;"))

/-- Read the patterns of a case, of which the first is given, up to a parenthesis. -/
def readPatterns : Nat → Token → Reading (List Word)
  | 0, _ => exhausted
  | n + 1, t => do
    let w : Word := match t with
      | .word w _ => w
      | .mark text => text.toList.map (.char · false)
      | _ => []
    let t' ← readToken n .none
    match t'.kind with
    | .mark "|" => return w :: (← readPatterns n (← readToken n .none))
    | .mark ")" => return [w]
    | _ => unexpected (some (.mark ")"))

/-- Read on in a simple command, or read a function.  The words and redirections so far are
kept with the last first. -/
def readSimple : Nat → Nat → Bool → List Word → List Word → List Redirection → Reading Command
  | 0, _, _, _, _, _ => exhausted
  | n + 1, line, atStart, assignments, words, redirections => do
    let t ← readToken n ⟨false, false, atStart, false⟩
    match t with
    | .word w quoted =>
      if atStart && Word.isAssignment w then
        readSimple n line true (w :: assignments) words redirections
      else
        match words, assignments, redirections with
        | [], [], [] =>
          -- A word and an empty pair of parentheses begin a function.
          let t ← readToken n .none
          if t.kind = .mark "(" then
            require n .none (.mark ")")
            let name := (Word.plain? w).getD []
            if quoted || !Word.isName name || specialCommands.contains (String.ofList name) then
              fault "Bad function name".toList
            return .define name (← get).line (← readCommand n .commandBelow)
          else
            pushBack t
            readSimple n line false assignments (w :: words) redirections
        | _, _, _ => readSimple n line false assignments (w :: words) redirections
    | .redirection r =>
      let redirection ← readRedirection n r
      readSimple n line atStart assignments words (redirection :: redirections)
    | t =>
      pushBack t
      return .simple line assignments.reverse words.reverse redirections.reverse

end

/-- The fuel of a reader. -/
def readFuel : Nat := 1000000000

/-- Read the commands of the next line, and of the lines that belong to it. -/
def readLine : Reading ReadList := do
  modify fun s => { s with pushed := none, expected := [], afterAlias := false }
  readList readFuel .line

end CommandShell.Script
