import CommandShell.Path

/-!
# The environment of a session

The variables of a session and its directory.  The variables are kept in the order in
which they were first set; only `get?` reads them, so the order shows nowhere in the
behaviour of a line.

A session takes its variables over from the process once, when it starts.  There they are bytes
(`Bindings`), and a session starts only if all of them are texts.
-/

namespace CommandShell

/-- The variables of a session, each name once. -/
structure Variables where
  entries : List (Text × Text)
deriving Repr, DecidableEq

namespace Variables

/-- No variables. -/
def empty : Variables :=
  ⟨[]⟩

/-- The value of a variable, if it is set. -/
def get? (v : Variables) (name : Text) : Option Text :=
  v.entries.lookup name

/-- The value of a variable; one that is not set is empty. -/
def get (v : Variables) (name : Text) : Text :=
  (v.get? name).getD []

/-- The entries with the value of one name replaced, or the name added. -/
def setEntry (name value : Text) : List (Text × Text) → List (Text × Text)
  | [] => [(name, value)]
  | (n, w) :: rest =>
    if n = name then (n, value) :: rest else (n, w) :: setEntry name value rest

/-- The variables with one of them set. -/
def set (v : Variables) (name value : Text) : Variables :=
  ⟨setEntry name value v.entries⟩

/-- Variables from a list of settings; of two settings of one name the later counts. -/
def ofList (settings : List (Text × Text)) : Variables :=
  settings.foldl (fun v (name, value) => v.set name value) empty

theorem lookup_setEntry (name value other : Text) (entries : List (Text × Text)) :
    (setEntry name value entries).lookup other =
      if other = name then some value else entries.lookup other := by
  induction entries with
  | nil =>
    by_cases h : other = name
    · simp [setEntry, h]
    · have hb : (other == name) = false := by simpa using h
      simp [setEntry, h, List.lookup_cons, hb]
  | cons e rest ih =>
    obtain ⟨n, w⟩ := e
    by_cases hn : n = name
    · by_cases h : other = name
      · simp [setEntry, hn, h]
      · have hb : (other == name) = false := by simpa using h
        simp [setEntry, hn, h, List.lookup_cons, hb]
    · by_cases h : other = n
      · have hne : ¬ other = name := fun h' => hn (h ▸ h')
        simp [setEntry, hn, h]
      · have hb : (other == n) = false := by simpa using h
        simp [setEntry, hn, List.lookup_cons, hb, ih]

/-- After setting a variable, its name has the new value and every other name the old. -/
theorem get?_set (v : Variables) (name value other : Text) :
    (v.set name value).get? other = if other = name then some value else v.get? other :=
  lookup_setEntry name value other v.entries

end Variables

/-! ### The variables of a process -/

/-- The variables of a process, as the system hands them over: names and values are bytes, and
a name may stand there more than once. -/
abbrev Bindings := List (List UInt8 × List UInt8)

/-- Bindings that are written as strings. -/
def Bindings.ofStrings (settings : List (String × String)) : Bindings :=
  settings.map fun (name, value) => (Utf8.encode name.toList, Utf8.encode value.toList)

/-- Bindings as texts, if every name and every value is one. -/
def Bindings.texts? : Bindings → Option (List (Text × Text))
  | [] => some []
  | (name, value) :: rest =>
    match Utf8.decode? name, Utf8.decode? value, texts? rest with
    | some n, some v, some entries => some ((n, v) :: entries)
    | _, _, _ => none

/-- The variables of a session that takes over those of a process.  It takes over all of them or
none. -/
def Variables.ofBindings? (bindings : Bindings) : Option Variables :=
  bindings.texts?.map ofList

/-- The variables and the directory of a session. -/
structure Environment where
  vars : Variables
  /-- The directory that relative paths are taken from. -/
  directory : Path
deriving Repr, DecidableEq

namespace Environment

/-- The path that a text stands for, taken relative to the directory of the session. -/
def resolve (env : Environment) (t : Text) : Path :=
  let p := Path.ofText t
  if Path.isAbsolute p then p else Path.join env.directory p

/-- The environment with one variable set. -/
def set (env : Environment) (name value : Text) : Environment :=
  { env with vars := env.vars.set name value }

end Environment

end CommandShell
