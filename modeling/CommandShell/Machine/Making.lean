import CommandShell.Machine.System

/-!
# Making directories and links

The programs `mkdir` and `ln -s` put one thing each into a directory that is there: an empty
directory for each name, or a link.  What stands at the name already stays.  Neither of them
takes an option, apart from the `-s` of `ln`.
-/

namespace CommandShell.Machine

/-- Put a node at a path, where nothing may stand yet. -/
def makeAt (files : FileSystem) (base : RealPath) (path : Text) (node : Node) :
    Except FileError FileSystem :=
  if path.isEmpty then .error .noEntry
  else
    -- A separator at the end of a name means nothing here.
    let (above, name) := cutLast ((toBytes path).reverse.dropWhile (· == Path.slash)).reverse
    match files.locate base above with
    | .error e => .error e
    | .ok place =>
      if files.node? place ≠ some .directory then .error .notDirectory
      else if FileSystem.nameLimit < name.length then .error .nameTooLong
      else if name ∈ [[], Path.here, Path.above] || (files.node? (place ++ [name])).isSome then
        .error .alreadyThere
      else .ok ⟨files.entries ++ [(place ++ [name], node)]⟩

/-- Write to the stream of complaints, if there is one. -/
def complainTo (start : Start) (s : System) (complaint : Text) : System :=
  match start.descriptors.lookup 2 with
  | some id => (s.write? id (Text.line complaint)).getD s
  | none => s

/-- A complaint of a program, under the name that it was called by. -/
def complaintOf (start : Start) (name : String) (reason : Text) : Text :=
  start.arguments.headD name.toList ++ ": ".toList ++ reason

/-- A name between quotes, and what there is to say about it. -/
def about (doing : String) (name : Text) (e : FileError) : Text :=
  doing.toList ++ " '".toList ++ name ++ "': ".toList ++ e.reason

/-- Make a directory for each name.  The flag says that all of them could be made. -/
def makeEach (start : Start) : Bool → System → List Text → Bool × System
  | done, s, [] => (done, s)
  | done, s, name :: rest =>
    match makeAt s.files start.directory name .directory with
    | .ok files => makeEach start done { s with files := files } rest
    | .error e =>
      let reason := about "cannot create directory" name e
      makeEach start false (complainTo start s (complaintOf start "mkdir" reason)) rest

/-- The code of a program that failed, or did not. -/
def codeOf (done : Bool) : Ending :=
  .exited (if done then 0 else 1)

/-- Make the directories that the arguments name. -/
def makeDirectories (start : Start) (s : System) : Ending × System :=
  match start.arguments.tail with
  | [] => (codeOf false, complainTo start s (complaintOf start "mkdir" "missing operand".toList))
  | names =>
    let (done, s) := makeEach start true s names
    (codeOf done, s)

/-- Make the link that the arguments name, to the target before it. -/
def makeLink (start : Start) (s : System) : Ending × System :=
  match start.arguments.tail with
  | [['-', 's'], target, name] =>
    match makeAt s.files start.directory name (.link (toBytes target)) with
    | .ok files => (codeOf true, { s with files := files })
    | .error e =>
      let reason := about "failed to create symbolic link" name e
      (codeOf false, complainTo start s (complaintOf start "ln" reason))
  | _ => (codeOf false, complainTo start s (complaintOf start "ln" "missing operand".toList))

end CommandShell.Machine
