import CommandShell.FileSystem
import CommandShell.Pattern

/-!
# Causes of failure

Why a command failed.  The wording of a cause names what was being done before the reason,
with a colon between them.
-/

namespace CommandShell

/-- Why a command failed. -/
inductive Cause where
  /-- A file could not be read as text. -/
  | unreadable (file : Text) (reason : FileError)
  /-- A path to be listed leads nowhere. -/
  | nothingThere (path : Text)
  /-- A directory could not be read. -/
  | unlisted (path : Text) (reason : FileError)
  /-- There is no directory to change to. -/
  | noTarget
  /-- The directory to change to could not be followed. -/
  | lost (path : Path) (reason : FileError)
  /-- The target to change to is no directory. -/
  | notDirectory (target : Text)
  /-- The pattern was refused. -/
  | badPattern (pattern : Text) (reason : Pattern.CompileError)
  /-- A file to be searched could not be opened. -/
  | unopened (file : Text) (reason : FileError)
  /-- A file to be searched could not be read to its end. -/
  | unsearchable (file : Text) (reason : FileError)
  /-- No program has the name of the command. -/
  | notFound
  /-- The program could not be started. -/
  | notStarted (program : Path) (reason : FileError)
  /-- The program could not be given its input. -/
  | notFed (reason : FileError)
  /-- The program could not be waited for. -/
  | notAwaited (reason : FileError)
  /-- The program complained. -/
  | complained (complaint : Text)
  /-- The program ended with a code other than zero. -/
  | exited (code : Int)
deriving Repr, DecidableEq

namespace Cause

/-- What was being done and the reason, with a colon between them. -/
def within (doing reason : Text) : Text :=
  doing ++ ": ".toList ++ reason

/-- The wording of a cause. -/
def message : Cause → Text
  | unreadable file reason => within (file ++ ": cannot read file".toList) reason.message
  | nothingThere path => within path "no such file or directory".toList
  | unlisted path reason => within (path ++ ": cannot read directory".toList) reason.message
  | noTarget => "no target and HOME not set".toList
  | lost path reason => within ("can't canonicalize ".toList ++ Path.shown path) reason.message
  | notDirectory target => within target "not a directory".toList
  | badPattern pattern reason =>
    within ("invalid regex pattern: ".toList ++ pattern) reason.message
  | unopened file reason => within (file ++ ": cannot open file".toList) reason.message
  | unsearchable file reason =>
    within (file ++ ": cannot read file: read error".toList) reason.message
  | notFound => "command not found".toList
  | notStarted program reason =>
    within ("failed to spawn ".toList ++ Path.shown program) reason.message
  | notFed reason => within "failed to write to child stdin".toList reason.message
  | notAwaited reason => within "failed to wait for child".toList reason.message
  | complained complaint => complaint
  | exited code => "exited with status ".toList ++ Text.ofInt code

end Cause

end CommandShell
