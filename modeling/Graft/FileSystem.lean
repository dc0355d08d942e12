import Graft.Store

/-!
# File system

What a command needs from the files around it, besides reading and writing texts: to find out where
a path leads, and which files a directory holds.
-/

namespace Graft

/-- Where something is: the names from the root down, free of dots and links. -/
abbrev Location := List Text

/-- Effects that follow paths through directories and links. -/
class FileSystem (m : Type → Type) extends TextStore m where
  canonicalize : Path → ExceptT OsError m Location
  isDirectory : Path → m Bool
  regularFiles : Path → ExceptT OsError m (List Text)
  readString : Path → ExceptT OsError m Text

export FileSystem (canonicalize isDirectory regularFiles readString)

end Graft
