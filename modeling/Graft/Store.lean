import Graft.Path

/-!
# Store

Where texts are read from and written to.  Reading and writing can fail, and a write either puts the
whole new text in place or leaves the old one.
-/

namespace Graft

/-- Why the system refuses an operation on a file. -/
inductive OsError where
  | noEntry
  | notDirectory
  | isDirectory
  | nameTooLong
  | linkLoop
  | notText
  | other (text : String)
  deriving DecidableEq, Repr

def OsError.message : OsError → String
  | .noEntry      => "No such file or directory (os error 2)"
  | .notDirectory => "Not a directory (os error 20)"
  | .isDirectory  => "Is a directory (os error 21)"
  | .nameTooLong  => "File name too long (os error 36)"
  | .linkLoop     => "Too many levels of symbolic links (os error 40)"
  | .notText      => "stream did not contain valid UTF-8"
  | .other text   => text

/-- Why a text cannot be read or written. -/
inductive StoreError where
  | notFound (path : Path)
  | read (path : Path) (why : OsError)
  | notText (path : Path)
  | write (path : Path) (why : OsError)
  deriving DecidableEq, Repr

def StoreError.message : StoreError → String
  | .notFound p  => s!"file not found: {p}"
  | .read p why  => s!"failed to read {p}: {why.message}"
  | .notText p   => s!"{p} is not valid UTF-8"
  | .write p why => s!"failed to write {p}: {why.message}"

/-- Effects that read and write texts by their path. -/
class TextStore (m : Type → Type) where
  readText : Path → ExceptT StoreError m Text
  writeText : Path → Text → ExceptT StoreError m Unit

export TextStore (readText writeText)

end Graft
