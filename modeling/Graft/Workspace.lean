import Graft.FileSystem

/-!
# Workspace

The directory that all targets have to lie in, away from code that came from elsewhere.  A path is
resolved to the location of a file in the workspace, or refused (`Workspace.resolve`).
-/

namespace Graft

/-- A directory that confines the targets. -/
structure Workspace where
  root : Location
  deriving DecidableEq, Repr

/-- Why a path is no target. -/
inductive WorkspaceError where
  | outside (path root : Location)
  | vendored (path : Location) (directory : Text)
  | noFileName (path : Path)
  | unresolved (why : OsError)
  deriving DecidableEq, Repr

namespace WorkspaceError

def message : WorkspaceError → String
  | .outside p root => s!"target is outside workspace: {Path.ofNames p} (workspace: {Path.ofNames root})"
  | .vendored p dir => s!"target is inside {String.ofList dir}/: {Path.ofNames p}"
  | .noFileName p   => s!"target has no file name: {p}"
  | .unresolved why => s!"failed to resolve path: {why.message}"

end WorkspaceError

namespace Workspace

/-- Directories whose files are never targets, at any depth. -/
def vendoredNames : List Text := ["node_modules".toList, ".git".toList]

/-- Whether a location lies in the workspace and in no vendored directory of it. -/
def accept (w : Workspace) (l : Location) : Except WorkspaceError Location :=
  if w.root.isPrefixOf l then
    match (l.drop w.root.length).dropLast.find? vendoredNames.contains with
    | some dir => .error (.vendored l dir)
    | none     => .ok l
  else .error (.outside l w.root)

variable {m : Type → Type} [Monad m] [FileSystem m]

/-- The workspace at a path that exists. -/
def ofPath (p : Path) : ExceptT WorkspaceError m Workspace :=
  ExceptT.adapt .unresolved (.mk <$> canonicalize p)

/-- Where a path leads; the last name of a path need not exist. -/
def locate (joined : Path) : ExceptT WorkspaceError m Location :=
  tryCatch (ExceptT.adapt .unresolved (canonicalize joined)) fun _ =>
    match joined.fileName? with
    | none      => throw (.noFileName joined)
    | some name => ExceptT.adapt .unresolved ((· ++ [name]) <$> canonicalize joined.parent)

/-- The target that a path names from the workspace on. -/
def resolve (w : Workspace) (p : Path) : ExceptT WorkspaceError m Location := do
  let l ← locate ((Path.ofNames w.root).join p)
  ExceptT.mk (pure (w.accept l))

end Workspace

end Graft
