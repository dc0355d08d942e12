import Graft.Command
import Graft.FileTree

/-!
# The program

The files of the machine as a file system, and the entry point.  Everything else is decided by
`Command.runWords`.
-/

namespace Graft

/-- The reason behind a failed operation of the system. -/
def OsError.ofSystem (e : IO.Error) : OsError :=
  let coded (code : UInt32) (details : String) : OsError :=
    match code.toNat with
    | 2  => .noEntry
    | 20 => .notDirectory
    | 21 => .isDirectory
    | 36 => .nameTooLong
    | 40 => .linkLoop
    | n  => .other s!"{details} (os error {n})"
  match e with
  | .noFileOrDirectory _ _ _ => .noEntry
  | .inappropriateType _ code details | .alreadyExists _ code details
  | .invalidArgument _ code details | .permissionDenied _ code details
  | .resourceExhausted _ code details | .noSuchThing _ code details
  | .interrupted _ code details | .otherError code details | .resourceBusy code details
  | .resourceVanished code details | .unsupportedOperation code details
  | .hardwareFault code details | .unsatisfiedConstraints code details
  | .illegalOperation code details | .protocolError code details
  | .timeExpired code details => coded code details
  | .unexpectedEof            => .other "unexpected end of file"
  | .userError text           => .other text

namespace Machine

/-- An operation of the system with its failure as a value. -/
def attempt {α : Type} (act : IO α) : ExceptT OsError IO α :=
  ExceptT.mk do
    try return .ok (← act)
    catch e => return .error (.ofSystem e)

def spelled (p : Path) : String := String.ofList p.spelling

/-- Puts a new file beside the one at a path, and then in its place.  A file that was not there is
for its owner only.  The permissions of an old version are not carried over, since they cannot be
asked for here, and the new file is not brought to the medium before it takes its place; the steps
`permit` and `sync` of a write (`WriteStep`) are left out. -/
def replaceFile (p : Path) (bytes : ByteArray) : IO Unit := do
  let isNew ← try
      let _ ← IO.FS.realPath (spelled p)
      pure false
    catch _ => pure true
  let stamp ← IO.monoNanosNow
  let beside := spelled ((FileTree.holder p).join (.ofString s!".tmp{stamp}"))
  IO.FS.writeBinFile beside bytes
  try
    if isNew then IO.setAccessRights beside { user := { read := true, write := true } }
    IO.FS.rename beside (spelled p)
  catch e =>
    IO.FS.removeFile beside
    throw e

/-- The names of the files in a directory, links and directories left out. -/
def regularFilesIn (p : Path) : IO (List Text) := do
  let dir ← IO.FS.realPath (spelled p)
  let entries ← dir.readDir
  let files ← entries.toList.filterM fun e => do
    let data ← e.path.symlinkMetadata
    return data.type == .file
  return files.map fun e => e.fileName.toList

instance : FileSystem IO where
  readText p := ExceptT.mk do
    match ← (attempt (IO.FS.readBinFile (spelled p))).run with
    | .error .noEntry => return .error (.notFound p)
    | .error why      => return .error (.read p why)
    | .ok bytes       =>
        match FileTree.decode? bytes with
        | some text => return .ok text
        | none      => return .error (.notText p)
  writeText p text :=
    ExceptT.adapt (.write p) (attempt (replaceFile p (FileTree.encode text)))
  canonicalize p := attempt do
    let found ← IO.FS.realPath (spelled p)
    return (Path.ofString found.toString).names
  isDirectory p := do
    try
      let found ← IO.FS.realPath (spelled p)
      found.isDir
    catch _ => return false
  regularFiles p := attempt (regularFilesIn p)
  readString p := do
    let bytes ← attempt (IO.FS.readBinFile (spelled p))
    match FileTree.decode? bytes with
    | some text => return text
    | none      => throw .notText

end Machine

end Graft

/-- Runs the command that the arguments ask for. -/
def main (args : List String) : IO UInt32 := do
  let environment : Graft.Environment := {
    workspace   := ← IO.getEnv Graft.Environment.workspaceVariable
    forceColour := ← IO.getEnv Graft.Environment.colourVariable }
  let output ← Graft.Command.runWords environment (args.map String.toList)
  (← IO.getStdout).putStr output.out
  (← IO.getStderr).putStr output.err
  return output.code.toUInt32
