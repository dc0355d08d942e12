import Graft.RuleFile
import Graft.Workspace

/-!
# Failure

Why a command gives up: a message, and the chain of causes behind it.
-/

namespace Graft

/-- A message and its causes, the nearest first. -/
structure Failure where
  message : String
  causes  : List String := []
  deriving DecidableEq, Repr

namespace Failure

/-- The failure seen from farther away. -/
def under (context : String) (f : Failure) : Failure := ⟨context, f.message :: f.causes⟩

def ofRuleFile (e : RuleFileError) : Failure :=
  match e with
  | .uncompilable _ why => ⟨e.message, [why.message, why.why.message]⟩
  | _                   => ⟨e.message, [e.cause]⟩

def ofWorkspace (e : WorkspaceError) : Failure :=
  match e with
  | .unresolved why => ⟨e.message, [why.message]⟩
  | _               => ⟨e.message, []⟩

def ofStore (e : StoreError) : Failure :=
  match e with
  | .read _ why | .write _ why => ⟨e.message, [why.message]⟩
  | _                          => ⟨e.message, []⟩

/-- A text whose further lines are indented by `indent`. -/
def indented (indent text : String) : String := text.replace "\n" ("\n" ++ indent)

/-- A cause with its number, from four blanks on. -/
def numbered (n : Nat) (text : String) : String :=
  let digits := toString n
  String.ofList (List.replicate (5 - digits.length) ' ') ++ digits ++ ": " ++ indented "       " text

/-- The failure as it is printed: a single cause is indented, several are numbered. -/
def text (f : Failure) : String :=
  let causes :=
    match f.causes with
    | []  => []
    | [c] => ["", "Caused by:", "    " ++ indented "    " c]
    | cs  => "" :: "Caused by:" :: cs.zipIdx.map fun (c, n) => numbered n c
  String.join ((("Error: " ++ f.message) :: causes).map (· ++ "\n"))

end Failure

end Graft
