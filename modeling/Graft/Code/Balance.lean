import Graft.Code

/-!
# Balance

Net counts of the three kinds of delimiter in the code of a text: openings less closings.  An edit
must keep the balance of its document, and a fragment that is inserted must have none
(`Balance.isZero`).
-/

namespace Graft

/-- The kinds of paired delimiter. -/
inductive Delimiter where
  | paren
  | bracket
  | brace
  deriving DecidableEq, Repr

namespace Delimiter

/-- The kind that `c` opens. -/
def opening? : Char → Option Delimiter
  | '(' => some .paren
  | '[' => some .bracket
  | '{' => some .brace
  | _   => none

/-- The kind that `c` closes. -/
def closing? : Char → Option Delimiter
  | ')' => some .paren
  | ']' => some .bracket
  | '}' => some .brace
  | _   => none

end Delimiter

/-- Openings less closings, for each kind of delimiter. -/
structure Balance where
  parens   : Int
  brackets : Int
  braces   : Int
  deriving DecidableEq, Repr

namespace Balance

def zero : Balance := ⟨0, 0, 0⟩

def add (a b : Balance) : Balance :=
  ⟨a.parens + b.parens, a.brackets + b.brackets, a.braces + b.braces⟩

instance : Zero Balance := ⟨zero⟩

instance : Add Balance := ⟨add⟩

/-- `n` delimiters of kind `d`. -/
def single (d : Delimiter) (n : Int) : Balance :=
  match d with
  | .paren   => ⟨n, 0, 0⟩
  | .bracket => ⟨0, n, 0⟩
  | .brace   => ⟨0, 0, n⟩

/-- What one character of code adds. -/
def ofChar (c : Char) : Balance :=
  match Delimiter.opening? c, Delimiter.closing? c with
  | some d, _    => single d 1
  | none, some d => single d (-1)
  | none, none   => 0

/-- The balance of a run of code characters. -/
def ofCode : List (Nat × Char) → Balance
  | []      => 0
  | x :: xs => ofChar x.2 + ofCode xs

/-- The balance of the code of `t`. -/
def of (t : Text) : Balance := ofCode (Code.scan t 0)

def isZero (b : Balance) : Bool := b == 0

/-- Whether two fragments, each scanned by itself, have the same balance. -/
def agrees (removed inserted : Text) : Bool := of removed == of inserted

end Balance

end Graft
