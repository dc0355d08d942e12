import Graft.Unicode.Property

/-!
# Quoted text

Text between double quotes, where quotes, backslashes and what cannot be seen are escaped.
-/

namespace Graft.Text
open Graft.Unicode

/-- Characters that cannot be seen by themselves. -/
def isHidden (c : Char) : Bool :=
  c != ' ' && (Derived.graphemeExtend.contains c ||
    Derived.ofAny [.control, .format, .privateUse, .unassigned, .lineSeparator, .paragraphSeparator,
      .spaceSeparator] c)

/-- A character as it is written between quotes. -/
def escaped (c : Char) : List Char :=
  match c with
  | '"'    => ['\\', '"']
  | '\\'   => ['\\', '\\']
  | '\n'   => ['\\', 'n']
  | '\r'   => ['\\', 'r']
  | '\t'   => ['\\', 't']
  | '\x00' => ['\\', '0']
  | c      =>
      if isHidden c then ['\\', 'u', '\x7b'] ++ Nat.toDigits 16 c.toNat ++ ['\x7d'] else [c]

def quoted (s : String) : String := String.ofList ('"' :: s.toList.flatMap escaped ++ ['"'])

end Graft.Text
