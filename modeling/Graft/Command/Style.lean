/-!
# Style

Colours and weights of printed text.  A styled text ends in a reset, so a reset inside it is
followed by the style again.
-/

namespace Graft

inductive Colour where
  | red
  | green
  | yellow
  | cyan
  deriving DecidableEq, Repr

def Colour.code : Colour → String
  | .red    => "31"
  | .green  => "32"
  | .yellow => "33"
  | .cyan   => "36"

inductive Style where
  | plain
  | bold
  | dimmed
  | coloured (c : Colour)
  | strong (c : Colour)
  deriving DecidableEq, Repr

namespace Style

/-- The codes that turn a style on. -/
def codes? : Style → Option String
  | .plain      => none
  | .bold       => some "1"
  | .dimmed     => some "2"
  | .coloured c => some c.code
  | .strong c   => some s!"1;{c.code}"

def reset : String := "\x1b[0m"

/-- The text with its style, if styles are shown. -/
def paint (shown : Bool) (s : Style) (text : String) : String :=
  match s.codes?, shown with
  | some codes, true =>
      let opening := s!"\x1b[{codes}m"
      opening ++ text.replace reset (reset ++ opening) ++ reset
  | _, _             => text

end Style

end Graft
