import Graft.Text

/-!
# Flags and blanks

How a pattern is read depends on flags, which the pattern itself can turn on and off.  Among them
is the spaced form, in which blanks and comments between the parts of a pattern do not count
(`Flags.blank`).
-/

namespace Graft.Regex

/-- Why a pattern is no regular expression. -/
inductive SyntaxError where
  | unclosedGroup
  | unopenedGroup
  | unclosedClass
  | lookAround
  | groupName
  | flags
  | repetition
  | escape
  | property
  | range
  | bytes
  | depth
  | size
  deriving DecidableEq, Repr

namespace SyntaxError

/-- What is wrong, in a few words. -/
def reason : SyntaxError → String
  | .unclosedGroup => "unclosed group"
  | .unopenedGroup => "unopened group"
  | .unclosedClass => "unclosed character class"
  | .lookAround    => "look-around is not supported"
  | .groupName     => "invalid capture group name"
  | .flags         => "invalid flags"
  | .repetition    => "invalid repetition"
  | .escape        => "unrecognized escape sequence"
  | .property      => "unknown character property"
  | .range         => "invalid character class range"
  | .bytes         => "pattern can match part of a character"
  | .depth         => "pattern is nested too deeply"
  | .size          => "pattern is too large"

def message : SyntaxError → String
  | .size => "Compiled regex exceeds size limit of 10485760 bytes."
  | why   => s!"regex parse error:\nerror: {why.reason}"

end SyntaxError

structure Flags where
  ignoreCase : Bool := false
  multiLine  : Bool := true
  dotAll     : Bool := false
  lazy       : Bool := false
  unicode    : Bool := true
  crlf       : Bool := true
  spaced     : Bool := false
  deriving DecidableEq, Repr

namespace Flags

/-- `t` without the blanks and comments it starts with; a comment runs from a number sign to the
end of its line. -/
def skipBlank (inComment : Bool) : Text → Text
  | []     => []
  | c :: t =>
      if inComment then skipBlank (c != '\n') t
      else if isSpace c then skipBlank false t
      else if c == '#' then skipBlank true t
      else c :: t

/-- What is left of `t` after what does not count in it. -/
def blank (f : Flags) (t : Text) : Text := if f.spaced then skipBlank false t else t

/-- The longest run of at most `n` characters that satisfy `p`, blanks between them left out. -/
def take (f : Flags) (p : Char → Bool) : Nat → Text → Text × Text
  | n + 1, c :: t =>
      if p c then
        let (run, rest) := f.take p n (f.blank t)
        (c :: run, rest)
      else ([], c :: t)
  | _, t => ([], t)

/-- The flag that a letter stands for, turned on or off. -/
def set (f : Flags) (letter : Char) (on : Bool) : Option Flags :=
  match letter with
  | 'i' => some { f with ignoreCase := on }
  | 'm' => some { f with multiLine := on }
  | 's' => some { f with dotAll := on }
  | 'U' => some { f with lazy := on }
  | 'u' => some { f with unicode := on }
  | 'R' => some { f with crlf := on }
  | 'x' => some { f with spaced := on }
  | _   => none

/-- The letters before a colon or a closing parenthesis, each at most once; those after a hyphen
are turned off.  `seen` holds the letters read so far, the last one first.  The answer says which
of the two characters ended the letters. -/
def read (f : Flags) (seen : List Char) : Text → Except SyntaxError (Flags × List Char × Char × Text)
  | []     => .error .flags
  | c :: t =>
      if c == ':' || c == ')' then
        if seen.head? == some '-' then .error .flags else .ok (f, seen, c, t)
      else if seen.contains c then .error .flags
      else if c == '-' then f.read (c :: seen) t
      else
        match f.set c (!seen.contains '-') with
        | some f => f.read (c :: seen) t
        | none   => .error .flags

/-- A decimal number with white space around it. -/
def decimal (f : Flags) (t : Text) : Except SyntaxError (Nat × Text) :=
  let t := t.dropWhile isSpace
  let (digits, rest) := f.take Char.isDigit t.length t
  let n := digits.foldl (fun n d => n * 10 + (d.toNat - 48)) 0
  if digits.isEmpty || 4294967295 < n then .error .repetition
  else .ok (n, f.blank (rest.dropWhile isSpace))

end Flags

end Graft.Regex
