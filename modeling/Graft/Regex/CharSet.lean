import Graft.Unicode.Folding
import Graft.Unicode.Property

/-!
# Character sets

What one step of a regular expression accepts: ranges and properties of characters, and the sets
made of them.  A set is kept as it was written, and a character is tested against it
(`CharSet.contains`).
-/

namespace Graft.Regex
open Graft.Unicode

/-- A set of characters. -/
inductive CharSet where
  | empty
  | range (first last : Char)
  | property (p : Property)
  | union (a b : CharSet)
  | inter (a b : CharSet)
  | diff (a b : CharSet)
  | symmDiff (a b : CharSet)
  | compl (a : CharSet)
  | folded (a : CharSet)
  | foldedAscii (a : CharSet)
  deriving DecidableEq, Repr

namespace CharSet

/-- `c` and its other case, within the first 128 characters. -/
def asciiVariants (c : Char) : List Char := [c, c.toLower, c.toUpper]

def contains : CharSet → Char → Bool
  | .empty, _         => false
  | .range a b, c     => a ≤ c && c ≤ b
  | .property p, c    => p.contains c
  | .union a b, c     => a.contains c || b.contains c
  | .inter a b, c     => a.contains c && b.contains c
  | .diff a b, c      => a.contains c && !b.contains c
  | .symmDiff a b, c  => a.contains c != b.contains c
  | .compl a, c       => !a.contains c
  | .folded a, c      => (Folding.variants c).any a.contains
  | .foldedAscii a, c => (asciiVariants c).any a.contains

/-- An estimate of the room that a step over the set takes in an automaton: a few bytes for characters
that are named one by one, and the same large number for every property, whatever it holds.  The
ranges of a property are not counted, and neither is what they share. -/
def weight : CharSet → Nat
  | .empty                            => 32
  | .range _ b                        => 32 * b.utf8Size
  | .property _                       => 12000
  | .union a b | .inter a b           => a.weight + b.weight
  | .diff a b | .symmDiff a b         => a.weight + b.weight
  | .compl a                          => 400 + a.weight
  | .folded a | .foldedAscii a        => 2 * a.weight

def single (c : Char) : CharSet := .range c c

def ofList (cs : List Char) : CharSet :=
  match cs with
  | []      => .empty
  | [c]     => single c
  | c :: cs => .union (single c) (ofList cs)

def ofRanges : List (Char × Char) → CharSet
  | []           => .empty
  | [(a, b)]     => .range a b
  | (a, b) :: rs => .union (.range a b) (ofRanges rs)

/-- Digits, letters and the underscore of the first 128 characters. -/
def asciiWord : CharSet := ofRanges [('0', '9'), ('A', 'Z'), ('_', '_'), ('a', 'z')]

def asciiSpace : CharSet := ofRanges [('\t', '\r'), (' ', ' ')]

def asciiDigit : CharSet := .range '0' '9'

/-- The bracketed classes that go by a name. -/
def named? : String → Option CharSet
  | "alnum"  => some (ofRanges [('0', '9'), ('A', 'Z'), ('a', 'z')])
  | "alpha"  => some (ofRanges [('A', 'Z'), ('a', 'z')])
  | "ascii"  => some (.range '\x00' '\x7f')
  | "blank"  => some (ofRanges [('\t', '\t'), (' ', ' ')])
  | "cntrl"  => some (ofRanges [('\x00', '\x1f'), ('\x7f', '\x7f')])
  | "digit"  => some asciiDigit
  | "graph"  => some (.range '!' '~')
  | "lower"  => some (.range 'a' 'z')
  | "print"  => some (.range ' ' '~')
  | "punct"  => some (ofRanges [('!', '/'), (':', '@'), ('[', '\x60'), ('\x7b', '~')])
  | "space"  => some asciiSpace
  | "upper"  => some (.range 'A' 'Z')
  | "word"   => some asciiWord
  | "xdigit" => some (ofRanges [('0', '9'), ('A', 'F'), ('a', 'f')])
  | _        => none

end CharSet

end Graft.Regex
