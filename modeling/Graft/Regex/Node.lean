import Graft.Regex.CharSet

/-!
# Regular expressions

The tree that a pattern stands for.  Alternatives stand in order of preference, and so do going on
and stopping in a repetition.

`loop` is the place after a turn of an unbounded repetition: take another turn, or go on.  A
repetition that may take no turn at all is `star`; when a turn can be empty, its first turn and the
later ones are told apart, so that an empty turn is taken at most once.
-/

namespace Graft.Regex
open Graft.Unicode

/-- A condition on the two characters around a place. -/
inductive Look where
  | textStart
  | textEnd
  | lineStart (crlf : Bool)
  | lineEnd (crlf : Bool)
  | wordBoundary (ascii : Bool)
  | notWordBoundary (ascii : Bool)
  | wordStart (ascii : Bool)
  | wordEnd (ascii : Bool)
  | wordStartHalf (ascii : Bool)
  | wordEndHalf (ascii : Bool)
  deriving DecidableEq, Repr

namespace Look

/-- Whether there is a character, and it belongs to a word. -/
def isWord (ascii : Bool) : Option Char → Bool
  | none   => false
  | some c => if ascii then Derived.asciiWord c else Derived.word.contains c

/-- Whether the condition holds between `before` and `after`. -/
def holds (before after : Option Char) : Look → Bool
  | .textStart         => before.isNone
  | .textEnd           => after.isNone
  | .lineStart false   => before.isNone || before == some '\n'
  | .lineEnd false     => after.isNone || after == some '\n'
  | .lineStart true    =>
      before.isNone || before == some '\n' || (before == some '\r' && after != some '\n')
  | .lineEnd true      =>
      after.isNone || after == some '\r' || (after == some '\n' && before != some '\r')
  | .wordBoundary a    => isWord a before != isWord a after
  | .notWordBoundary a => isWord a before == isWord a after
  | .wordStart a       => !isWord a before && isWord a after
  | .wordEnd a         => isWord a before && !isWord a after
  | .wordStartHalf a   => !isWord a before
  | .wordEndHalf a     => !isWord a after

end Look

/-- A regular expression. -/
inductive Node where
  | empty
  | chars (s : CharSet)
  | look (l : Look)
  | cat (a b : Node)
  | alt (a b : Node)
  | plus (greedy : Bool) (r : Node)
  | loop (greedy : Bool) (r : Node)
  | times (n : Nat) (r : Node)
  | upTo (n : Nat) (greedy : Bool) (r : Node)
  | group (index : Nat) (name : Option String) (r : Node)
  deriving DecidableEq, Repr

namespace Node

/-- Whether every match takes at least one character. -/
def consumes : Node → Bool
  | .empty | .look _ | .loop _ _ | .upTo _ _ _ => false
  | .chars _                                   => true
  | .cat a b                                   => a.consumes || b.consumes
  | .alt a b                                   => a.consumes && b.consumes
  | .plus _ r | .group _ _ r                   => r.consumes
  | .times n r                                 => n != 0 && r.consumes

/-- Whether no match takes a character. -/
def isZeroWidth : Node → Bool
  | .empty | .look _                      => true
  | .chars _                              => false
  | .cat a b | .alt a b                   => a.isZeroWidth && b.isZeroWidth
  | .plus _ r | .loop _ r | .group _ _ r  => r.isZeroWidth
  | .times n r                            => n == 0 || r.isZeroWidth
  | .upTo n _ r                           => n == 0 || r.isZeroWidth

def opt (greedy : Bool) (r : Node) : Node := if greedy then .alt r .empty else .alt .empty r

/-- Any number of turns, none included. -/
def star (greedy : Bool) (r : Node) : Node :=
  if r.consumes then .loop greedy r else opt greedy (.plus greedy r)

/-- At least `least` turns and at most `most`, if there is a bound.  A turn that takes no character
is needed at most once, and no turns at all leave nothing. -/
def repeated (least : Nat) (most : Option Nat) (greedy : Bool) (r : Node) : Node :=
  let least := if r.isZeroWidth then min least 1 else least
  let most := if r.isZeroWidth then some (min (most.getD 1) 1) else most
  match least, most with
  | 0, some 0     => .empty
  | 1, some 1     => r
  | 0, some 1     => opt greedy r
  | 0, none       => star greedy r
  | 1, none       => .plus greedy r
  | n + 2, none   => .cat (.times (n + 1) r) (.plus greedy r)
  | n, some m     =>
      if m ≤ n then .times n r
      else if n = 0 then .upTo m greedy r
      else .cat (.times n r) (.upTo (m - n) greedy r)

/-- The groups of a tree with their names, in the order they open. -/
def groups : Node → List (Nat × Option String)
  | .empty | .chars _ | .look _                                         => []
  | .cat a b | .alt a b                                                 => a.groups ++ b.groups
  | .plus _ r | .loop _ r | .times _ r | .upTo _ _ r                    => r.groups
  | .group i name r                                                     => (i, name) :: r.groups

/-- An estimate of the room that an automaton of the tree takes, with its repetitions written out. -/
def weight : Node → Nat
  | .empty | .look _      => 32
  | .chars s              => s.weight
  | .cat a b              => a.weight + b.weight
  | .alt a b              => a.weight + b.weight + 32
  | .plus _ r | .loop _ r => r.weight + 32
  | .times n r            => n * r.weight
  | .upTo n _ r           => n * (r.weight + 32)
  | .group _ _ r          => r.weight + 64

end Node

end Graft.Regex
