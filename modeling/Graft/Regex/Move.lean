import Graft.Regex.Node
import Graft.Text

/-!
# Moves

At a place of the text, an expression can either take the next character in one of several ways or
be done without taking any.  `Node.moves` lists these ways in order of preference.  What has to be
matched afterwards is a stack of `Item`s, and so a move is all there is to know about a match that
is under way.

Only the first way to be done counts: what follows is the same for all of them
(`Move.andThen`).
-/

namespace Graft.Regex

/-- The groups matched so far. -/
abbrev Groups := List (Nat × Span)

namespace Groups

def get? (g : Groups) (i : Nat) : Option Span := g.lookup i

/-- The groups with group `i` at `s`; a later turn of a group takes the place of an earlier one. -/
def set (g : Groups) (i : Nat) (s : Span) : Groups := (i, s) :: g.filter (·.1 != i)

end Groups

/-- A place in the text: its offset, and the characters around it. -/
structure Place where
  pos    : Nat
  before : Option Char
  after  : Option Char
  deriving DecidableEq, Repr

/-- What is left to match: an expression, or the end of a group that started at a known place. -/
inductive Item where
  | run (r : Node)
  | close (index start : Nat)
  deriving DecidableEq, Repr

/-- Whether two items go on alike, wherever their groups started. -/
def Item.alike : Item → Item → Bool
  | .run a, .run b         => a == b
  | .close i _, .close j _ => i == j
  | _, _                   => false

/-- A way to go on: take a character of a set and then match the items, or be done. -/
inductive Move where
  | eat (s : CharSet) (rest : List Item) (groups : Groups)
  | done (groups : Groups)
  deriving DecidableEq, Repr

namespace Move

def isEat : Move → Bool
  | .eat _ _ _ => true
  | .done _    => false

/-- The moves of `ms` followed by `next`, which takes the place of the first way to be done. -/
def andThen : List Move → (Groups → List Move) → List Move
  | [], _                 => []
  | .eat s rest g :: ms, next => .eat s rest g :: andThen ms next
  | .done g :: ms, next   => next g ++ ms.filter isEat

/-- A group that starts and ends here. -/
def closing (i pos : Nat) : Move → Move
  | .done g       => .done (g.set i ⟨pos, pos⟩)
  | .eat s rest g => .eat s rest g

/-- The moves of `n` turns of `r`, whose own moves are `body`. -/
def times (body : List Item → Groups → List Move) (r : Node) :
    Nat → List Item → Groups → List Move
  | 0, _, g     => [.done g]
  | n + 1, k, g => andThen (body (.run (.times n r) :: k) g) (times body r n k)

/-- The moves of at most `n` turns of `r`, whose own moves are `body`. -/
def upTo (body : List Item → Groups → List Move) (greedy : Bool) (r : Node) :
    Nat → List Item → Groups → List Move
  | 0, _, g     => [.done g]
  | n + 1, k, g =>
      let turns := andThen (body (.run (.upTo n greedy r) :: k) g) (upTo body greedy r n k)
      if greedy then turns ++ [.done g] else .done g :: turns

end Move

/-- The ways to match an expression at place `p` before the items `k`. -/
def Node.moves (p : Place) : Node → List Item → Groups → List Move
  | .empty, _, g         => [.done g]
  | .chars s, k, g       => [.eat s k g]
  | .look l, _, g        => if l.holds p.before p.after then [.done g] else []
  | .cat a b, k, g       => Move.andThen (a.moves p (.run b :: k) g) (b.moves p k)
  | .alt a b, k, g       => a.moves p k g ++ b.moves p k g
  | .plus greedy r, k, g => r.moves p (.run (.loop greedy r) :: k) g
  | .loop greedy r, k, g =>
      let turns := (r.moves p (.run (.loop greedy r) :: k) g).filter Move.isEat
      if greedy then turns ++ [.done g] else .done g :: turns
  | .times n r, k, g       => Move.times (r.moves p) r n k g
  | .upTo n greedy r, k, g => Move.upTo (r.moves p) greedy r n k g
  | .group i _ r, k, g     => (r.moves p (.close i p.pos :: k) g).map (Move.closing i p.pos)

/-- The ways to match the items at place `p`. -/
def Item.moves (p : Place) : List Item → Groups → List Move
  | [], g                    => [.done g]
  | .close i start :: k, g   => Item.moves p k (g.set i ⟨start, p.pos⟩)
  | .run r :: k, g           => Move.andThen (r.moves p k g) (Item.moves p k)

end Graft.Regex
