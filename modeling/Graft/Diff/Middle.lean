import Graft.Diff.Hunk

/-!
# Middle

Where to cut two lists so that a shortest diff goes through the cut.  Two searches run towards each
other, one from the front and one from the back, and each keeps for every diagonal how far it came
with `d` changes.  Diagonal `k` holds the places with `x - y = k`, where `x` and `y` count items of
the two lists.  Where the searches meet is the cut (`middle?`).
-/

namespace Graft.Diff

variable {α : Type} [DecidableEq α]

/-- How far a search came, by diagonal. -/
structure Frontier where
  offset : Nat
  reach  : Array Nat

namespace Frontier

/-- The frontier of a search that uses at most `limit` changes. -/
def start (limit : Nat) : Frontier := ⟨limit, Array.replicate (2 * limit + 1) 0⟩

def get (f : Frontier) (k : Int) : Nat := f.reach.getD (k + f.offset).toNat 0

def set (f : Frontier) (k : Int) (x : Nat) : Frontier :=
  { f with reach := f.reach.setIfInBounds (k + f.offset).toNat x }

/-- Where diagonal `k` is entered with the `d`-th change: from the neighbour that came farther. -/
def enter (f : Frontier) (d k : Int) : Nat :=
  if k = -d || (k != d && f.get (k - 1) < f.get (k + 1)) then f.get (k + 1) else f.get (k - 1) + 1

end Frontier

/-- A run along a diagonal: where it starts, and how many equal items it passes. -/
structure Snake where
  x      : Nat
  y      : Nat
  length : Nat

/-- The run along diagonal `k` with the `d`-th change. -/
def snake (as bs : List α) (f : Frontier) (d k : Int) : Snake :=
  let x := f.enter d k
  let y := (x - k).toNat
  ⟨x, y, Hunk.sharedFront (as.drop x) (bs.drop y)⟩

/-- Follows the diagonals `ks` with the `d`-th change, until a run meets the other search. -/
def sweep (as bs : List α) (meets : Int → Nat → Bool) (d : Int) :
    List Int → Frontier → Frontier × Option Snake
  | [], f      => (f, none)
  | k :: ks, f =>
      let s := snake as bs f d k
      let f' := f.set k (s.x + s.length)
      if meets k (s.x + s.length) then (f', some s) else sweep as bs meets d ks f'

/-- The diagonals that `d` changes can lead to, the highest first. -/
def diagonals (d : Nat) : List Int := (List.range (d + 1)).map fun (i : Nat) => (d : Int) - 2 * i

/-- Runs both searches with `d`, `d + 1`, … changes, `rounds` times. -/
def search (as bs : List α) : Nat → Nat → Frontier → Frontier → Option (Nat × Nat)
  | 0, _, _, _ => none
  | rounds + 1, d, front, back =>
      let n := as.length
      let m := bs.length
      let delta : Int := (n : Int) - m
      let odd := delta % 2 != 0
      let (front, met) := sweep as bs
        (fun k x => odd && (k - delta).natAbs + 1 ≤ d && n ≤ x + back.get (delta - k))
        d (diagonals d) front
      match met with
      | some s => some (s.x, s.y)
      | none   =>
          let (back, met) := sweep as.reverse bs.reverse
            (fun k x => !odd && (k - delta).natAbs ≤ d && n ≤ x + front.get (delta - k))
            d (diagonals d) back
          match met with
          | some s => some (n - (s.x + s.length), m - (s.y + s.length))
          | none   => search as bs rounds (d + 1) front back

/-- A place on a shortest diff of two lists. -/
def middle? (as bs : List α) : Option (Nat × Nat) :=
  let limit := (as.length + bs.length + 1) / 2 + 1
  search as bs limit 0 (.start limit) (.start limit)

end Graft.Diff
