import Graft.Diff.Compact
import Graft.Diff.Middle
import Graft.Text

/-!
# Diff

How one text becomes another, line by line.  Common lines at both ends stay, and what is left is cut
in two at a place on a shortest diff (`Diff.hunks`).  Between two runs of lines that stay, the lines
that go are told before the lines that come (`Diff.changes`).
-/

namespace Graft.Diff

variable {α : Type} [DecidableEq α]

/-- The hunks between two lists, with at most `depth` cuts inside each other. -/
def hunks : Nat → List α → List α → List (Hunk α)
  | 0, as, bs => Hunk.push .removed as (Hunk.push .added bs [])
  | depth + 1, as, bs =>
      let p := Hunk.sharedFront as bs
      let as' := as.drop p
      let bs' := bs.drop p
      let s := Hunk.sharedBack as' bs'
      let left := as'.take (as'.length - s)
      let right := bs'.take (bs'.length - s)
      let inner :=
        if left.isEmpty || right.isEmpty then Hunk.push .removed left (Hunk.push .added right [])
        else
          match middle? left right with
          | some (x, y) =>
              hunks depth (left.take x) (right.take y) ++ hunks depth (left.drop x) (right.drop y)
          | none => [⟨.removed, left⟩, ⟨.added, right⟩]
      Hunk.push .same (as.take p) (inner ++ Hunk.push .same (as'.drop (as'.length - s)) [])

/-- Puts removed items before added ones, between items that stay. -/
def sorted (gone come : List α) : List (Hunk α) → List (HunkKind × α)
  | []      => gone.map (.removed, ·) ++ come.map (.added, ·)
  | h :: hs =>
      match h.kind with
      | .removed => sorted (gone ++ h.items) come hs
      | .added   => sorted gone (come ++ h.items) hs
      | .same    =>
          gone.map (.removed, ·) ++ come.map (.added, ·) ++ h.items.map (.same, ·) ++
            sorted [] [] hs

/-- How one list becomes another, item by item. -/
def changes (as bs : List α) : List (HunkKind × α) :=
  sorted [] [] (compact (hunks (as.length + bs.length) as bs))

/-- The lines of a text with their terminators. -/
def lines : Text → List Text
  | []                => []
  | '\r' :: '\n' :: t => ['\r', '\n'] :: lines t
  | c :: t            =>
      if c = '\n' || c = '\r' then [c] :: lines t
      else
        match lines t with
        | []      => [[c]]
        | l :: ls => (c :: l) :: ls

/-- Whether a line has a terminator. -/
def terminated (l : Text) : Bool := l.getLast? == some '\n' || l.getLast? == some '\r'

end Graft.Diff
