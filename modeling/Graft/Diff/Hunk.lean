/-!
# Hunks

A diff is a list of hunks: items that stay, items that go, and items that come.  The items that stay
and go are the old list (`Hunk.before`), those that stay and come the new one (`Hunk.after`).
-/

namespace Graft

/-- What becomes of the items of a hunk. -/
inductive HunkKind where
  | same
  | removed
  | added
  deriving DecidableEq, Repr

/-- Neighbouring items with one fate. -/
structure Hunk (α : Type) where
  kind  : HunkKind
  items : List α
  deriving DecidableEq, Repr

namespace Hunk

variable {α : Type}

/-- The items that a diff starts from. -/
def before (hs : List (Hunk α)) : List α :=
  hs.flatMap fun h => if h.kind = .added then [] else h.items

/-- The items that a diff leads to. -/
def after (hs : List (Hunk α)) : List α :=
  hs.flatMap fun h => if h.kind = .removed then [] else h.items

/-- A hunk put in front, unless it has no items. -/
def push (kind : HunkKind) (items : List α) (hs : List (Hunk α)) : List (Hunk α) :=
  if items.isEmpty then hs else ⟨kind, items⟩ :: hs

/-- How many items two lists share in front. -/
def sharedFront [DecidableEq α] : List α → List α → Nat
  | a :: as, b :: bs => if a = b then sharedFront as bs + 1 else 0
  | _, _             => 0

/-- How many items two lists share at the end. -/
def sharedBack [DecidableEq α] (as bs : List α) : Nat := sharedFront as.reverse bs.reverse

end Hunk

end Graft
