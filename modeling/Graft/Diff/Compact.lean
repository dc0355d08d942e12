import Graft.Diff.Hunk

/-!
# Compact

A hunk between equal items can often be moved up or down without any change of meaning.  Every hunk
is moved up as far as it goes and then down as far as it goes, so that hunks of one kind meet and
become one (`Diff.compact`).
-/

namespace Graft.Diff

variable {α : Type} [DecidableEq α]

/-- What a list of hunks costs to pass. -/
def weight : List (Hunk α) → Nat
  | []      => 0
  | h :: hs => h.items.length + 1 + weight hs

/-- Items that stay, put in front of hunks. -/
def keepBefore (items : List α) : List (Hunk α) → List (Hunk α)
  | ⟨.same, ls⟩ :: hs => ⟨.same, items ++ ls⟩ :: hs
  | hs                => ⟨.same, items⟩ :: hs

/-- Items that stay, put behind hunks that are listed backwards. -/
def keepAfter (items : List α) : List (Hunk α) → List (Hunk α)
  | ⟨.same, ls⟩ :: hs => ⟨.same, ls ++ items⟩ :: hs
  | hs                => ⟨.same, items⟩ :: hs

/-- Moves `items` up.  The hunks above are listed backwards. -/
def raise (kind : HunkKind) (above : List (Hunk α)) (items : List α) (below : List (Hunk α)) :
    List (Hunk α) × List α × List (Hunk α) :=
  match above with
  | [] => ([], items, below)
  | h :: hs =>
      if h.kind = .same then
        let s := Hunk.sharedBack h.items items
        let kept := h.items.take (h.items.length - s)
        let moved := h.items.drop (h.items.length - s)
        if h.items = [] then raise kind hs items below
        else if s = 0 then (above, items, below)
        else if kept.length < h.items.length then
          let items' := moved ++ items.take (items.length - s)
          if kept = [] then raise kind hs items' (keepBefore moved below)
          else raise kind (⟨.same, kept⟩ :: hs) items' (keepBefore moved below)
        else (above, items, below)
      else if h.kind = kind then raise kind hs (h.items ++ items) below
      else raise kind hs items (h :: below)
termination_by weight above
decreasing_by all_goals simp [weight] <;> omega

/-- Moves `items` down.  The hunks above are listed backwards. -/
def lower (kind : HunkKind) (above : List (Hunk α)) (items : List α) (below : List (Hunk α)) :
    List (Hunk α) × List α × List (Hunk α) :=
  match below with
  | [] => (above, items, [])
  | h :: hs =>
      if h.kind = .same then
        let s := Hunk.sharedFront h.items items
        let kept := h.items.drop s
        let moved := h.items.take s
        if h.items = [] then lower kind above items hs
        else if s = 0 then (above, items, below)
        else if kept.length < h.items.length then
          let items' := items.drop s ++ moved
          if kept = [] then lower kind (keepAfter moved above) items' hs
          else lower kind (keepAfter moved above) items' (⟨.same, kept⟩ :: hs)
        else (above, items, below)
      else if h.kind = kind then lower kind above (items ++ h.items) hs
      else lower kind (h :: above) items hs
termination_by weight below
decreasing_by all_goals simp [weight] <;> omega

/-- Moves each hunk of a kind; `fuel` bounds how many hunks are looked at. -/
def settle (kind : HunkKind) : Nat → List (Hunk α) → List (Hunk α) → List (Hunk α)
  | 0, above, below          => above.reverse ++ below
  | _ + 1, above, []         => above.reverse
  | fuel + 1, above, h :: hs =>
      if h.kind = kind then
        let (above, items, below) := raise kind above h.items hs
        let (above, items, below) := lower kind above items below
        settle kind fuel (⟨kind, items⟩ :: above) below
      else settle kind fuel (h :: above) hs

/-- The hunks with removals moved first, and additions after them. -/
def compact (hs : List (Hunk α)) : List (Hunk α) :=
  let hs := settle .removed (2 * weight hs) [] hs
  settle .added (2 * weight hs) [] hs

end Graft.Diff
