import Graft.Chain

/-!
# Plan

What a change does to a document, without reading or writing any file.  A change whose marker is
present is left alone, and otherwise its rules are tried (`Change.plan`).  Several changes run in
order, each on the result of the one before (`planAll`).
-/

namespace Graft

/-- How a change ended. -/
inductive Outcome where
  | applied (rule : String)
  | alreadyApplied
  | skipped
  deriving DecidableEq, Repr

namespace Outcome

def isApplied : Outcome → Bool
  | .applied _ => true
  | _          => false

def describe : Outcome → String
  | .applied rule   => s!"Applied (rule {rule})"
  | .alreadyApplied => "Already applied"
  | .skipped        => "Skipped (no rule matched)"

end Outcome

/-- How a change ended, and the rules tried on the way. -/
structure Report where
  change   : String
  outcome  : Outcome
  attempts : List Attempt
  deriving DecidableEq

/-- The document after a change, and the report. -/
def Change.plan (d : Document) (c : Change) : Document × Report :=
  if c.marker.present d then (d, ⟨c.id, .alreadyApplied, []⟩)
  else
    let result := runChain d c.marker c.rules
    let outcome := match result.applied with
      | some rule => .applied rule
      | none      => .skipped
    (result.document, ⟨c.id, outcome, result.attempts⟩)

/-- The document after all changes, and their reports. -/
def planAll (d : Document) : List Change → Document × List Report
  | []      => (d, [])
  | c :: cs =>
      let (d', report) := c.plan d
      let (d'', reports) := planAll d' cs
      (d'', report :: reports)

end Graft
