import Graft.Rule

/-!
# Chain

Rules are tried in their order, each on the same document, and the first one that lands is kept.  A
rule lands when its attempt succeeds and the result carries the marker; so a second run finds the
change in place.
-/

namespace Graft

/-- What became of one rule. -/
inductive AttemptResult where
  | applied
  | missed (why : Miss)
  deriving DecidableEq

/-- A rule that was tried. -/
structure Attempt where
  rule   : String
  result : AttemptResult
  deriving DecidableEq

def Attempt.describe (a : Attempt) : String :=
  match a.result with
  | .applied    => s!"{a.rule}: applied"
  | .missed why => s!"{a.rule}: missed ({why.message})"

/-- The document after a chain, the rule that was kept, and all rules tried up to it. -/
structure ChainResult where
  document : Document
  applied  : Option String
  attempts : List Attempt
  deriving DecidableEq

/-- The document that a rule leads to, if that carries the marker. -/
def Rule.land (r : Rule) (marker : Marker) (d : Document) : Except Miss Document :=
  match r.attempt d with
  | .error why => .error why
  | .ok d'     => if marker.present d' then .ok d' else .error .markerNotEstablished

/-- Tries rules in order and keeps the first that lands; if none does, the document stays. -/
def runChain (d : Document) (marker : Marker) : List Rule → ChainResult
  | []      => ⟨d, none, []⟩
  | r :: rs =>
      match r.land marker d with
      | .ok d'     => ⟨d', some r.id, [⟨r.id, .applied⟩]⟩
      | .error why =>
          let rest := runChain d marker rs
          { rest with attempts := ⟨r.id, .missed why⟩ :: rest.attempts }

end Graft
