import Graft.Command.Setting

/-!
# Listing

Rule files with their changes and rules, as they are printed.
-/

namespace Graft

def Rule.listing (styled : Bool) (number : Nat) (r : Rule) : String :=
  let anchor := Style.dimmed.paint styled r.anchor.describe
  s!"      {number}. {r.id} [{r.transform.keyword}] {anchor}\n"

def Change.listing (styled : Bool) (c : Change) : String :=
  s!"  - {c.id}\n" ++ String.join (c.rules.zipIdx.map fun (r, i) => r.listing styled (i + 1))

def RuleFile.listing (styled : Bool) (f : RuleFile) : String :=
  let title := Style.bold.paint styled f.metadata.name
  let label := Style.dimmed.paint styled s!"({f.label})"
  let description := match f.metadata.description with
    | some text => s!"  {text}\n"
    | none      => ""
  let target := match f.metadata.target with
    | some text => s!"  target: {text}\n"
    | none      => ""
  s!"{title} {label}\n" ++ description ++ target ++
    String.join (f.changes.map (Change.listing styled)) ++ "\n"

end Graft
