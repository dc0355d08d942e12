import Graft.Command.Setting
import Graft.Proofs.Effects
import Graft.Proofs.FileTree

/-!
# Targets in a file tree

The target of a path or of a rule file as a function of the tree (`Workspace.resolve_run`,
`RuleFile.target_run`).  Looking for it changes nothing, and what it is does not depend on what
files hold (`RuleFile.targetIn_congr`).  A target is an entry below a plain location, whether the
entry is there or not (`RuleFile.targetIn_placed`).
-/

namespace Graft

theorem run_canonicalize (p : Path) (t : FileTree) :
    (canonicalize p : ExceptT OsError (StateM FileTree) Location) t = (t.canonicalize p, t) := rfl

namespace Workspace

/-- Where a path leads in a tree; if it leads nowhere, its last name in the directory before it. -/
def locateIn (t : FileTree) (p : Path) : Except WorkspaceError Location :=
  match t.canonicalize p with
  | .ok l    => .ok l
  | .error _ =>
      match p.fileName? with
      | none      => .error (.noFileName p)
      | some name => ((t.canonicalize p.parent).map (· ++ [name])).mapError .unresolved

theorem locate_run (t : FileTree) (p : Path) :
    (locate p : ExceptT WorkspaceError (StateM FileTree) Location) t = (locateIn t p, t) := by
  rw [locate, run_tryCatch, run_adapt, run_canonicalize, locateIn]
  cases t.canonicalize p with
  | ok l => rfl
  | error why =>
      cases p.fileName? with
      | none => rfl
      | some name => simp only [run_adapt, run_map, run_canonicalize]; rfl

/-- The target that a path names from the workspace on, in a tree. -/
def resolveIn (w : Workspace) (t : FileTree) (p : Path) : Except WorkspaceError Location :=
  (locateIn t ((Path.ofNames w.root).join p)).bind w.accept

theorem resolve_run (w : Workspace) (t : FileTree) (p : Path) :
    (w.resolve p : ExceptT WorkspaceError (StateM FileTree) Location) t = (w.resolveIn t p, t) := by
  rw [resolve, run_bind, locate_run, resolveIn]
  cases locateIn t ((Path.ofNames w.root).join p) <;> rfl

/-- **How a target is found**: its path leads there, or leads nowhere, and then the target is the
last name of the path in the directory before it. -/
theorem locateIn_cases {t : FileTree} {p : Path} {l : Location} (h : locateIn t p = .ok l) :
    t.canonicalize p = .ok l ∨ ∃ why name dir, t.canonicalize p = .error why ∧
      p.fileName? = some name ∧ t.canonicalize p.parent = .ok dir ∧ l = dir ++ [name] := by
  unfold locateIn at h
  cases hwhole : t.canonicalize p with
  | ok l' =>
      rw [hwhole] at h
      cases h
      exact .inl rfl
  | error why =>
      rw [hwhole] at h
      cases hname : p.fileName? with
      | none => rw [hname] at h; cases h
      | some name =>
          cases hdir : t.canonicalize p.parent with
          | error why => rw [hname, hdir] at h; cases h
          | ok dir =>
              rw [hname, hdir] at h
              cases h
              exact .inr ⟨why, name, dir, rfl, rfl, rfl, rfl⟩

theorem locateIn_placed {t : FileTree} {p : Path} {l : Location} (hp : p.isAbsolute = true)
    (h : locateIn t p = .ok l) : t.Placed l := by
  rcases locateIn_cases h with hwhole | ⟨why, name, dir, -, hname, hdir, rfl⟩
  · exact (FileTree.plain_of_canonicalize hp hwhole).placed
  · have hplain := FileTree.plain_of_canonicalize (Path.isAbsolute_parent hp hname) hdir
    exact hplain.placed_concat (Path.isName_of_fileName? hname)

theorem eq_of_accept {w : Workspace} {l l' : Location} (h : w.accept l = .ok l') : l' = l := by
  unfold accept at h
  split_ifs at h
  split at h
  · cases h
  · exact (Except.ok.inj h).symm

theorem resolveIn_placed {w : Workspace} {t : FileTree} {p : Path} {l : Location}
    (h : w.resolveIn t p = .ok l) : t.Placed l := by
  unfold resolveIn at h
  cases hl : locateIn t ((Path.ofNames w.root).join p) with
  | error why => rw [hl] at h; cases h
  | ok l' =>
      rw [hl] at h
      obtain rfl := eq_of_accept h
      exact locateIn_placed (Path.isAbsolute_join (Path.isAbsolute_ofNames _)) hl

theorem resolveIn_congr {t t' : FileTree} (h : t.Alike t') (w : Workspace) (p : Path) :
    w.resolveIn t p = w.resolveIn t' p := by
  simp only [resolveIn, locateIn, FileTree.canonicalize_congr h]

end Workspace

namespace RuleFile

/-- The target of a rule file in a tree. -/
def targetIn (f : RuleFile) (w : Workspace) (given : Option Path) (t : FileTree) :
    Except Failure Location :=
  match given <|> f.metadata.target.map Path.ofString with
  | some p => (w.resolveIn t p).mapError Failure.ofWorkspace
  | none   => .error ⟨s!"no target given and {f.label} has no meta.target", []⟩

theorem target_run (f : RuleFile) (w : Workspace) (given : Option Path) (t : FileTree) :
    (f.target w given : ExceptT Failure (StateM FileTree) Location) t = (f.targetIn w given t, t) := by
  rw [target, targetIn]
  cases given <|> f.metadata.target.map Path.ofString with
  | none => rfl
  | some p => simp only [run_adapt, Workspace.resolve_run]

theorem targetIn_placed {f : RuleFile} {w : Workspace} {given : Option Path} {t : FileTree}
    {l : Location} (h : f.targetIn w given t = .ok l) : t.Placed l := by
  unfold targetIn at h
  split at h
  · next p _ =>
      cases hp : w.resolveIn t p with
      | error why => rw [hp] at h; cases h
      | ok l' =>
          rw [hp] at h
          cases h
          exact Workspace.resolveIn_placed hp
  · cases h

theorem targetIn_congr {t t' : FileTree} (h : t.Alike t') (f : RuleFile) (w : Workspace)
    (given : Option Path) : f.targetIn w given t = f.targetIn w given t' := by
  simp only [targetIn, Workspace.resolveIn_congr h]

end RuleFile

end Graft
