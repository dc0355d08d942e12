import Graft.Proofs.DryRun

/-!
# Targets and their workspace

What a workspace lets through as a target, and what a patch of a target changes.

A target is where its path leads or, if the path leads nowhere, the last name of the path in the
directory before it (`Workspace.locate`).  It lies in the workspace and below no vendored directory
of it, either way (`Workspace.resolveIn_eq_ok_iff`), and a patch changes the entry there and nothing
else (`patchAll_confined`).

The entry there may be a link, and then the file that is read is another one, anywhere.  This
happens when a path leads nowhere although its last name leads to a file:

* `FileTree.walk_skip`: segments that stay where they are count only at the end of a path.
* `FileTree.walk_budget`: a path that leads somewhere leads there with fewer links, or needs them.
* `resolve_reads`: so a path that ends in its last name is resolved to a link only if it leads
  through too many links.  `linkedOut_escapes` is a path that ends in a separator, and is resolved
  to a link that leads out of the workspace.
-/

namespace Graft

/-! ### Confined locations -/

theorem mem_dropLast_iff {α : Type} {x : α} {xs : List α} :
    x ∈ xs.dropLast ↔ ∃ before after, xs = before ++ x :: after ∧ after ≠ [] := by
  constructor
  · intro h
    obtain ⟨before, after, heq⟩ := List.append_of_mem h
    have hne : xs ≠ [] := by rintro rfl; simp at h
    refine ⟨before, after ++ [xs.getLast hne], ?_, by simp⟩
    rw [← List.cons_append, ← List.append_assoc, ← heq, List.dropLast_append_getLast]
  · rintro ⟨before, after, rfl, hne⟩
    rw [List.dropLast_append_of_ne_nil (by simp), List.dropLast_cons_of_ne_nil hne]
    simp

namespace Workspace

/-- The location lies below a vendored directory of the workspace. -/
def Vendors (w : Workspace) (l : Location) : Prop :=
  ∃ above dir below, l = w.root ++ above ++ dir :: below ∧ dir ∈ vendoredNames ∧ below ≠ []

/-- The location lies in the workspace, and below no vendored directory of it. -/
def Confines (w : Workspace) (l : Location) : Prop := w.root <+: l ∧ ¬ w.Vendors l

theorem vendors_append_iff {w : Workspace} {l : Location} :
    w.Vendors (w.root ++ l) ↔ ∃ dir ∈ l.dropLast, dir ∈ vendoredNames := by
  simp only [Vendors, List.append_assoc, List.append_cancel_left_eq, mem_dropLast_iff]
  constructor
  · rintro ⟨above, dir, below, rfl, hdir, hne⟩
    exact ⟨dir, ⟨above, below, rfl, hne⟩, hdir⟩
  · rintro ⟨dir, ⟨above, below, rfl, hne⟩, hdir⟩
    exact ⟨above, dir, below, rfl, hdir, hne⟩

/-- **What is accepted** is what the workspace confines. -/
theorem accept_eq_ok_iff {w : Workspace} {l l' : Location} :
    w.accept l = .ok l' ↔ l' = l ∧ w.Confines l := by
  unfold accept Confines
  by_cases hroot : w.root <+: l
  · obtain ⟨rest, rfl⟩ := hroot
    have hwithin : w.root.isPrefixOf (w.root ++ rest) = true := by simp
    simp only [hwithin, if_true, List.drop_left, vendors_append_iff, List.prefix_append, true_and]
    cases hfind : rest.dropLast.find? vendoredNames.contains with
    | none =>
        have hnone : ∀ dir ∈ rest.dropLast, dir ∉ vendoredNames := by
          simpa using List.find?_eq_none.mp hfind
        simpa [eq_comm] using fun _ => hnone
    | some dir =>
        have hdir : dir ∈ vendoredNames := by simpa using List.find?_some hfind
        simpa using fun _ => ⟨dir, List.mem_of_find?_eq_some hfind, hdir⟩
  · have hwithin : w.root.isPrefixOf l = false :=
      Bool.eq_false_iff.mpr fun h => hroot (List.isPrefixOf_iff_prefix.mp h)
    simp [hwithin, hroot]

/-- A target is what was located, if that is confined. -/
theorem resolveIn_eq_ok_iff {w : Workspace} {t : FileTree} {p : Path} {l : Location} :
    w.resolveIn t p = .ok l ↔
      locateIn t ((Path.ofNames w.root).join p) = .ok l ∧ w.Confines l := by
  unfold resolveIn
  cases locateIn t ((Path.ofNames w.root).join p) with
  | error why => simp [Except.bind]
  | ok l' =>
      simp only [Except.bind, accept_eq_ok_iff, Except.ok.injEq]
      constructor
      · rintro ⟨rfl, hconfines⟩
        exact ⟨rfl, hconfines⟩
      · rintro ⟨rfl, hconfines⟩
        exact ⟨rfl, hconfines⟩

end Workspace

/-! ### What is read at a target -/

namespace FileTree

/-- The path of components leads where what they are written as leads from the root. -/
theorem walk_ofComponents {t : FileTree} {links : Nat} {cs : List Path.Component}
    (hcs : ∀ c ∈ cs, '/' ∉ c.written) :
    t.walk links [] (Path.ofComponents (.root :: cs)).segments =
      t.walk links [] (cs.map Path.Component.written) := by
  by_cases hne : cs = []
  · subst hne
    change t.walk links [] [[], []] = _
    rw [walk_idle rfl rfl, walk_idle rfl rfl]
    rfl
  · rw [Path.segments_ofComponents hcs hne, walk_idle rfl rfl]

/-- A path that ends in its last name and leads nowhere, although the name leads somewhere from where
the path before it leads, runs out of links. -/
theorem canonicalize_of_endsInName {t : FileTree} {p : Path} {name : Text} {dir real : Location}
    (hp : p.isAbsolute = true) (hname : p.fileName? = some name) (hend : p.EndsInName)
    (hdir : t.canonicalize p.parent = .ok dir)
    (hreal : t.canonicalize (Path.ofNames (dir ++ [name])) = .ok real) :
    t.canonicalize p = .ok real ∨ t.canonicalize p = .error .linkLoop := by
  obtain ⟨before, hsegments, hparent⟩ := Path.parent_of_endsInName hp hname hend
  have hplain := plain_of_canonicalize (Path.isAbsolute_parent hp hname) hdir
  obtain ⟨hlast, hnul⟩ := walk_of_placed hplain (Path.isName_of_fileName? hname) hreal
  obtain ⟨hbefore, hnul'⟩ := canonicalize_of_isAbsolute (Path.isAbsolute_parent hp hname) hdir
  have hwritten := Path.written_filterMap_ofSegment? before
  have hseparator : ∀ s ∈ before, '/' ∉ s := fun s hs =>
    Path.separator_not_mem (show s ∈ p.segments by simp [hsegments, hs])
  -- the path before the last name leads to `dir` with some links left, and from there on the last
  -- name leads as far as they go
  have hcs : ∀ c ∈ before.filterMap Path.Component.ofSegment?, '/' ∉ c.written := by
    intro c hc
    have hmem : c.written ∈ before.filter fun s => !Path.isIdle s :=
      hwritten ▸ List.mem_map_of_mem hc
    exact hseparator _ (List.mem_of_mem_filter hmem)
  rw [hparent, walk_ofComponents hcs, hwritten] at hbefore
  obtain ⟨left, hle, happ⟩ := walk_append_of_ok hbefore
  have hspelled : '\x00' ∉ p.spelling := by
    intro hmem
    obtain ⟨s, hs, hmem⟩ := Path.mem_segments_of_mem (by decide) hmem
    rw [hsegments, List.mem_append, List.mem_singleton] at hs
    rcases hs with hs | rfl
    · have hidle : Path.isIdle s = false := by
        rw [Path.isIdle, Bool.or_eq_false_iff, decide_eq_false_iff_not, decide_eq_false_iff_not]
        constructor
        · rintro rfl
          simp at hmem
        · rintro rfl
          simp at hmem
      have hfiltered : s ∈ before.filter fun s => !Path.isIdle s :=
        List.mem_filter.mpr ⟨hs, by simp [hidle]⟩
      rw [← hwritten] at hfiltered
      have hne : before.filterMap Path.Component.ofSegment? ≠ [] := by
        rintro heq
        simp [heq] at hfiltered
      rw [hparent, Path.spelling_ofComponents hne] at hnul'
      exact hnul' (Path.mem_intercalate_of_mem (List.mem_cons_of_mem _ hfiltered) hmem)
    · exact hnul s (by simp) hmem
  have hwhole : t.canonicalize p = t.walk left dir [name] := by
    rw [canonicalize, if_neg (by rintro heq; simp [Path.isAbsolute, heq] at hp),
      if_neg (by simpa using hspelled), if_pos hp, hsegments, walk_skip (by simp), happ]
  rw [hwhole]
  exact walk_budget hle hlast

end FileTree

/-- **What is read at a target.**  The path of a target that leads to a file leads to the target
itself exactly when the entry there is no link, and then the file is confined.  Otherwise the path
that was resolved leads nowhere; if it ends in its last name, it runs out of links. -/
theorem resolve_reads {w : Workspace} {p : Path} {t t₁ : FileTree} {l : Location}
    (h : (w.resolve p : ExceptT WorkspaceError (StateM FileTree) Location) t = (.ok l, t₁))
    {bytes : ByteArray} {mode : Nat} (hfile : t₁.find (Path.ofNames l) = .ok (.file bytes mode)) :
    let joined := (Path.ofNames w.root).join p
    ∃ real, t.canonicalize (Path.ofNames l) = .ok real ∧ t.get? real = some (.file bytes mode) ∧
      (t.IsCanonical l ↔ ∀ target, t.get? l ≠ some (.link target)) ∧
      (t.IsCanonical l → real = l ∧ w.Confines real) ∧
      (¬ t.IsCanonical l → (∃ why, t.canonicalize joined = .error why) ∧
        (joined.EndsInName → t.canonicalize joined = .error .linkLoop)) := by
  intro joined
  rw [Workspace.resolve_run, Prod.mk.injEq] at h
  obtain ⟨hresolve, rfl⟩ := h
  have hplaced := Workspace.resolveIn_placed hresolve
  obtain ⟨hlocate, hconfines⟩ := Workspace.resolveIn_eq_ok_iff.mp hresolve
  obtain ⟨real, hreal, hget⟩ := FileTree.find_eq_ok_iff.mp hfile
  have hcanonical : t.IsCanonical l ↔ real = l := by
    rw [FileTree.IsCanonical, hreal, Except.ok.injEq]
  have hlink := FileTree.canonicalize_of_placed hplaced hreal
  refine ⟨real, hreal, hget, hcanonical.trans hlink, fun hcan => ?_, fun hcan => ?_⟩
  · obtain rfl := hcanonical.mp hcan
    exact ⟨rfl, hconfines⟩
  · have habsolute : joined.isAbsolute = true := Path.isAbsolute_join (Path.isAbsolute_ofNames _)
    rcases Workspace.locateIn_cases hlocate with hwhole | ⟨why, name, dir, hwhole, hname, hdir, rfl⟩
    · -- a path that leads somewhere leads to a canonical location
      have hplain := FileTree.plain_of_canonicalize habsolute hwhole
      exact absurd (hcanonical.mpr (hlink.mpr hplain.not_link)) hcan
    · refine ⟨⟨why, hwhole⟩, fun hend => ?_⟩
      rcases FileTree.canonicalize_of_endsInName habsolute hname hend hdir hreal with hok | hloop
      · rw [hok] at hwhole
        cases hwhole
      · exact hloop

/-- A workspace `w` with a link `l` to the file `s`, which lies outside of it. -/
def linkedOut : FileTree where
  entries := [([['w']], .directory 0o755), ([['w'], ['l']], .link (.ofNames [['s']])),
    ([['s']], .file (FileTree.encode ['x']) 0o644)]

/-- The link, with a separator after its name. -/
def linkSlash : Path := ⟨['l', '/']⟩

theorem resolve_linkSlash :
    (Workspace.resolve ⟨[['w']]⟩ linkSlash : ExceptT WorkspaceError (StateM FileTree) Location)
      linkedOut = (.ok [['w'], ['l']], linkedOut) := by
  have hresolve : Workspace.resolveIn ⟨[['w']]⟩ linkedOut linkSlash = .ok [['w'], ['l']] := by cbv
  rw [Workspace.resolve_run, hresolve]

theorem find_link :
    linkedOut.find (.ofNames [['w'], ['l']]) = .ok (.file (FileTree.encode ['x']) 0o644) := by
  cbv

theorem canonicalize_link : linkedOut.canonicalize (.ofNames [['w'], ['l']]) = .ok [['s']] := by
  cbv

theorem not_isCanonical_link : ¬ linkedOut.IsCanonical [['w'], ['l']] := by
  rw [FileTree.IsCanonical, canonicalize_link]
  decide

theorem not_confines_outside : ¬ Workspace.Confines ⟨[['w']]⟩ [['s']] := by
  rintro ⟨hroot, -⟩
  exact absurd hroot (by decide)

/-- The link is a target of the workspace, although the file that is read there lies outside: the
separator hides the link from the workspace, and the target has none. -/
theorem linkedOut_escapes :
    let w : Workspace := ⟨[['w']]⟩
    let l : Location := [['w'], ['l']]
    (Workspace.ofPath (.ofNames [['w']]) : ExceptT WorkspaceError (StateM FileTree) Workspace)
      linkedOut = (.ok w, linkedOut) ∧
    (w.resolve linkSlash : ExceptT WorkspaceError (StateM FileTree) Location) linkedOut =
      (.ok l, linkedOut) ∧
    linkedOut.find (.ofNames l) = .ok (.file (FileTree.encode ['x']) 0o644) ∧
    ¬ linkedOut.IsCanonical l ∧
    linkedOut.canonicalize (.ofNames l) = .ok [['s']] ∧ ¬ w.Confines [['s']] ∧
    (check (.ofNames l) [] : ExceptT StoreError (StateM FileTree) FileReport) linkedOut =
      (.ok ⟨.ofNames l, ['x'], ['x'], [], false⟩, linkedOut) := by
  have hroot : linkedOut.canonicalize (.ofNames [['w']]) = .ok [['w']] := by cbv
  have hread : linkedOut.readText (.ofNames [['w'], ['l']]) = .ok ['x'] := by cbv
  refine ⟨?_, resolve_linkSlash, find_link, not_isCanonical_link, canonicalize_link,
    not_confines_outside, ?_⟩
  · rw [Workspace.ofPath, run_adapt, run_map, run_canonicalize, hroot]
    rfl
  · rw [check_run run_treeRead, textIn_tree, hread]
    rfl

/-- The path of the link does not end in its last name, and leads nowhere. -/
theorem resolve_reads_linkedOut :
    ¬ linkedOut.IsCanonical [['w'], ['l']] ∧
      (∃ target, linkedOut.get? [['w'], ['l']] = some (.link target)) ∧
      ∃ why, linkedOut.canonicalize ((Path.ofNames [['w']]).join linkSlash) = .error why := by
  obtain ⟨real, -, -, hlink, -, hnowhere⟩ := resolve_reads resolve_linkSlash find_link
  refine ⟨not_isCanonical_link, ?_, (hnowhere not_isCanonical_link).1⟩
  by_contra hnone
  exact not_isCanonical_link (hlink.mpr (not_exists.mp hnone))

/-! ### Patches of targets -/

/-- **A patch by the path of an entry** puts a text there, or changes nothing. -/
theorem patchAll_of_placed {t : FileTree} {l : Location} (h : t.Placed l) (cs : List Change) :
    let t' := ((patchAll (Path.ofNames l) cs : ExceptT StoreError (StateM FileTree) FileReport) t).2
    t' = t ∨ ∃ text mode, t' = t.put l (.file (FileTree.encode text) mode) := by
  intro t'
  have hrun := patchAll_run run_treeRead (Path.ofNames l) cs t
  rw [textIn_tree] at hrun
  cases hread : t.readText (Path.ofNames l) with
  | error why =>
      rw [hread] at hrun
      exact .inl (congrArg Prod.snd hrun)
  | ok text =>
      simp only [hread, run_treeWrite] at hrun
      split at hrun
      · cases hwrite : t.write (Path.ofNames l)
            (FileTree.encode (FileReport.ofPlan (Path.ofNames l) cs text).after) with
        | error why =>
            rw [hwrite] at hrun
            exact .inl (congrArg Prod.snd hrun)
        | ok t₁ =>
            rw [hwrite] at hrun
            obtain ⟨-, mode, rfl⟩ := FileTree.write_of_placed h hwrite
            exact .inr ⟨_, mode, congrArg Prod.snd hrun⟩
      · exact .inl (congrArg Prod.snd hrun)

/-- **A patch stays in the workspace.**  Whatever path is resolved, the target is confined, and a
patch of it changes the entry at the target or nothing: the rest of the tree stays as it was, and
with it all that the workspace does not confine. -/
theorem patchAll_confined {w : Workspace} {p : Path} {t t₁ : FileTree} {l : Location}
    (h : (w.resolve p : ExceptT WorkspaceError (StateM FileTree) Location) t = (.ok l, t₁))
    (cs : List Change) :
    let t' := ((patchAll (Path.ofNames l) cs : ExceptT StoreError (StateM FileTree) FileReport) t₁).2
    w.Confines l ∧ t₁ = t ∧
    (t' = t ∨ ∃ text mode, t' = t.put l (.file (FileTree.encode text) mode)) ∧
    (∀ l', l' ≠ l → t'.get? l' = t.get? l') ∧
    (∀ l', ¬ w.Confines l' → t'.get? l' = t.get? l') := by
  intro t'
  rw [Workspace.resolve_run, Prod.mk.injEq] at h
  obtain ⟨hresolve, rfl⟩ := h
  obtain ⟨-, hconfines⟩ := Workspace.resolveIn_eq_ok_iff.mp hresolve
  have hput := patchAll_of_placed (Workspace.resolveIn_placed hresolve) cs
  have hframe : ∀ l', l' ≠ l → t'.get? l' = t.get? l' := by
    intro l' hne
    rcases hput with heq | ⟨text, mode, heq⟩
    · rw [show t' = t from heq]
    · rw [show t' = _ from heq, FileTree.get?_put_of_ne hne]
  refine ⟨hconfines, rfl, hput, hframe, fun l' hl' => hframe l' ?_⟩
  rintro rfl
  exact hl' hconfines

/-- The link is replaced by a file, and the file that it led to stays as it was. -/
theorem patchAll_confined_linkedOut :
    let t' := ((patchAll (.ofNames [['w'], ['l']]) [Change.replacing "add" ['x'] ['x', 'a'] ['a']] :
      ExceptT StoreError (StateM FileTree) FileReport) linkedOut).2
    t'.bytesAt? [['w'], ['l']] = some (FileTree.encode ['x', 'a']) ∧
      t'.bytesAt? [['s']] = some (FileTree.encode ['x']) := by
  obtain ⟨-, -, -, -, houtside⟩ := patchAll_confined resolve_linkSlash
    [Change.replacing "add" ['x'] ['x', 'a'] ['a']]
  refine ⟨by cbv, ?_⟩
  rw [FileTree.bytesAt?, houtside _ not_confines_outside]
  rfl

end Graft
