import Graft.FileTree
import Graft.Proofs.Path

/-!
# Following paths

Where a path leads in a file tree, and what a write changes about that.

* `FileTree.walk_cons`, `FileTree.walk_induction`: a path is followed step by step, and what a step
  does is all that there is to know about it.
* `FileTree.walk_plain`: following a path from the root comes to a *plain* location: every step
  down to it goes from a directory, by a name, to an entry that is no link.
* `FileTree.walk_append_of_ok`, `FileTree.walk_append_of_error`: a path in two parts is followed part
  by part.
* `FileTree.walk_skip`: segments that stay where they are count only at the end of a path.
* `FileTree.walk_budget`: a path that leads somewhere leads there with fewer links, or runs out of
  them.
* `FileTree.isCanonical_iff`: these are the locations whose own path leads to them.
* `FileTree.canonicalize_congr`: what the files hold does not matter for where a path leads.
* `FileTree.write_of_find`: a write to the path of an entry that can be read puts a new file there and
  changes nothing else, or the system refuses it.
* `FileTree.write_of_placed`: a write to a path of names below a plain location changes the one
  entry of that path, whatever stands there.
-/

namespace Graft

/-- What is found under a key does not depend on what stands under another. -/
theorem lookup_filter_ne {α β : Type} [BEq α] [LawfulBEq α] {k k' : α} (h : k' ≠ k)
    (es : List (α × β)) : (es.filter (·.1 != k)).lookup k' = es.lookup k' := by
  induction es with
  | nil => rfl
  | cons x es ih =>
      by_cases hx : x.1 = k
      · have hk' : (k' == x.1) = false := by simpa [hx] using h
        rw [List.filter_cons_of_neg (by simp [hx]), ih, List.lookup_cons, hk']
      · rw [List.filter_cons_of_pos (by simp [hx]), List.lookup_cons, List.lookup_cons, ih]

end Graft

namespace Graft.FileTree

/-! ### Entries -/

@[simp] theorem get?_nil (t : FileTree) : t.get? [] = some (.directory 0o755) := rfl

theorem get?_put_self {t : FileTree} {l : Location} {e : Entry} (hl : l ≠ []) :
    (t.put l e).get? l = some e := by
  simp [get?, put, hl]

theorem get?_put_of_ne {t : FileTree} {l l' : Location} {e : Entry} (h : l' ≠ l) :
    (t.put l e).get? l' = t.get? l' := by
  have hbeq : (l' == l) = false := by simpa using h
  rw [get?, get?, put]
  simp only [List.lookup_cons, hbeq, lookup_filter_ne h]

theorem ne_nil_of_file {t : FileTree} {l : Location} {bytes : ByteArray} {mode : Nat}
    (h : t.get? l = some (.file bytes mode)) : l ≠ [] := by
  rintro rfl
  simp at h

/-! ### Steps -/

/-- What one segment leads to: the links left, the location, and the segments that come before
those that follow. -/
def step (t : FileTree) (links : Nat) (here : Location) (s : Text) :
    Except OsError (Nat × Location × List Text) :=
  if !t.isDirectoryAt here then .error .notDirectory
  else if s = [] || s = ['.'] then .ok (links, here, [])
  else if s = ['.', '.'] then .ok (links, here.dropLast, [])
  else if nameLimit < Text.size s then .error .nameTooLong
  else
    match t.get? (here ++ [s]) with
    | none => .error .noEntry
    | some (.link target) =>
        match links with
        | 0         => .error .linkLoop
        | links + 1 => .ok (links, if target.isAbsolute then [] else here, target.segments)
    | some _ => .ok (links, here ++ [s], [])

/-- A step by a name. -/
theorem step_of_isName {t : FileTree} {links : Nat} {here : Location} {s : Text} (hs : Path.IsName s) :
    t.step links here s =
      if !t.isDirectoryAt here then .error .notDirectory
      else if nameLimit < Text.size s then .error .nameTooLong
      else
        match t.get? (here ++ [s]) with
        | none => .error .noEntry
        | some (.link target) =>
            match links with
            | 0         => .error .linkLoop
            | links + 1 => .ok (links, if target.isAbsolute then [] else here, target.segments)
        | some _ => .ok (links, here ++ [s], []) := by
  simp [step, hs.ne_nil, hs.ne_dot, hs.ne_up]

@[simp] theorem walk_nil (t : FileTree) (links : Nat) (here : Location) :
    t.walk links here [] = .ok here := by
  rw [walk]

/-- **Following a path** goes step by step. -/
theorem walk_cons (t : FileTree) (links : Nat) (here : Location) (s : Text) (rest : List Text) :
    t.walk links here (s :: rest) = match t.step links here s with
      | .error why                   => .error why
      | .ok (links', here', ahead) => t.walk links' here' (ahead ++ rest) := by
  rw [walk, step]
  split_ifs
  · rfl
  · rfl
  · rfl
  · rfl
  · cases t.get? (here ++ [s]) with
    | none => rfl
    | some e =>
        cases e with
        | file bytes mode => rfl
        | directory mode => rfl
        | link target => cases links <;> rfl

/-- Induction along the steps of a path. -/
theorem walk_induction {t : FileTree} {motive : Nat → Location → List Text → Prop}
    (nil : ∀ links here, motive links here [])
    (stop : ∀ links here s rest why, t.step links here s = .error why → motive links here (s :: rest))
    (go : ∀ links here s rest links' here' ahead, t.step links here s = .ok (links', here', ahead) →
      motive links' here' (ahead ++ rest) → motive links here (s :: rest))
    (links : Nat) (here : Location) (segments : List Text) : motive links here segments := by
  fun_induction t.walk links here segments with
  | case1 links here => exact nil links here
  | case2 links here s rest hdir => exact stop _ _ _ _ .notDirectory (by simp [step, hdir])
  | case3 links here s rest hdir hdot ih =>
      exact go _ _ _ _ links here [] (by simp [step, hdir, hdot]) ih
  | case4 links here rest hdir hdot ih =>
      exact go _ _ _ _ links here.dropLast [] (by simp [step, hdir]) ih
  | case5 links here s rest hdir hdot hup hsize =>
      exact stop _ _ _ _ .nameTooLong (by simp [step, hdir, hdot, hup, hsize])
  | case6 links here s rest hdir hdot hup hsize hget =>
      exact stop _ _ _ _ .noEntry (by simp [step, hdir, hdot, hup, hsize, hget])
  | case7 here s rest hdir hdot hup hsize target hget =>
      exact stop _ _ _ _ .linkLoop (by simp [step, hdir, hdot, hup, hsize, hget])
  | case8 here s rest hdir hdot hup hsize target hget links ih =>
      exact go _ _ _ _ _ _ _ (by simp [step, hdir, hdot, hup, hsize, hget]) ih
  | case9 links here s rest hdir hdot hup hsize e hlink hget ih =>
      refine go _ _ _ _ _ _ [] ?_ ih
      cases e with
      | link target => exact absurd rfl (hlink target)
      | file bytes mode => simp [step, hdir, hdot, hup, hsize, hget]
      | directory mode => simp [step, hdir, hdot, hup, hsize, hget]

/-! ### Plain locations -/

/-- Every step down to `l` goes from a directory, by a name, to an entry that is no link. -/
def Plain (t : FileTree) (l : Location) : Prop :=
  ∀ pre s post, l = pre ++ s :: post →
    t.isDirectoryAt pre = true ∧ Path.IsName s ∧ Text.size s ≤ nameLimit ∧
      ∃ e, t.get? (pre ++ [s]) = some e ∧ ∀ p, e ≠ .link p

theorem plain_nil (t : FileTree) : t.Plain [] := by
  intro pre s post h
  simp at h

theorem Plain.of_append {t : FileTree} {l l' : Location} (h : t.Plain (l ++ l')) : t.Plain l :=
  fun pre s post hl => h pre s (post ++ l') (by simp [hl])

theorem Plain.dropLast {t : FileTree} {l : Location} (h : t.Plain l) : t.Plain l.dropLast := by
  rcases List.eq_nil_or_concat l with rfl | ⟨l', s, rfl⟩
  · exact h
  · rw [List.concat_eq_append, List.dropLast_concat]
    rw [List.concat_eq_append] at h
    exact h.of_append

theorem Plain.concat {t : FileTree} {l : Location} {s : Text} {e : Entry} (h : t.Plain l)
    (hdir : t.isDirectoryAt l = true) (hs : Path.IsName s) (hsize : Text.size s ≤ nameLimit)
    (hget : t.get? (l ++ [s]) = some e) (hlink : ∀ p, e ≠ .link p) : t.Plain (l ++ [s]) := by
  intro pre u post hl
  rcases List.eq_nil_or_concat post with rfl | ⟨post', v, rfl⟩
  · obtain ⟨rfl, hu⟩ := List.append_inj' hl rfl
    cases hu
    exact ⟨hdir, hs, hsize, e, hget, hlink⟩
  · rw [List.concat_eq_append, ← List.cons_append, ← List.append_assoc] at hl
    obtain ⟨rfl, -⟩ := List.append_inj' hl rfl
    exact h pre u post' rfl

theorem Plain.not_link {t : FileTree} {l : Location} (h : t.Plain l) (target : Path) :
    t.get? l ≠ some (.link target) := by
  rcases List.eq_nil_or_concat l with rfl | ⟨dir, name, rfl⟩
  · simp
  · rw [List.concat_eq_append] at h ⊢
    obtain ⟨-, -, -, e, hget, hlink⟩ := h dir name [] rfl
    rw [hget]
    intro heq
    exact hlink target (Option.some.inj heq)

theorem Plain.isName {t : FileTree} {l : Location} (h : t.Plain l) : ∀ s ∈ l, Path.IsName s := by
  intro s hs
  obtain ⟨pre, post, rfl⟩ := List.append_of_mem hs
  exact (h pre s post rfl).2.1

/-- A step from a plain location comes to one. -/
theorem step_plain {t : FileTree} {links links' : Nat} {here here' : Location} {s : Text}
    {ahead : List Text} (hs : '/' ∉ s) (hh : t.Plain here)
    (h : t.step links here s = .ok (links', here', ahead)) :
    t.Plain here' ∧ ∀ u ∈ ahead, '/' ∉ u := by
  unfold step at h
  split_ifs at h with hdir hdot hup hsize
  · cases h; exact ⟨hh, by simp⟩
  · cases h; exact ⟨hh.dropLast, by simp⟩
  · split at h
    · cases h
    · split at h
      · cases h
      · cases h
        refine ⟨?_, fun u hu => Path.separator_not_mem hu⟩
        split
        · exact plain_nil t
        · exact hh
    · next e hlink hget =>
        cases h
        have hname : Path.IsName s := by
          simp only [Bool.or_eq_true, decide_eq_true_eq, not_or] at hdot
          exact ⟨hdot.1, hdot.2, hup, hs⟩
        exact ⟨hh.concat (by simpa using hdir) hname (by omega) hget (by simpa using hlink), by simp⟩

/-- **Following a path comes to a plain location**, if it starts from one. -/
theorem walk_plain {t : FileTree} {links : Nat} {here l : Location} {segments : List Text}
    (hseg : ∀ s ∈ segments, '/' ∉ s) (hh : t.Plain here)
    (h : t.walk links here segments = .ok l) : t.Plain l := by
  induction links, here, segments using walk_induction (t := t) with
  | nil links here =>
      rw [walk_nil] at h
      cases h
      exact hh
  | stop links here s rest why hstep =>
      rw [walk_cons, hstep] at h
      cases h
  | go links here s rest links' here' ahead hstep ih =>
      rw [walk_cons, hstep] at h
      obtain ⟨hs, hrest⟩ := List.forall_mem_cons.mp hseg
      obtain ⟨hplain, hahead⟩ := step_plain hs hh hstep
      exact ih (List.forall_mem_append.mpr ⟨hahead, hrest⟩) hplain h

/-- Walking down the names of a plain location comes to it, through no link. -/
theorem walk_names_append {t : FileTree} {links : Nat} {here ns : Location} (h : t.Plain (here ++ ns))
    (rest : List Text) : t.walk links here (ns ++ rest) = t.walk links (here ++ ns) rest := by
  induction ns generalizing here with
  | nil => simp
  | cons s ns ih =>
      obtain ⟨hdir, hs, hsize, e, hget, hlink⟩ := h here s ns rfl
      have hstep : t.step links here s = .ok (links, here ++ [s], []) := by
        rw [step_of_isName hs, if_neg (by simp [hdir]), if_neg (Nat.not_lt.mpr hsize), hget]
        cases e with
        | link p => exact absurd rfl (hlink p)
        | file bytes mode => rfl
        | directory mode => rfl
      have hdown : t.walk links (here ++ [s]) (ns ++ rest) = _ := ih (by simpa using h)
      rw [List.cons_append, walk_cons, hstep]
      simpa using hdown

theorem walk_names {t : FileTree} {links : Nat} {here ns : Location} (h : t.Plain (here ++ ns)) :
    t.walk links here ns = .ok (here ++ ns) := by
  have hdown : t.walk links here (ns ++ []) = _ := walk_names_append h []
  rwa [List.append_nil, walk_nil] at hdown

/-! ### Paths in two parts -/

/-- A step takes no links back. -/
theorem step_links {t : FileTree} {links links' : Nat} {here here' : Location} {s : Text}
    {ahead : List Text} (h : t.step links here s = .ok (links', here', ahead)) : links' ≤ links := by
  unfold step at h
  split_ifs at h
  · cases h; exact le_rfl
  · cases h; exact le_rfl
  · split at h
    · cases h
    · split at h
      · cases h
      · cases h; exact Nat.le_succ _
    · cases h; exact le_rfl

/-- A step that can be made can be made with more links left. -/
theorem step_budget {t : FileTree} {less more less' : Nat} {here here' : Location} {s : Text}
    {ahead : List Text} (hle : less ≤ more) (h : t.step less here s = .ok (less', here', ahead)) :
    ∃ more', less' ≤ more' ∧ t.step more here s = .ok (more', here', ahead) := by
  unfold step at h ⊢
  split_ifs at h ⊢
  · cases h; exact ⟨more, hle, rfl⟩
  · cases h; exact ⟨more, hle, rfl⟩
  · split at h
    · cases h
    · split at h
      · cases h
      · cases h
        cases more with
        | zero => cases hle
        | succ more => exact ⟨more, Nat.le_of_succ_le_succ hle, rfl⟩
    · cases h; exact ⟨more, hle, rfl⟩

/-- A step that cannot be made lacks links, or cannot be made with more of them either. -/
theorem step_budget_error {t : FileTree} {less more : Nat} {here : Location} {s : Text}
    {why : OsError} (h : t.step less here s = .error why) :
    why = .linkLoop ∨ t.step more here s = .error why := by
  unfold step at h ⊢
  split_ifs at h ⊢
  · exact .inr h
  · exact .inr h
  · split at h
    · exact .inr h
    · split at h
      · cases h; exact .inl rfl
      · cases h
    · cases h

theorem walk_append_of_ok {t : FileTree} {links : Nat} {here l : Location} {xs : List Text}
    (h : t.walk links here xs = .ok l) :
    ∃ left ≤ links, ∀ ys, t.walk links here (xs ++ ys) = t.walk left l ys := by
  induction links, here, xs using walk_induction (t := t) with
  | nil links here =>
      rw [walk_nil] at h
      cases h
      exact ⟨links, le_rfl, fun _ => rfl⟩
  | stop links here s rest why hstep =>
      rw [walk_cons, hstep] at h
      cases h
  | go links here s rest links' here' ahead hstep ih =>
      rw [walk_cons, hstep] at h
      obtain ⟨left, hle, happ⟩ := ih h
      refine ⟨left, hle.trans (step_links hstep), fun ys => ?_⟩
      rw [List.cons_append, walk_cons, hstep, ← happ, List.append_assoc]

theorem walk_append_of_error {t : FileTree} {links : Nat} {here : Location} {xs : List Text}
    {why : OsError} (h : t.walk links here xs = .error why) (ys : List Text) :
    t.walk links here (xs ++ ys) = .error why := by
  induction links, here, xs using walk_induction (t := t) with
  | nil links here =>
      rw [walk_nil] at h
      cases h
  | stop links here s rest why' hstep =>
      rw [walk_cons, hstep] at h
      rw [List.cons_append, walk_cons, hstep]
      exact h
  | go links here s rest links' here' ahead hstep ih =>
      rw [walk_cons, hstep] at h
      rw [List.cons_append, walk_cons, hstep, ← ih h, List.append_assoc]

/-- **A path that leads somewhere leads there with fewer links**, or runs out of them. -/
theorem walk_budget {t : FileTree} {less more : Nat} {here l : Location} {xs : List Text}
    (hle : less ≤ more) (h : t.walk more here xs = .ok l) :
    t.walk less here xs = .ok l ∨ t.walk less here xs = .error .linkLoop := by
  induction less, here, xs using walk_induction (t := t) generalizing more with
  | nil less here =>
      rw [walk_nil] at h ⊢
      exact .inl h
  | stop less here s rest why hstep =>
      rcases step_budget_error hstep with rfl | hmore
      · exact .inr (by rw [walk_cons, hstep])
      · rw [walk_cons, hmore] at h
        cases h
  | go less here s rest less' here' ahead hstep ih =>
      obtain ⟨more', hle', hmore⟩ := step_budget hle hstep
      rw [walk_cons, hmore] at h
      rw [walk_cons, hstep]
      exact ih hle' h

theorem walk_idle {t : FileTree} {links : Nat} {here : Location} {s : Text} {rest : List Text}
    (hdir : t.isDirectoryAt here = true) (hs : Path.isIdle s = true) :
    t.walk links here (s :: rest) = t.walk links here rest := by
  simp only [Path.isIdle] at hs
  rw [walk_cons, step, if_neg (by simp [hdir]), if_pos hs]
  rfl

theorem walk_of_not_directory {t : FileTree} {links : Nat} {here : Location} {segments : List Text}
    (hdir : t.isDirectoryAt here = false) (hne : segments ≠ []) :
    t.walk links here segments = .error .notDirectory := by
  obtain ⟨s, rest, rfl⟩ := List.exists_cons_of_ne_nil hne
  rw [walk_cons, step, if_pos (by simp [hdir])]

/-- **Segments that stay where they are** can be left out before others. -/
theorem walk_skip {t : FileTree} {links : Nat} {here : Location} {rest : List Text}
    (hrest : rest ≠ []) (segments : List Text) :
    t.walk links here (segments ++ rest) =
      t.walk links here (segments.filter (fun s => !Path.isIdle s) ++ rest) := by
  induction segments generalizing links here with
  | nil => rfl
  | cons s segments ih =>
      by_cases hs : Path.isIdle s = true
      · rw [List.cons_append, List.filter_cons_of_neg (by simpa using hs)]
        cases hdir : t.isDirectoryAt here with
        | true => rw [walk_idle hdir hs, ih]
        | false =>
            rw [walk_of_not_directory hdir (by simp), walk_of_not_directory hdir (by simp [hrest])]
      · rw [List.filter_cons_of_pos (by simpa using hs), List.cons_append, List.cons_append,
          ← List.singleton_append, ← List.singleton_append (l := _ ++ rest)]
        cases hstep : t.walk links here [s] with
        | error why => rw [walk_append_of_error hstep, walk_append_of_error hstep]
        | ok l =>
            obtain ⟨left, -, happ⟩ := walk_append_of_ok hstep
            rw [happ, happ, ih]

/-! ### Canonical locations -/

/-- The path of `l` leads to `l`. -/
def IsCanonical (t : FileTree) (l : Location) : Prop := t.canonicalize (Path.ofNames l) = .ok l

theorem canonicalize_of_isAbsolute {t : FileTree} {p : Path} (hp : p.isAbsolute = true)
    {l : Location} (h : t.canonicalize p = .ok l) :
    t.walk linkLimit [] p.segments = .ok l ∧ '\x00' ∉ p.spelling := by
  unfold canonicalize at h
  split at h
  · cases h
  · split at h
    · cases h
    · next hnul => exact ⟨by simpa [hp] using h, by simpa using hnul⟩

theorem plain_of_canonicalize {t : FileTree} {p : Path} (hp : p.isAbsolute = true) {l : Location}
    (h : t.canonicalize p = .ok l) : t.Plain l :=
  walk_plain (fun _ hs => Path.separator_not_mem hs) (plain_nil t) (canonicalize_of_isAbsolute hp h).1

theorem walk_segments_ofNames {t : FileTree} {l : Location} (h : t.Plain l) :
    t.walk linkLimit [] (Path.ofNames l).segments = .ok l := by
  have hroot : t.isDirectoryAt [] = true := rfl
  by_cases hne : l = []
  · subst hne
    rw [Path.segments_ofNames_nil]
    simp [walk, hroot]
  · have hdown : t.walk linkLimit [] l = .ok l := walk_names h
    rw [Path.segments_ofNames h.isName hne, walk]
    simpa [hroot] using hdown

/-- **The canonical locations** are the plain ones that can be spelled. -/
theorem isCanonical_iff {t : FileTree} {l : Location} :
    t.IsCanonical l ↔ t.Plain l ∧ ∀ s ∈ l, '\x00' ∉ s := by
  constructor
  · intro h
    refine ⟨plain_of_canonicalize (Path.isAbsolute_ofNames l) h, fun s hs hnul => ?_⟩
    refine (canonicalize_of_isAbsolute (Path.isAbsolute_ofNames l) h).2 ?_
    rw [Path.ofNames_of_ne_nil (List.ne_nil_of_mem hs)]
    exact Path.mem_intercalate_of_mem (List.mem_cons_of_mem _ hs) hnul
  · rintro ⟨hplain, hnul⟩
    have hspelled : '\x00' ∉ (Path.ofNames l).spelling := by
      by_cases hne : l = []
      · subst hne; decide
      · rw [Path.ofNames_of_ne_nil hne]
        intro h
        rcases Path.mem_intercalate h with h | ⟨s, hs, h⟩
        · cases h
        · rcases List.mem_cons.mp hs with rfl | hs
          · cases h
          · exact hnul s hs h
    rw [IsCanonical, canonicalize, if_neg (Path.spelling_ofNames_ne_nil l),
      if_neg (by simpa using hspelled), if_pos (Path.isAbsolute_ofNames l)]
    exact walk_segments_ofNames hplain

theorem IsCanonical.dropLast {t : FileTree} {l : Location} (h : t.IsCanonical l) :
    t.IsCanonical l.dropLast := by
  obtain ⟨hplain, hnul⟩ := isCanonical_iff.mp h
  exact isCanonical_iff.mpr ⟨hplain.dropLast, fun s hs => hnul s ((List.dropLast_subset l) hs)⟩

/-! ### Trees that differ in what files hold -/

end Graft.FileTree

namespace Graft

/-- An entry without what a file or a directory has to itself: what following a path looks at. -/
def Entry.shape : Entry → Entry
  | .file _ _    => .file .empty 0
  | .directory _ => .directory 0
  | .link target => .link target

end Graft

namespace Graft.FileTree

/-- Two trees have the same entries, up to what they hold. -/
def Alike (t t' : FileTree) : Prop :=
  t.current = t'.current ∧ ∀ l, (t.get? l).map Entry.shape = (t'.get? l).map Entry.shape

theorem Alike.refl (t : FileTree) : t.Alike t := ⟨rfl, fun _ => rfl⟩

theorem Alike.trans {t t' t'' : FileTree} (h : t.Alike t') (h' : t'.Alike t'') : t.Alike t'' :=
  ⟨h.1.trans h'.1, fun l => (h.2 l).trans (h'.2 l)⟩

theorem isDirectoryAt_iff_shape (t : FileTree) (l : Location) :
    t.isDirectoryAt l = true ↔ (t.get? l).map Entry.shape = some (.directory 0) := by
  unfold isDirectoryAt
  rcases t.get? l with _ | ⟨bytes, mode⟩ | mode | target <;> simp [Entry.shape]

theorem Alike.isDirectoryAt {t t' : FileTree} (h : t.Alike t') (l : Location) :
    t.isDirectoryAt l = t'.isDirectoryAt l := by
  rw [Bool.eq_iff_iff, isDirectoryAt_iff_shape, isDirectoryAt_iff_shape, h.2 l]

theorem Alike.step {t t' : FileTree} (h : t.Alike t') (links : Nat) (here : Location) (s : Text) :
    t.step links here s = t'.step links here s := by
  have hshape := h.2 (here ++ [s])
  unfold FileTree.step
  rw [h.isDirectoryAt]
  -- what is looked at is there in both trees or in none, and a link in both or in none
  rcases hget : t.get? (here ++ [s]) with _ | ⟨bytes, mode⟩ | mode | target <;>
    rcases hget' : t'.get? (here ++ [s]) with _ | ⟨bytes', mode'⟩ | mode' | target' <;>
    simp_all [Entry.shape]

theorem Alike.walk {t t' : FileTree} (h : t.Alike t') (links : Nat) (here : Location)
    (segments : List Text) : t.walk links here segments = t'.walk links here segments := by
  induction links, here, segments using walk_induction (t := t) with
  | nil links here => rw [walk_nil, walk_nil]
  | stop links here s rest why hstep => rw [walk_cons, walk_cons, ← h.step, hstep]
  | go links here s rest links' here' ahead hstep ih =>
      rw [walk_cons, walk_cons, ← h.step, hstep]
      exact ih

/-- **Where a path leads does not depend on what files hold.** -/
theorem canonicalize_congr {t t' : FileTree} (h : t.Alike t') (p : Path) :
    t.canonicalize p = t'.canonicalize p := by
  unfold canonicalize
  rw [h.1, h.walk]

theorem Alike.isCanonical {t t' : FileTree} (h : t.Alike t') {l : Location} (hl : t.IsCanonical l) :
    t'.IsCanonical l :=
  (canonicalize_congr h _).symm.trans hl

theorem alike_put {t : FileTree} {l : Location} {bytes bytes' : ByteArray} {mode mode' : Nat}
    (h : t.get? l = some (.file bytes mode)) : t.Alike (t.put l (.file bytes' mode')) := by
  refine ⟨rfl, fun l' => ?_⟩
  by_cases hl : l' = l
  · subst hl
    rw [get?_put_self (ne_nil_of_file h), h]
    rfl
  · rw [get?_put_of_ne hl]

/-! ### Reading and writing -/

theorem decode?_encode (t : Text) : decode? (encode t) = some t := by
  have hvalid : (String.ofList t).toUTF8.IsValidUTF8 := (String.ofList t).isValidUTF8
  have hback : String.fromUTF8 (String.ofList t).toUTF8 hvalid = String.ofList t := rfl
  rw [decode?, encode, String.fromUTF8?, dif_pos hvalid, hback, Option.map_some, String.toList_ofList]

theorem encode_injective {x y : Text} (h : encode x = encode y) : x = y := by
  have htext := congrArg decode? h
  rwa [decode?_encode, decode?_encode, Option.some.injEq] at htext

/-- What the file at a location holds. -/
def bytesAt? (t : FileTree) (l : Location) : Option ByteArray :=
  match t.get? l with
  | some (.file bytes _) => some bytes
  | _                    => none

theorem bytesAt?_put {t : FileTree} {l l' : Location} {bytes : ByteArray} {mode : Nat}
    (hl : l ≠ []) :
    (t.put l (.file bytes mode)).bytesAt? l' = if l = l' then some bytes else t.bytesAt? l' := by
  unfold bytesAt?
  by_cases h : l = l'
  · subst h
    rw [get?_put_self hl, if_pos rfl]
  · rw [get?_put_of_ne (Ne.symm h), if_neg h]

/-- The text of the file at a location. -/
def textAt? (t : FileTree) (l : Location) : Option Text :=
  match t.get? l with
  | some (.file bytes _) => decode? bytes
  | _                    => none

theorem textAt?_put_self {t : FileTree} {l : Location} {x : Text} {mode : Nat} (hl : l ≠ []) :
    (t.put l (.file (encode x) mode)).textAt? l = some x := by
  rw [textAt?, get?_put_self hl]
  exact decode?_encode x

theorem textAt?_put_of_ne {t : FileTree} {l l' : Location} {e : Entry} (h : l' ≠ l) :
    (t.put l e).textAt? l' = t.textAt? l' := by
  rw [textAt?, textAt?, get?_put_of_ne h]

theorem file_of_textAt? {t : FileTree} {l : Location} {x : Text} (h : t.textAt? l = some x) :
    ∃ bytes mode, t.get? l = some (.file bytes mode) := by
  unfold textAt? at h
  split at h
  · next bytes mode hget => exact ⟨bytes, mode, hget⟩
  · cases h

theorem find_eq_ok_iff {t : FileTree} {p : Path} {e : Entry} :
    t.find p = .ok e ↔ ∃ l, t.canonicalize p = .ok l ∧ t.get? l = some e := by
  rw [find]
  cases t.canonicalize p with
  | error why => simp [bind, Except.bind]
  | ok l => cases hget : t.get? l <;> simp [bind, Except.bind, pure, Except.pure, hget, throw, throwThe,
      MonadExceptOf.throw]

/-- A text can only be read from a file. -/
theorem find_of_readText {t : FileTree} {p : Path} {x : Text} (h : t.readText p = .ok x) :
    ∃ bytes mode, t.find p = .ok (.file bytes mode) := by
  rw [readText, readBytes] at h
  rcases hfind : t.find p with why | ⟨bytes, mode⟩ | mode | target
  · rw [hfind] at h
    cases why <;> cases h
  · exact ⟨bytes, mode, rfl⟩
  · rw [hfind] at h
    cases h
  · rw [hfind] at h
    cases h

theorem find_of_canonical {t : FileTree} {l : Location} (h : t.IsCanonical l) :
    t.find (Path.ofNames l) = match t.get? l with
      | some e => .ok e
      | none   => .error .noEntry := by
  rw [find, h]
  rfl

/-- Reading by its canonical path gives the text of a file. -/
theorem readText_of_canonical {t : FileTree} {l : Location} (h : t.IsCanonical l) {x : Text} :
    t.readText (Path.ofNames l) = .ok x ↔ t.textAt? l = some x := by
  rw [readText, readBytes, find_of_canonical h, textAt?]
  rcases t.get? l with _ | ⟨bytes, mode⟩ | mode | target
  · exact ⟨fun h => (nomatch h), fun h => (nomatch h)⟩
  · cases hd : decode? bytes <;> simp [bind, Except.bind, pure, Except.pure, hd]
  · exact ⟨fun h => (nomatch h), fun h => (nomatch h)⟩
  · exact ⟨fun h => (nomatch h), fun h => (nomatch h)⟩

/-! ### Writing by the path of an entry -/

/-- The location can be an entry's: all its names are names, and what holds it is plain. -/
def Placed (t : FileTree) (l : Location) : Prop :=
  t.Plain l.dropLast ∧ ∀ s ∈ l, Path.IsName s

theorem Plain.placed {t : FileTree} {l : Location} (h : t.Plain l) : t.Placed l :=
  ⟨h.dropLast, h.isName⟩

theorem Plain.placed_concat {t : FileTree} {l : Location} {s : Text} (h : t.Plain l)
    (hs : Path.IsName s) : t.Placed (l ++ [s]) := by
  refine ⟨by rwa [List.dropLast_concat], fun u hu => ?_⟩
  rcases List.mem_append.mp hu with hu | hu
  · exact h.isName u hu
  · rw [List.mem_singleton] at hu
    exact hu ▸ hs

theorem eq_of_canonicalize_ofNames {t : FileTree} {l l' : Location} (h : t.Plain l)
    (hc : t.canonicalize (Path.ofNames l) = .ok l') : l' = l := by
  have hwalk := (canonicalize_of_isAbsolute (Path.isAbsolute_ofNames l) hc).1
  rw [walk_segments_ofNames h] at hwalk
  exact (Except.ok.inj hwalk).symm

/-- The path of an entry that leads somewhere is that of its holder and then its name. -/
theorem walk_of_placed {t : FileTree} {dir real : Location} {name : Text} (h : t.Plain dir)
    (hname : Path.IsName name) (hc : t.canonicalize (Path.ofNames (dir ++ [name])) = .ok real) :
    t.walk linkLimit dir [name] = .ok real ∧ ∀ s ∈ dir ++ [name], '\x00' ∉ s := by
  have hnames := (h.placed_concat hname).2
  obtain ⟨hwalk, hnul⟩ := canonicalize_of_isAbsolute (Path.isAbsolute_ofNames _) hc
  constructor
  · rw [Path.segments_ofNames hnames (by simp), walk_idle rfl rfl] at hwalk
    rwa [walk_names_append (by simpa using h)] at hwalk
  · intro s hs hmem
    refine hnul ?_
    rw [Path.ofNames_of_ne_nil (by simp)]
    exact Path.mem_intercalate_of_mem (List.mem_cons_of_mem _ hs) hmem

/-- **Where the path of an entry leads**: to the entry itself, if it is not a link. -/
theorem canonicalize_of_placed {t : FileTree} {l real : Location} (h : t.Placed l)
    (hc : t.canonicalize (Path.ofNames l) = .ok real) :
    real = l ↔ ∀ target, t.get? l ≠ some (.link target) := by
  constructor
  · rintro rfl
    exact (plain_of_canonicalize (Path.isAbsolute_ofNames _) hc).not_link
  · intro hlink
    rcases List.eq_nil_or_concat l with rfl | ⟨dir, name, rfl⟩
    · exact eq_of_canonicalize_ofNames (plain_nil t) hc
    · rw [List.concat_eq_append] at h hc hlink ⊢
      obtain ⟨hplain, hnames⟩ := h
      rw [List.dropLast_concat] at hplain
      have hname : Path.IsName name := hnames name (by simp)
      obtain ⟨hwalk, -⟩ := walk_of_placed hplain hname hc
      rw [walk_cons] at hwalk
      cases hstep : t.step linkLimit dir name with
      | error why => rw [hstep] at hwalk; cases hwalk
      | ok next =>
          rw [hstep] at hwalk
          rw [step_of_isName hname] at hstep
          split_ifs at hstep
          split at hstep
          · cases hstep
          · next target hget => exact absurd hget (hlink target)
          · cases hstep
            simp only [List.append_nil, walk_nil] at hwalk
            exact (Except.ok.inj hwalk).symm

/-- An entry that is read as a file has a name in a directory, and is no directory itself. -/
theorem entry_of_find {t : FileTree} {dir : Location} {name : Text} {bytes : ByteArray} {mode : Nat}
    (h : t.Placed (dir ++ [name]))
    (hfind : t.find (Path.ofNames (dir ++ [name])) = .ok (.file bytes mode)) :
    t.IsCanonical dir ∧ t.isDirectoryAt dir = true ∧ Text.size name ≤ nameLimit ∧
      t.isDirectoryAt (dir ++ [name]) = false := by
  obtain ⟨real, hreal, hget⟩ := find_eq_ok_iff.mp hfind
  have hname : Path.IsName name := h.2 name (by simp)
  have hplain : t.Plain dir := by simpa using h.1
  obtain ⟨hwalk, hnul⟩ := walk_of_placed hplain hname hreal
  have hcan : t.IsCanonical dir :=
    isCanonical_iff.mpr ⟨hplain, fun s hs => hnul s (List.mem_append_left _ hs)⟩
  have hfile : t.isDirectoryAt (dir ++ [name]) = false := by
    rw [isDirectoryAt]
    split
    · next mode' hdir =>
        -- the path of a directory leads to it, and not to a file
        have hlink : ∀ target, t.get? (dir ++ [name]) ≠ some (.link target) := by simp [hdir]
        obtain rfl := (canonicalize_of_placed h hreal).mpr hlink
        cases hdir.symm.trans hget
    · rfl
  rw [walk_cons, step_of_isName hname] at hwalk
  split_ifs at hwalk with hdir hsize
  exact ⟨hcan, by simpa using hdir, Nat.le_of_not_lt hsize, hfile⟩

/-- **A write to an entry that can be read** puts the new file there with the permissions of the old
one, or the system refuses one of its steps. -/
theorem write_of_find {t : FileTree} {l : Location} {bytes old : ByteArray} {mode : Nat}
    (h : t.Placed l) (hfind : t.find (Path.ofNames l) = .ok (.file old mode)) :
    t.write (Path.ofNames l) bytes =
      match t.refusal? (Path.ofNames l) l.dropLast bytes with
      | some why => .error why
      | none     => .ok (t.put l (.file bytes mode)) := by
  rcases List.eq_nil_or_concat l with rfl | ⟨dir, name, hl⟩
  · -- the root is no file
    obtain ⟨real, hreal, hget⟩ := find_eq_ok_iff.mp hfind
    obtain rfl := eq_of_canonicalize_ofNames (plain_nil t) hreal
    cases hget
  rw [List.concat_eq_append] at hl
  subst hl
  have hne : dir ++ [name] ≠ [] := by simp
  obtain ⟨hcan, hdir, hsize, hfile⟩ := entry_of_find h hfind
  have hholder : t.canonicalize (holder (Path.ofNames (dir ++ [name]))) = .ok dir := by
    have hparent := Path.parent_ofNames h.2 hne
    rw [List.dropLast_concat] at hparent
    rw [holder, hparent, if_neg (Path.spelling_ofNames_ne_nil dir)]
    exact hcan
  have hlast : (Path.ofNames (dir ++ [name])).segments.getLast? = some name := by
    rw [Path.segments_ofNames h.2 hne, ← List.cons_append, List.getLast?_concat]
  have hmode : t.newMode (Path.ofNames (dir ++ [name])) = mode := by
    rw [newMode, hfind]
  rw [write, hholder, List.dropLast_concat]
  cases hrefused : t.refusal? (Path.ofNames (dir ++ [name])) dir bytes with
  | some why => simp [bind, Except.bind, hdir, hrefused, throw, throwThe, MonadExceptOf.throw]
  | none =>
      simp [bind, Except.bind, pure, Except.pure, hdir, hrefused, hlast, Path.fileName?_ofNames h.2,
        Nat.not_lt.mpr hsize, hfile, hmode]

/-- **What a write does**: it puts a file under the last name of its path, in the directory that
holds it. -/
theorem write_eq_ok {t t' : FileTree} {p : Path} {bytes : ByteArray}
    (h : t.write p bytes = .ok t') :
    ∃ dir name, t.canonicalize (holder p) = .ok dir ∧ p.fileName? = some name ∧
      t' = t.put (dir ++ [name]) (.file bytes (t.newMode p)) := by
  unfold write at h
  cases hdir : t.canonicalize (holder p) with
  | error why => rw [hdir] at h; cases h
  | ok dir =>
      simp only [hdir, bind, Except.bind, throw, throwThe, MonadExceptOf.throw, pure,
        Except.pure] at h
      split_ifs at h
      split at h
      · cases h
      · split at h
        · next last name _ hname =>
            split_ifs at h
            cases h
            exact ⟨dir, name, rfl, hname, rfl⟩
        · cases h

/-- **A write by the path of an entry** puts a file there, and changes nothing else. -/
theorem write_of_placed {t t' : FileTree} {l : Location} {bytes : ByteArray} (h : t.Placed l)
    (hw : t.write (Path.ofNames l) bytes = .ok t') :
    l ≠ [] ∧ ∃ mode, t' = t.put l (.file bytes mode) := by
  obtain ⟨hplain, hnames⟩ := h
  obtain ⟨dir', name', hdir, hname, rfl⟩ := write_eq_ok hw
  rcases List.eq_nil_or_concat l with rfl | ⟨dir, name, hl⟩
  · -- the root has no name
    cases hname
  · rw [List.concat_eq_append] at hl
    subst hl
    have hne : dir ++ [name] ≠ [] := by simp
    have hparent := Path.parent_ofNames hnames hne
    rw [List.dropLast_concat] at hplain hparent
    rw [holder, hparent, if_neg (Path.spelling_ofNames_ne_nil dir)] at hdir
    obtain rfl := eq_of_canonicalize_ofNames hplain hdir
    rw [Path.fileName?_ofNames hnames] at hname
    cases hname
    exact ⟨hne, _, rfl⟩

end Graft.FileTree
