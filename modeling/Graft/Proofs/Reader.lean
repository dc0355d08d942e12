import Graft.Proofs.Edit
import Graft.Regex

/-!
# Groups of a pattern

The reader of a pattern counts the groups as they open, and refuses a name that a group has already.
What it does with a group afterwards, to close it, repeat it or join it with others, adds none
(`Regex.Reader.step_extends`).

* `Regex.labelled_of_ofText`: so the groups of an expression that was read are counted from one, and each
  name belongs to one of them.
-/

namespace Graft

/-! ### Computations that can fail -/

theorem exists_of_bind {ε α β : Type} {x : Except ε α} {f : α → Except ε β} {b : β}
    (h : x >>= f = .ok b) : ∃ a, x = .ok a ∧ f a = .ok b := by
  cases x with
  | error e => cases h
  | ok a => exact ⟨a, rfl, h⟩

theorem eq_ok_of_guard {ε α : Type} {c : Prop} [Decidable c] {e : ε} {x : Except ε α} {a : α}
    (h : (if c then throw e >>= fun _ : PUnit => x else x) = .ok a) : x = .ok a := by
  split_ifs at h
  · cases h
  · exact h

namespace Regex

/-! ### Labels -/

/-- The number of a group, and its name if it has one. -/
abbrev Label := Nat × Option String

/-- The name starts with a letter or the underscore. -/
def IsGroupName (name : String) : Prop :=
  ∃ c cs, name = String.ofList (c :: cs) ∧ Reader.isNameStart c = true

theorem Reader.isNameStart_of_isDigit {c : Char} (h : c.isDigit = true) : isNameStart c = false := by
  have hrange : 48 ≤ c.toNat ∧ c.toNat ≤ 57 := by
    simpa [Char.isDigit, UInt32.le_iff_toNat_le] using h
  obtain ⟨hfirst, hlast⟩ := hrange
  rw [← Char.ofNat_toNat c]
  interval_cases c.toNat <;> rfl

/-- Groups are counted from one, and a name belongs to one group. -/
structure Labelled (P : Label → Prop) : Prop where
  pos    : ∀ l, P l → 1 ≤ l.1
  proper : ∀ i name, P (i, some name) → IsGroupName name
  unique : ∀ i j name, P (i, some name) → P (j, some name) → i = j

theorem Labelled.mono {P P' : Label → Prop} (h : Labelled P) (hsub : ∀ l, P' l → P l) : Labelled P' where
  pos    := fun l hl => h.pos l (hsub l hl)
  proper := fun i name hl => h.proper i name (hsub _ hl)
  unique := fun i j name hi hj => h.unique i j name (hsub _ hi) (hsub _ hj)

/-- Another group can be counted if its name is not taken. -/
theorem Labelled.insert {P : Label → Prop} (h : Labelled P) {i : Nat} (hi : 1 ≤ i) {name : Option String}
    (hproper : ∀ n ∈ name, IsGroupName n) (hfresh : ∀ n ∈ name, ∀ j, ¬ P (j, some n)) :
    Labelled fun l => l = (i, name) ∨ P l where
  pos l hl := by
    rcases hl with rfl | hl
    · exact hi
    · exact h.pos l hl
  proper j n hn := by
    rcases hn with heq | hn
    · cases heq
      exact hproper n rfl
    · exact h.proper j n hn
  unique j k n hj hk := by
    rcases hj with hj | hj <;> rcases hk with hk | hk
    · cases hj
      cases hk
      rfl
    · cases hj
      exact absurd hk (hfresh n rfl k)
    · cases hk
      exact absurd hj (hfresh n rfl j)
    · exact h.unique j k n hj hk

/-! ### Groups of a tree -/

namespace Node

theorem groups_opt (greedy : Bool) (r : Node) : (opt greedy r).groups = r.groups := by
  unfold opt
  split <;> simp [groups]

theorem groups_star (greedy : Bool) (r : Node) : (star greedy r).groups = r.groups := by
  unfold star
  split
  · rfl
  · exact groups_opt greedy (.plus greedy r)

/-- A repetition may write its turns out, and it may take none; either way it adds no group. -/
theorem groups_repeated (least : Nat) (most : Option Nat) (greedy : Bool) (r : Node) :
    (r.repeated least most greedy).groups ⊆ r.groups := by
  unfold repeated
  simp only
  generalize (if r.isZeroWidth then min least 1 else least) = least
  generalize (if r.isZeroWidth then some (min (most.getD 1) 1) else most) = most
  split
  · exact List.nil_subset _
  · exact List.Subset.refl _
  · rw [groups_opt]
    exact List.Subset.refl _
  · rw [groups_star]
    exact List.Subset.refl _
  · exact List.Subset.refl _
  · exact List.append_subset.mpr ⟨List.Subset.refl _, List.Subset.refl _⟩
  · split_ifs
    · exact List.Subset.refl _
    · exact List.Subset.refl _
    · exact List.append_subset.mpr ⟨List.Subset.refl _, List.Subset.refl _⟩

/-- What is joined from left to right has the groups of its parts. -/
theorem mem_groups_foldl {join : Node → Node → Node}
    (hjoin : ∀ a b, (join a b).groups = a.groups ++ b.groups) {first : Node} {ps : List (Leveled Node)}
    {l : Label} (h : l ∈ (ps.foldl (fun r p => join p.value r) first).groups) :
    l ∈ first.groups ∨ ∃ p ∈ ps, l ∈ p.value.groups := by
  induction ps generalizing first with
  | nil => exact .inl h
  | cons p ps ih =>
      rcases ih h with hjoined | ⟨q, hq, hl⟩
      · rw [hjoin] at hjoined
        rcases List.mem_append.mp hjoined with hl | hl
        · exact .inr ⟨p, List.mem_cons_self, hl⟩
        · exact .inl hl
      · exact .inr ⟨q, List.mem_cons_of_mem _ hq, hl⟩

end Node

theorem Primitive.groups_node {f : Flags} {p : Primitive} {n : Node} (h : p.node f = .ok n) :
    n.groups = [] := by
  cases p with
  | char c byte =>
      rw [Primitive.node] at h
      cases hset : charSet f c byte with
      | error why => rw [hset] at h; cases h
      | ok s =>
          rw [hset] at h
          cases h
          rfl
  | set s =>
      cases h
      rfl
  | look l =>
      cases h
      rfl

/-! ### Groups under way -/

/-- A group of an alternative that ended, or of an item of the current one. -/
def Branch.Holds (b : Branch) (l : Label) : Prop :=
  (∃ n ∈ b.ended, l ∈ n.value.groups) ∨ ∃ n, some n ∈ b.items ∧ l ∈ n.value.groups

/-- A group that was read, or one that is still open. -/
def Reader.Holds (r : Reader) (l : Label) : Prop :=
  r.branch.Holds l ∨ ∃ g ∈ r.groups, g.around.Holds l ∨ g.capture = some l

namespace Branch

variable {b : Branch} {n : Leveled Node} {l : Label}

theorem not_holds_empty (l : Label) : ¬ Holds {} l := by
  simp [Holds]

theorem holds_push (h : (b.push n).Holds l) : l ∈ n.value.groups ∨ b.Holds l := by
  rcases h with hended | ⟨m, hm, hl⟩
  · exact .inr (.inl hended)
  · rcases List.mem_cons.mp hm with heq | hm
    · cases heq
      exact .inl hl
    · exact .inr (.inr ⟨m, hm, hl⟩)

theorem mem_sequence (h : l ∈ b.sequence.value.groups) : ∃ n, some n ∈ b.items ∧ l ∈ n.value.groups := by
  have hparts : ∀ {n}, n ∈ b.items.reduceOption → some n ∈ b.items := List.reduceOption_mem_iff.mp
  unfold sequence at h
  simp only at h
  cases hitems : b.items.reduceOption with
  | nil =>
      rw [hitems] at h
      cases h
  | cons p ps =>
      rw [hitems] at h hparts
      rcases Node.mem_groups_foldl (fun _ _ => rfl) h with hl | ⟨q, hq, hl⟩
      · exact ⟨p, hparts List.mem_cons_self, hl⟩
      · exact ⟨q, hparts (List.mem_cons_of_mem _ hq), hl⟩

theorem holds_turn (h : b.turn.Holds l) : b.Holds l := by
  rcases h with ⟨n, hn, hl⟩ | ⟨n, hn, -⟩
  · rcases List.mem_cons.mp hn with rfl | hn
    · exact .inr (mem_sequence hl)
    · exact .inl ⟨n, hn, hl⟩
  · cases hn

theorem holds_of_finish (h : l ∈ b.finish.value.groups) : b.Holds l := by
  unfold finish at h
  simp only at h
  cases hended : b.ended with
  | nil =>
      rw [hended] at h
      exact .inr (mem_sequence h)
  | cons m ms =>
      rw [hended] at h
      rcases Node.mem_groups_foldl (fun _ _ => rfl) h with hl | ⟨q, hq, hl⟩
      · exact .inr (mem_sequence hl)
      · exact .inl ⟨q, hended ▸ hq, hl⟩

end Branch

/-! ### Steps of the reader -/

namespace Reader

/-- What the reader can do to its groups: keep some of them, or open one more, with a name that is not
taken or none. -/
inductive Extends (r r' : Reader) : Prop where
  | kept (hholds : ∀ l, r'.Holds l → r.Holds l) (hnames : r'.names = r.names)
  | opened (name : Option String) (hholds : ∀ l, r'.Holds l → l = (r.count + 1, name) ∨ r.Holds l)
      (hnames : r'.names = name.toList ++ r.names) (hproper : ∀ n ∈ name, IsGroupName n)
      (hfresh : ∀ n ∈ name, n ∉ r.names)

variable {r r' : Reader} {t rest : Text}

theorem extends_push {n : Leveled Node} (hn : n.value.groups = []) : r.Extends (r.push n) := by
  refine .kept (fun l hl => ?_) rfl
  rcases hl with hl | hl
  · rcases Branch.holds_push hl with hl | hl
    · rw [hn] at hl
      cases hl
    · exact .inl hl
  · exact .inr hl

theorem extends_capture {name : Option String} (hproper : ∀ n ∈ name, IsGroupName n)
    (hfresh : ∀ n ∈ name, n ∉ r.names) : r.Extends (r.capture name) := by
  refine .opened name (fun l hl => ?_) rfl hproper hfresh
  rcases hl with hl | ⟨g, hg, hl⟩
  · exact absurd hl (Branch.not_holds_empty l)
  · rcases List.mem_cons.mp hg with rfl | hg
    · rcases hl with hl | hl
      · exact .inr (.inl hl)
      · exact .inl (Option.some.inj hl).symm
    · exact .inr (.inr ⟨g, hg, hl⟩)

/-- A name that was read is a proper one, and no group has it. -/
theorem of_readName {name : String} (h : r.readName t = .ok (name, rest)) :
    IsGroupName name ∧ name ∉ r.names := by
  unfold readName at h
  split at h
  · next c cs _ _ _ _ =>
      simp only at h
      split_ifs at h with hcheck
      cases h
      simp only [Bool.and_eq_true, Bool.not_eq_true', List.contains_eq_mem,
        decide_eq_false_iff_not] at hcheck
      exact ⟨⟨c, cs, rfl, hcheck.1.1⟩, hcheck.2⟩
  · cases h

theorem extends_named {name : String} (h : r.readName t = .ok (name, rest)) :
    r.Extends (r.capture (some name)) := by
  obtain ⟨hproper, hfresh⟩ := of_readName h
  exact extends_capture (by simpa using hproper) (by simpa using hfresh)

theorem extends_openGroup (h : r.openGroup t = .ok (r', rest)) : r.Extends r' := by
  unfold openGroup at h
  split at h
  · cases h
  · cases h
  · cases h
  · cases h
  · obtain ⟨⟨name, rest⟩, hname, h⟩ := exists_of_bind h
    cases h
    exact extends_named hname
  · obtain ⟨⟨name, rest⟩, hname, h⟩ := exists_of_bind h
    cases h
    exact extends_named hname
  · obtain ⟨⟨f, seen, ended, rest⟩, -, h⟩ := exists_of_bind h
    simp only at h
    split_ifs at h
    · -- a group that is not captured
      cases h
      refine .kept (fun l hl => ?_) rfl
      rcases hl with hl | ⟨g, hg, hl⟩
      · exact absurd hl (Branch.not_holds_empty l)
      · rcases List.mem_cons.mp hg with rfl | hg
        · rcases hl with hl | hl
          · exact .inl hl
          · cases hl
        · exact .inr ⟨g, hg, hl⟩
    · -- flags for what follows
      cases h
      refine .kept (fun l hl => ?_) rfl
      rcases hl with (hended | ⟨n, hn, hl⟩) | hl
      · exact .inl (.inl hended)
      · exact .inl (.inr ⟨n, List.mem_of_ne_of_mem (Option.some_ne_none n) hn, hl⟩)
      · exact .inr hl
  · cases h
    exact extends_capture (by simp) (by simp)

theorem extends_closeGroup (h : r.closeGroup = .ok r') : r.Extends r' := by
  unfold closeGroup at h
  cases hgroups : r.groups with
  | nil => rw [hgroups] at h; cases h
  | cons g gs =>
      simp only [hgroups] at h
      cases h
      refine .kept (fun l hl => ?_) rfl
      have hg : g ∈ r.groups := hgroups ▸ List.mem_cons_self
      rcases hl with hl | ⟨g', hg', hl⟩
      · rcases Branch.holds_push hl with hl | hl
        · -- the group itself, or one inside it
          cases hcapture : g.capture with
          | none =>
              rw [hcapture] at hl
              exact .inl (Branch.holds_of_finish hl)
          | some label =>
              rw [hcapture] at hl
              rcases List.mem_cons.mp hl with rfl | hl
              · exact .inr ⟨g, hg, .inr hcapture⟩
              · exact .inl (Branch.holds_of_finish hl)
        · exact .inr ⟨g, hg, .inl hl⟩
      · exact .inr ⟨g', hgroups ▸ List.mem_cons_of_mem _ hg', hl⟩

theorem extends_repeatLast {least : Nat} {most : Option Nat} {greedy : Bool}
    (h : r.repeatLast least most greedy = .ok r') : r.Extends r' := by
  unfold repeatLast at h
  split at h
  · next n items hitems =>
      cases h
      refine .kept (fun l hl => ?_) rfl
      rcases hl with (hended | ⟨m, hm, hl⟩) | hl
      · exact .inl (.inl hended)
      · refine .inl (.inr ?_)
        rw [hitems]
        rcases List.mem_cons.mp hm with heq | hm
        · cases heq
          exact ⟨n, List.mem_cons_self, Node.groups_repeated _ _ _ _ hl⟩
        · exact ⟨m, List.mem_cons_of_mem _ hm, hl⟩
      · exact .inr hl
  · cases h

theorem extends_repeated {least : Nat} {most : Option Nat} {greedy : Bool}
    (h : (r.repeatLast least most greedy >>= fun last => pure (last, t)) = .ok (r', rest)) :
    r.Extends r' := by
  obtain ⟨last, hlast, h⟩ := exists_of_bind h
  cases h
  exact extends_repeatLast hlast

theorem extends_repeatCount (h : r.repeatCount t = .ok (r', rest)) : r.Extends r' := by
  obtain ⟨⟨least, t⟩, -, h⟩ := exists_of_bind h
  simp only [pure_bind] at h
  split at h
  · split at h
    · exact extends_repeated (eq_ok_of_guard h)
    · obtain ⟨⟨most, t⟩, -, h⟩ := exists_of_bind h
      simp only at h
      split at h
      · exact extends_repeated (eq_ok_of_guard h)
      · cases h
  · split at h
    · exact extends_repeated (eq_ok_of_guard h)
    · cases h

/-- **A step of the reader adds at most one group.** -/
theorem step_extends {c : Char} (h : r.step c t = .ok (r', rest)) : r.Extends r' := by
  unfold step at h
  simp only at h
  split at h
  · exact extends_openGroup h
  · obtain ⟨r'', hclose, h⟩ := exists_of_bind h
    cases h
    exact extends_closeGroup hclose
  · cases h
    refine .kept (fun l hl => ?_) rfl
    rcases hl with hl | hl
    · exact .inl (Branch.holds_turn hl)
    · exact .inr hl
  · obtain ⟨s, -, h⟩ := exists_of_bind h
    cases h
    exact extends_push rfl
  · exact extends_repeated h
  · exact extends_repeated h
  · exact extends_repeated h
  · exact extends_repeatCount h
  · obtain ⟨s, -, h⟩ := exists_of_bind h
    cases h
    exact extends_push rfl
  · cases h
    exact extends_push rfl
  · cases h
    exact extends_push rfl
  · obtain ⟨p, -, h⟩ := exists_of_bind h
    obtain ⟨n, hn, h⟩ := exists_of_bind h
    cases h
    exact extends_push (Primitive.groups_node hn)
  · obtain ⟨n, hn, h⟩ := exists_of_bind h
    cases h
    exact extends_push (Primitive.groups_node hn)

/-! ### Runs of the reader -/

/-- The groups so far are counted and named as they should be, and their names are known. -/
structure Sound (r : Reader) : Prop where
  labelled : Labelled r.Holds
  known    : ∀ i name, r.Holds (i, some name) → name ∈ r.names

theorem sound_empty : Sound {} := by
  have hnone : ∀ l, ¬ Holds {} l := by simp [Holds, Branch.not_holds_empty]
  exact ⟨⟨fun l hl => absurd hl (hnone l), fun _ _ hl => absurd hl (hnone _),
    fun _ _ _ hl => absurd hl (hnone _)⟩, fun _ _ hl => absurd hl (hnone _)⟩

theorem Sound.of_extends (hr : r.Sound) (h : r.Extends r') : r'.Sound := by
  cases h with
  | kept hholds hnames =>
      exact ⟨hr.labelled.mono hholds, fun i name hl => hnames ▸ hr.known i name (hholds _ hl)⟩
  | opened name hholds hnames hproper hfresh =>
      refine ⟨(hr.labelled.insert (Nat.succ_pos _) hproper fun n hn j hl => ?_).mono hholds,
        fun i n hl => ?_⟩
      · exact hfresh n hn (hr.known j n hl)
      · rw [hnames]
        rcases hholds _ hl with heq | hl
        · cases heq
          exact List.mem_append_left _ List.mem_cons_self
        · exact List.mem_append_right _ (hr.known i n hl)

theorem Sound.run (hr : r.Sound) {n : Nat} (h : Reader.run n r t = .ok r') : r'.Sound := by
  fun_induction Reader.run n r t with
  | case1 n r t hblank =>
      cases h
      exact hr
  | case2 => cases h
  | case3 r t n c t' hblank ih =>
      obtain ⟨⟨next, rest⟩, hstep, h⟩ := exists_of_bind h
      exact ih next rest (hr.of_extends (step_extends hstep)) h

end Reader

/-- **The groups of an expression that was read** are counted from one, and each name belongs to one. -/
theorem labelled_of_ofText {source : Text} {r : Regex} (h : Regex.ofText source = .ok r) :
    Labelled (· ∈ r.root.groups) := by
  obtain ⟨root, hread, h⟩ := exists_of_bind h
  cases h
  obtain ⟨reader, hrun, h⟩ := exists_of_bind hread
  cases eq_ok_of_guard (eq_ok_of_guard (eq_ok_of_guard h))
  exact (Reader.sound_empty.run hrun).labelled.mono fun l hl => .inl (Branch.holds_of_finish hl)

end Regex

end Graft
