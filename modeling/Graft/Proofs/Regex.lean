import Graft.Proofs.Edit
import Graft.Regex

/-!
# Spans of matches

A search goes from thread to thread by moves.  A property of threads and one of groups that every move
keeps (`Regex.Invariant`) therefore hold of whatever the search comes to, and the second of the match
that it finds (`Regex.search_keeps`).  One lemma for each way to build moves shows what they keep
(`Regex.Node.moves_leads`).

* A search only ever records offsets of places that it has come to.  So the spans of a match and of
  its groups are spans of the text (`Regex.find?_recorded`, `Regex.findAll_recorded`): they start and
  end between characters, do not end before they start, and do not go past the end.
* A thread closes group 0 last, and has recorded nothing from before its own start.  So the groups of
  a match lie inside group 0, which is the whole match (`Regex.find?_enclosed`).
* A thread has taken a character when it comes to the next place.  So a match is empty only where the
  expression is done without taking one (`Regex.Cursor.In.find?_advanced`).
-/

namespace Graft

/-- Both ends of a span have the property `P`, they are in order, and neither is after `pos`. -/
structure Span.Recorded (P : Nat → Prop) (pos : Nat) (s : Span) : Prop where
  start_mem : P s.start
  stop_mem  : P s.stop
  ordered   : s.start ≤ s.stop
  stop_le   : s.stop ≤ pos

theorem Span.Recorded.later {P : Nat → Prop} {pos pos' : Nat} {s : Span} (h : s.Recorded P pos)
    (hle : pos ≤ pos') : s.Recorded P pos' :=
  ⟨h.start_mem, h.stop_mem, h.ordered, h.stop_le.trans hle⟩

namespace Regex

/-! ### What moves lead to -/

/-- The thread that a move goes on with has the property `T`, or the groups of a match that is done
have the property `B`. -/
def Move.Leads (T : Thread → Prop) (B : Groups → Prop) : Move → Prop
  | .eat _ rest g => T ⟨rest, g⟩
  | .done g       => B g

/-- What is left to match has the property `K`, and the groups so far have `G`. -/
def Thread.With (K : List Item → Prop) (G : Groups → Prop) (th : Thread) : Prop :=
  K th.rest ∧ G th.groups

/-- The properties stay with whatever a move at `p` puts in front of the items, and with the groups
that start and end there. -/
structure Place.Admits (p : Place) (K : List Item → Prop) (G : Groups → Prop) : Prop where
  run   : ∀ r k, K k → K (.run r :: k)
  close : ∀ index k, K k → K (.close index p.pos :: k)
  set   : ∀ index g, G g → G (g.set index ⟨p.pos, p.pos⟩)

namespace Move

variable {T : Thread → Prop} {B B' : Groups → Prop} {K : List Item → Prop} {G : Groups → Prop}

theorem andThen_leads {ms : List Move} {next : Groups → List Move} (hms : ∀ m ∈ ms, m.Leads T B)
    (hnext : ∀ g, B g → ∀ m ∈ next g, m.Leads T B') : ∀ m ∈ andThen ms next, m.Leads T B' := by
  induction ms with
  | nil => simp [andThen]
  | cons m ms ih =>
      obtain ⟨hfirst, hrest⟩ := List.forall_mem_cons.mp hms
      cases m with
      | eat s rest g => exact List.forall_mem_cons.mpr ⟨hfirst, ih hrest⟩
      | done g =>
          refine List.forall_mem_append.mpr ⟨hnext g hfirst, fun m hmem => ?_⟩
          obtain ⟨hmem, heat⟩ := List.mem_filter.mp hmem
          cases m with
          | eat s rest g => exact hrest _ hmem
          | done g => cases heat

/-- A body whose moves keep the properties. -/
def BodyLeads (K : List Item → Prop) (G : Groups → Prop) (body : List Item → Groups → List Move) :
    Prop :=
  ∀ k g, K k → G g → ∀ m ∈ body k g, m.Leads (Thread.With K G) G

theorem times_leads {p : Place} (h : p.Admits K G) {body : List Item → Groups → List Move}
    (hbody : BodyLeads K G body) (r : Node) (n : Nat) : BodyLeads K G (times body r n) := by
  intro k g hk hg
  induction n generalizing g with
  | zero => simpa [times, Move.Leads] using hg
  | succ n ih => exact andThen_leads (hbody _ g (h.run _ k hk) hg) ih

theorem upTo_leads {p : Place} (h : p.Admits K G) {body : List Item → Groups → List Move}
    (hbody : BodyLeads K G body) (greedy : Bool) (r : Node) (n : Nat) :
    BodyLeads K G (upTo body greedy r n) := by
  intro k g hk hg
  induction n generalizing g with
  | zero => simpa [upTo, Move.Leads] using hg
  | succ n ih =>
      have hturns := andThen_leads (hbody (.run (.upTo n greedy r) :: k) g (h.run _ k hk) hg) ih
      have hdone : (Move.done g).Leads (Thread.With K G) G := hg
      rw [upTo]
      split
      · exact List.forall_mem_append.mpr ⟨hturns, by simpa using hdone⟩
      · exact List.forall_mem_cons.mpr ⟨hdone, hturns⟩

end Move

/-- **The moves of an expression** keep what the place admits. -/
theorem Node.moves_leads {p : Place} {K : List Item → Prop} {G : Groups → Prop} (h : p.Admits K G)
    (r : Node) : Move.BodyLeads K G (r.moves p) := by
  induction r with
  | empty =>
      intro k g hk hg
      simpa [Node.moves, Move.Leads] using hg
  | chars s =>
      intro k g hk hg
      exact List.forall_mem_singleton.mpr ⟨hk, hg⟩
  | look l =>
      intro k g hk hg
      rw [Node.moves]
      split
      · simpa [Move.Leads] using hg
      · simp
  | cat a b iha ihb =>
      intro k g hk hg
      exact Move.andThen_leads (iha _ g (h.run b k hk) hg) fun g hg => ihb k g hk hg
  | alt a b iha ihb =>
      intro k g hk hg
      exact List.forall_mem_append.mpr ⟨iha k g hk hg, ihb k g hk hg⟩
  | plus greedy r ih =>
      intro k g hk hg
      exact ih _ g (h.run _ k hk) hg
  | loop greedy r ih =>
      intro k g hk hg
      have hturns : ∀ m ∈ (r.moves p (.run (.loop greedy r) :: k) g).filter Move.isEat,
          m.Leads (Thread.With K G) G :=
        fun m hm => ih _ g (h.run _ k hk) hg m (List.mem_of_mem_filter hm)
      have hdone : (Move.done g).Leads (Thread.With K G) G := hg
      rw [Node.moves]
      split
      · exact List.forall_mem_append.mpr ⟨hturns, by simpa using hdone⟩
      · exact List.forall_mem_cons.mpr ⟨hdone, hturns⟩
  | times n r ih => exact Move.times_leads h ih r n
  | upTo n greedy r ih => exact Move.upTo_leads h ih greedy r n
  | group index name r ih =>
      intro k g hk hg m hm
      obtain ⟨m, hinner, rfl⟩ := List.mem_map.mp hm
      have hleads := ih _ g (h.close index k hk) hg m hinner
      cases m with
      | eat s rest g => exact hleads
      | done g => exact h.set index g hleads

/-! ### Searches -/

/-- A property `T` of threads that have come to an offset, a property `E` of those that take the
character there, and a property `B` of groups, which a search for `root` keeps at every place with the
property `P`: those of a new thread's moves, those of the moves of a thread that has come there, and
those that hold at an earlier offset. -/
structure Invariant (root : Node) (P : Place → Prop) (T E : Nat → Thread → Prop)
    (B : Nat → Groups → Prop) : Prop where
  start  : ∀ p, P p → ∀ m ∈ Item.moves p [.run root] [], m.Leads (E p.pos) (B p.pos)
  move   : ∀ p th, P p → T p.pos th →
    ∀ m ∈ Item.moves p th.rest th.groups, m.Leads (E p.pos) (B p.pos)
  thread : ∀ pos pos' th, pos < pos' → E pos th → T pos' th
  groups : ∀ pos pos' g, pos ≤ pos' → B pos g → B pos' g

namespace Thread

variable {root : Node} {P : Place → Prop} {T E : Nat → Thread → Prop} {B : Nat → Groups → Prop}

theorem moves_lead (inv : Invariant root P T E B) {threads : List Thread} {best : Option Groups}
    {p : Place} (hp : P p) (hthreads : ∀ th ∈ threads, T p.pos th) :
    ∀ m ∈ Thread.moves root threads best p, m.Leads (E p.pos) (B p.pos) := by
  intro m hm
  obtain ⟨th, hth, hm⟩ := List.mem_flatMap.mp hm
  split at hth
  · rcases List.mem_append.mp hth with hth | hth
    · exact inv.move p th hp (hthreads th hth) m hm
    · rw [List.mem_singleton.mp hth] at hm
      exact inv.start p hp m hm
  · exact inv.move p th hp (hthreads th hth) m hm

theorem of_done? {T : Thread → Prop} {B : Groups → Prop} {ms : List Move}
    (hms : ∀ m ∈ ms, m.Leads T B) {g : Groups} (h : done? ms = some g) : B g := by
  obtain ⟨m, hm, hdone⟩ := List.exists_of_findSome?_eq_some h
  cases m with
  | eat s rest g => cases hdone
  | done g =>
      cases hdone
      exact hms _ hm

theorem of_best {T : Thread → Prop} {B : Groups → Prop} {ms : List Move} {best : Option Groups}
    (hms : ∀ m ∈ ms, m.Leads T B) (hbest : ∀ b, best = some b → B b) {g : Groups}
    (h : (done? ms <|> best) = some g) : B g := by
  cases hdone : done? ms with
  | none =>
      rw [hdone] at h
      exact hbest g h
  | some g' =>
      rw [hdone] at h
      cases h
      exact of_done? hms hdone

theorem mem_of_mem_distinct {kept threads : List Thread} {th : Thread}
    (h : th ∈ distinct kept threads) : th ∈ kept ∨ th ∈ threads := by
  induction threads generalizing kept with
  | nil => exact .inl (by simpa [distinct] using h)
  | cons u threads ih =>
      rw [distinct] at h
      split at h
      · rcases ih h with h | h
        · exact .inl h
        · exact .inr (List.mem_cons_of_mem _ h)
      · rcases ih h with h | h
        · rcases List.mem_cons.mp h with rfl | h
          · exact .inr List.mem_cons_self
          · exact .inl h
        · exact .inr (List.mem_cons_of_mem _ h)

theorem of_take {T : Thread → Prop} {B : Groups → Prop} {c : Char} {ms : List Move}
    (hms : ∀ m ∈ ms, m.Leads T B) : ∀ th ∈ take c ms, T th := by
  intro th hth
  rcases mem_of_mem_distinct hth with hth | hth
  · cases hth
  · obtain ⟨m, hm, htake⟩ := List.mem_filterMap.mp hth
    cases m with
    | done g => cases htake
    | eat s rest g =>
        simp only at htake
        split at htake
        · cases htake
          exact hms _ hm
        · cases htake

end Thread

/-- **A match has what every move of the search keeps.** -/
theorem search_keeps {root : Node} {P : Place → Prop} {T E : Nat → Thread → Prop}
    {B : Nat → Groups → Prop} (inv : Invariant root P T E B) {threads : List Thread}
    {best : Option Groups} {pos : Nat} {before : Option Char} {t : Text} {g : Groups}
    (hP : ∀ u v, t = u ++ v → P ⟨pos + Text.size u, u.getLast?.or before, v.head?⟩)
    (hthreads : ∀ th ∈ threads, T pos th) (hbest : ∀ b, best = some b → B pos b)
    (h : search root threads best pos before t = some g) : B (pos + Text.size t) g := by
  induction t generalizing threads best pos before with
  | nil =>
      have hmoves : ∀ m ∈ Thread.moves root threads best ⟨pos, before, none⟩,
          m.Leads (E pos) (B pos) := Thread.moves_lead inv (hP [] [] rfl) hthreads
      exact Thread.of_best hmoves hbest h
  | cons c t ih =>
      have hmoves : ∀ m ∈ Thread.moves root threads best ⟨pos, before, some c⟩,
          m.Leads (E pos) (B pos) := Thread.moves_lead inv (hP [] (c :: t) rfl) hthreads
      have hnext : pos < pos + c.utf8Size := Nat.lt_add_of_pos_right c.utf8Size_pos
      rw [search] at h
      split at h
      · exact inv.groups _ _ g (Nat.le_add_right _ _) (Thread.of_best hmoves hbest h)
      · rw [Text.add_size_cons]
        refine ih (fun u v huv => ?_) (fun th hth => ?_) (fun b hb => ?_) h
        · have hplace := hP (c :: u) v (by rw [huv, List.cons_append])
          have hlast : (c :: u).getLast?.or before = u.getLast?.or (some c) := by
            rw [List.getLast?_cons]
            cases u.getLast? <;> rfl
          rwa [Text.add_size_cons, hlast] at hplace
        · have htaken : ∀ m ∈ (Thread.moves root threads best ⟨pos, before, some c⟩).takeWhile
              Move.isEat, m.Leads (E pos) (B pos) :=
            fun m hm => hmoves m ((List.takeWhile_sublist _).subset hm)
          exact inv.thread _ _ th hnext (Thread.of_take htaken th hth)
        · exact inv.groups _ _ b hnext.le (Thread.of_best hmoves hbest hb)

/-! ### What is recorded at a place -/

section Recorded

variable {P : Nat → Prop} {pos pos' : Nat}

/-- All groups have recorded spans. -/
def Groups.Recorded (P : Nat → Prop) (pos : Nat) (g : Groups) : Prop := ∀ x ∈ g, x.2.Recorded P pos

/-- All groups that are still open have started at places with the property. -/
def Item.Recorded (P : Nat → Prop) (pos : Nat) : Item → Prop
  | .run _         => True
  | .close _ start => P start ∧ start ≤ pos

/-- What a thread has recorded so far. -/
def Thread.Recorded (P : Nat → Prop) (pos : Nat) (th : Thread) : Prop :=
  (∀ i ∈ th.rest, i.Recorded P pos) ∧ th.groups.Recorded P pos

theorem Groups.Recorded.later {g : Groups} (h : g.Recorded P pos) (hle : pos ≤ pos') :
    g.Recorded P pos' :=
  fun x hx => (h x hx).later hle

theorem Item.Recorded.later {i : Item} (h : i.Recorded P pos) (hle : pos ≤ pos') :
    i.Recorded P pos' := by
  cases i with
  | run r => trivial
  | close index start => exact ⟨h.1, h.2.trans hle⟩

theorem Thread.Recorded.later {th : Thread} (h : th.Recorded P pos) (hle : pos ≤ pos') :
    th.Recorded P pos' :=
  ⟨fun i hi => (h.1 i hi).later hle, h.2.later hle⟩

theorem Groups.recorded_nil : Groups.Recorded P pos [] := by simp [Groups.Recorded]

theorem Groups.Recorded.set {g : Groups} (h : g.Recorded P pos) (index : Nat) {s : Span}
    (hs : s.Recorded P pos) : (g.set index s).Recorded P pos := by
  intro x hx
  rcases List.mem_cons.mp hx with rfl | hx
  · exact hs
  · exact h x (List.mem_of_mem_filter hx)

theorem Groups.Recorded.get? {g : Groups} (h : g.Recorded P pos) {index : Nat} {s : Span}
    (hs : g.get? index = some s) : s.Recorded P pos := by
  obtain ⟨before, after, rfl, -⟩ := List.lookup_eq_some_iff.mp hs
  exact h (index, s) (by simp)

/-- Moves record the place they are made at, and nothing else. -/
theorem Place.admits_recorded {p : Place} (hp : P p.pos) :
    p.Admits (fun k => ∀ i ∈ k, i.Recorded P p.pos) (Groups.Recorded P p.pos) where
  run   := fun _ _ hk => List.forall_mem_cons.mpr ⟨trivial, hk⟩
  close := fun _ _ hk => List.forall_mem_cons.mpr ⟨⟨hp, le_rfl⟩, hk⟩
  set   := fun index _ hg => hg.set index ⟨hp, hp, le_rfl, le_rfl⟩

theorem Item.moves_recorded {p : Place} (hp : P p.pos) {k : List Item} {g : Groups}
    (hk : ∀ i ∈ k, i.Recorded P p.pos) (hg : g.Recorded P p.pos) :
    ∀ m ∈ Item.moves p k g, m.Leads (Thread.Recorded P p.pos) (Groups.Recorded P p.pos) := by
  induction k generalizing g with
  | nil => simpa [Item.moves, Move.Leads] using hg
  | cons i k ih =>
      obtain ⟨hfirst, hrest⟩ := List.forall_mem_cons.mp hk
      cases i with
      | run r =>
          exact Move.andThen_leads (r.moves_leads (Place.admits_recorded hp) k g hrest hg)
            fun g hg => ih hrest hg
      | close index start => exact ih hrest (hg.set index ⟨hfirst.1, hp, hfirst.2, le_rfl⟩)

/-- **A search records offsets of places it has come to.** -/
theorem invariant_recorded (root : Node) :
    Invariant root (fun p => P p.pos) (Thread.Recorded P) (Thread.Recorded P) (Groups.Recorded P) where
  start  := fun _ hp => Item.moves_recorded hp (by simp [Item.Recorded]) Groups.recorded_nil
  move   := fun _ _ hp hth => Item.moves_recorded hp hth.1 hth.2
  thread := fun _ _ _ hlt hth => hth.later hlt.le
  groups := fun _ _ _ hle hg => hg.later hle

end Recorded

/-! ### Groups inside the match -/

/-- Group 0 took part, and all groups lie inside it. -/
def Groups.Enclosed (g : Groups) : Prop :=
  ∃ s, g.get? 0 = some s ∧ g.Recorded (s.start ≤ ·) s.stop

/-- Group 0 is the span from `first` to `pos`, and all groups lie inside it. -/
structure Groups.Spans (first pos : Nat) (g : Groups) : Prop where
  whole  : g.whole = ⟨first, pos⟩
  inside : g.Enclosed

/-- The match of `r` took a character, or else `r` was done at a place with the property `P`, where the
match started. -/
def Groups.Advanced (P : Place → Prop) (r : Node) (g : Groups) : Prop :=
  g.whole.start < g.whole.stop ∨ ∃ p, P p ∧ g.whole = ⟨p.pos, p.pos⟩ ∧
    ∃ g', .done g' ∈ r.moves p [.close 0 p.pos] []

/-- What is left of a match that has started at `first`: the end of group 0 comes last, and no group
was open before. -/
def Item.Ends (first pos : Nat) (k : List Item) : Prop :=
  (∀ i ∈ k, i.Recorded (first ≤ ·) pos) ∧ k.getLast? = some (.close 0 first)

/-- A thread that has started at `first`. -/
def Thread.StartedAt (first pos : Nat) : Thread → Prop :=
  Thread.With (Item.Ends first pos) (Groups.Recorded (first ≤ ·) pos)

variable {first pos : Nat}

theorem Groups.get?_set (g : Groups) (index : Nat) (s : Span) : (g.set index s).get? index = some s :=
  List.lookup_cons_self

theorem Groups.Recorded.spans {g : Groups} (h : g.Recorded (first ≤ ·) pos) (hle : first ≤ pos) :
    (g.set 0 ⟨first, pos⟩).Spans first pos where
  whole  := by rw [Groups.whole, g.get?_set 0, Option.getD_some]
  inside := ⟨⟨first, pos⟩, g.get?_set 0 _, h.set 0 ⟨le_rfl, hle, hle, le_rfl⟩⟩

theorem Item.Ends.cons {k : List Item} (h : Item.Ends first pos k) {i : Item}
    (hi : i.Recorded (first ≤ ·) pos) : Item.Ends first pos (i :: k) :=
  ⟨List.forall_mem_cons.mpr ⟨hi, h.1⟩, by rw [List.getLast?_cons, h.2, Option.getD_some]⟩

/-- All but the end of group 0 have another end after them. -/
theorem Item.Ends.of_cons {i : Item} {k : List Item} (h : Item.Ends first pos (i :: k)) :
    Item.Ends first pos k ∨ i = .close 0 first ∧ k = [] := by
  obtain ⟨hrecorded, hlast⟩ := h
  cases k with
  | nil => exact .inr ⟨Option.some.inj hlast, rfl⟩
  | cons j k => exact .inl ⟨(List.forall_mem_cons.mp hrecorded).2, hlast⟩

theorem Place.admits_ends {p : Place} (hle : first ≤ p.pos) :
    p.Admits (Item.Ends first p.pos) (Groups.Recorded (first ≤ ·) p.pos) where
  run   := fun _ _ hk => hk.cons trivial
  close := fun _ _ hk => hk.cons ⟨hle, le_rfl⟩
  set   := fun index _ hg => hg.set index ⟨hle, hle, le_rfl, le_rfl⟩

/-- A match is done once group 0 is closed, and not before. -/
theorem Item.moves_ends {p : Place} (hle : first ≤ p.pos) {k : List Item} {g : Groups}
    (hk : Item.Ends first p.pos k) (hg : g.Recorded (first ≤ ·) p.pos) :
    ∀ m ∈ Item.moves p k g, m.Leads (Thread.StartedAt first p.pos) (Groups.Spans first p.pos) := by
  induction k generalizing g with
  | nil => cases hk.2
  | cons i k ih =>
      cases i with
      | run r =>
          rcases hk.of_cons with hrest | ⟨heq, -⟩
          · exact Move.andThen_leads (r.moves_leads (Place.admits_ends hle) k g hrest hg)
              fun g hg => ih hrest hg
          · cases heq
      | close index start =>
          have hstart : first ≤ start ∧ start ≤ p.pos := hk.1 _ List.mem_cons_self
          rcases hk.of_cons with hrest | ⟨heq, rfl⟩
          · exact ih hrest (hg.set index ⟨hstart.1, hle, hstart.2, le_rfl⟩)
          · cases heq
            exact List.forall_mem_singleton.mpr (hg.spans hle)

/-- A new thread starts where it is, and opens group 0 there.  If it is done at once, then so is the
expression. -/
theorem Item.moves_start (p : Place) (r : Node) :
    ∀ m ∈ Item.moves p [.run (.group 0 none r)] [], m.Leads (Thread.StartedAt p.pos p.pos)
      (fun g => g.Spans p.pos p.pos ∧ ∃ g', .done g' ∈ r.moves p [.close 0 p.pos] []) := by
  have hends : Item.Ends p.pos p.pos [.close 0 p.pos] := ⟨by simp [Item.Recorded], rfl⟩
  have hinner := r.moves_leads (Place.admits_ends le_rfl) _ [] hends Groups.recorded_nil
  refine Move.andThen_leads (fun m hm => ?_) fun g hg => List.forall_mem_singleton.mpr hg
  obtain ⟨m, hmem, rfl⟩ := List.mem_map.mp hm
  have hleads := hinner m hmem
  cases m with
  | eat s rest g => exact hleads
  | done g => exact ⟨Groups.Recorded.spans hleads le_rfl, g, hmem⟩

/-- **A thread closes group 0 last**, and has come further by then than where it started. -/
theorem invariant_enclosed (P : Place → Prop) (r : Node) :
    Invariant (.group 0 none r) P (fun pos th => ∃ first, first < pos ∧ th.StartedAt first pos)
      (fun pos th => ∃ first, first ≤ pos ∧ th.StartedAt first pos)
      (fun _ g => g.Enclosed ∧ g.Advanced P r) where
  start p hp m hm := by
    have hleads := Item.moves_start p r m hm
    cases m with
    | eat s rest g => exact ⟨p.pos, le_rfl, hleads⟩
    | done g => exact ⟨hleads.1.inside, .inr ⟨p, hp, hleads.1.whole, hleads.2⟩⟩
  move p th _ hth m hm := by
    obtain ⟨first, hlt, hends, hg⟩ := hth
    have hleads := Item.moves_ends hlt.le hends hg m hm
    cases m with
    | eat s rest g => exact ⟨first, hlt.le, hleads⟩
    | done g => exact ⟨hleads.inside, .inl (by rw [hleads.whole]; exact hlt)⟩
  thread pos pos' th hlt hth := by
    obtain ⟨first, hfirst, ⟨hitems, hlast⟩, hg⟩ := hth
    exact ⟨first, hfirst.trans_lt hlt,
      ⟨fun i hi => (hitems i hi).later hlt.le, hlast⟩, hg.later hlt.le⟩
  groups _ _ _ _ hg := hg

/-! ### Matches of a text -/

/-- The place is one of the text. -/
def Place.In (t : Text) (p : Place) : Prop :=
  ∃ u v, t = u ++ v ∧ p = ⟨Text.size u, u.getLast?, v.head?⟩

theorem Place.In.isBoundary {t : Text} {p : Place} (h : p.In t) :
    Text.isBoundary t p.pos = true := by
  obtain ⟨u, v, htext, rfl⟩ := h
  exact Text.isBoundary_iff.mpr ⟨u, v, htext, rfl⟩

namespace Cursor

/-- The cursor stands in the text. -/
def In (t : Text) (c : Cursor) : Prop :=
  ∃ u, t = u ++ c.rest ∧ Text.size u = c.pos ∧ u.getLast? = c.before

theorem in_ofText (t : Text) : (ofText t).In t := ⟨[], rfl, rfl, rfl⟩

theorem In.next? {t : Text} {c c' : Cursor} (h : c.In t) (hnext : c.next? = some c') : c'.In t := by
  obtain ⟨u, htext, hpos, -⟩ := h
  unfold Cursor.next? at hnext
  cases hrest : c.rest with
  | nil => rw [hrest] at hnext; cases hnext
  | cons a rest =>
      rw [hrest] at hnext htext
      cases hnext
      exact ⟨u ++ [a], by simp [htext], by simp [Text.size, hpos], List.getLast?_concat⟩

theorem in_seek {t u rest : Text} {n : Nat} (htext : t = u ++ rest) :
    (seek n (Text.size u) u.getLast? rest).In t := by
  induction rest generalizing u with
  | nil => exact ⟨u, htext, rfl, rfl⟩
  | cons a rest ih =>
      rw [seek]
      split
      · exact ⟨u, htext, rfl, rfl⟩
      · have hsize : Text.size u + a.utf8Size = Text.size (u ++ [a]) := by simp [Text.size]
        have hlast : some a = (u ++ [a]).getLast? := List.getLast?_concat.symm
        rw [hsize, hlast]
        exact ih (by simp [htext])

/-- What is ahead of a cursor are places of the text. -/
theorem In.place {t : Text} {c : Cursor} (h : c.In t) {u v : Text} (hrest : c.rest = u ++ v) :
    Place.In t ⟨c.pos + Text.size u, u.getLast?.or c.before, v.head?⟩ := by
  obtain ⟨w, htext, hpos, hbefore⟩ := h
  refine ⟨w ++ u, v, by rw [htext, hrest, List.append_assoc], ?_⟩
  rw [Text.size_append, hpos, List.getLast?_append, hbefore]

/-- A match that is found from a place in a text has the spans of one. -/
theorem In.find?_recorded {t : Text} {c : Cursor} (h : c.In t) {root : Node} {g : Groups}
    (hg : c.find? root = some g) :
    g.Recorded (fun n => Text.isBoundary t n = true) (Text.size t) := by
  have hend : c.pos + Text.size c.rest = Text.size t := by
    obtain ⟨u, htext, hpos, -⟩ := h
    rw [htext, Text.size_append, hpos]
  rw [← hend]
  exact search_keeps (invariant_recorded _) (fun _ _ huv => (h.place huv).isBoundary) (by simp)
    (by simp) hg

/-- A match lies around its groups, and takes a character unless the expression is done at its place. -/
theorem In.find?_advanced {t : Text} {c : Cursor} (h : c.In t) {root : Node} {g : Groups}
    (hg : c.find? root = some g) : g.Enclosed ∧ g.Advanced (Place.In t) root :=
  search_keeps (invariant_enclosed _ root) (fun _ _ huv => h.place huv) (by simp) (by simp) hg

/-- **Each of all matches is found from some place of the text.** -/
theorem In.exists_find? {t : Text} {c : Cursor} (h : c.In t) {root : Node} {n : Nat}
    {last : Option Nat} {g : Groups} (hg : g ∈ findAll root n last c) :
    ∃ c' : Cursor, c'.In t ∧ c'.find? root = some g := by
  induction n generalizing last c with
  | zero => cases hg
  | succ n ih =>
      rw [findAll] at hg
      simp only at hg
      split at hg
      · cases hg
      · next found hfound =>
          rcases List.mem_cons.mp hg with rfl | hg
          · obtain ⟨g', hg', hfound⟩ := Option.bind_eq_some_iff.mp hfound
            split at hfound
            · -- an empty match where the last one ended: the search starts one character later
              obtain ⟨c', hc', hfound⟩ := Option.bind_eq_some_iff.mp hfound
              exact ⟨c', h.next? hc', hfound⟩
            · cases hfound
              exact ⟨c, h, hg'⟩
          · obtain ⟨u, htext, hpos, hbefore⟩ := h
            rw [← hpos, ← hbefore] at hg
            exact ih (in_seek htext) hg

end Cursor

/-- **The spans of a match** are spans of the text. -/
theorem find?_recorded {r : Regex} {t : Text} {g : Groups} (h : r.find? t = some g) :
    g.Recorded (fun n => Text.isBoundary t n = true) (Text.size t) :=
  (Cursor.in_ofText t).find?_recorded h

/-- **The spans of all matches** are spans of the text. -/
theorem findAll_recorded {r : Regex} {t : Text} {g : Groups} (h : g ∈ r.findAll t) :
    g.Recorded (fun n => Text.isBoundary t n = true) (Text.size t) := by
  obtain ⟨c, hc, hg⟩ := (Cursor.in_ofText t).exists_find? h
  exact hc.find?_recorded hg

/-- So is the span of the whole match. -/
theorem Groups.Recorded.whole {t : Text} {g : Groups}
    (h : g.Recorded (fun n => Text.isBoundary t n = true) (Text.size t)) :
    g.whole.Recorded (fun n => Text.isBoundary t n = true) (Text.size t) := by
  unfold Groups.whole
  cases hg : g.get? 0 with
  | none =>
      have hzero : Text.isBoundary t 0 = true := Text.isBoundary_iff.mpr ⟨[], t, rfl, rfl⟩
      exact ⟨hzero, hzero, le_rfl, Nat.zero_le _⟩
  | some s => exact h.get? hg

/-- **The groups of a match** lie inside it. -/
theorem find?_enclosed {r : Regex} {t : Text} {g : Groups} (h : r.find? t = some g) {index : Nat}
    {s : Span} (hs : g.get? index = some s) :
    g.whole.start ≤ s.start ∧ s.start ≤ s.stop ∧ s.stop ≤ g.whole.stop := by
  obtain ⟨⟨whole, hwhole, hrecorded⟩, -⟩ := (Cursor.in_ofText t).find?_advanced h
  have hinside := hrecorded.get? hs
  rw [Groups.whole, hwhole, Option.getD_some]
  exact ⟨hinside.start_mem, hinside.ordered, hinside.stop_le⟩

end Regex

end Graft
