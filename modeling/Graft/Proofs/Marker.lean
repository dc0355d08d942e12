import Graft.Proofs.Window

/-!
# What a marker tells

A marker looks at occurrences of its identifier that do not overlap, and at the lines around each.
Nothing is lost by that if the identifier is a literal on one line: an occurrence that is passed over
begins inside one that is not (`Text.exists_occurrence_before`), hence on the same line, and has the
same lines around it (`Marker.nearby_around`).

* `Marker.evaluate_iff_occurs`: so the marker holds exactly when some occurrence has its context
  nearby, whether it overlaps another or not.
* `Marker.evaluate_widen`: context that is literal stays found when there are more lines to find it in
  (`Anchor.isSome_findIn_widen`), so a marker that holds does so with a wider window and with less
  context.
-/

namespace Graft

/-! ### Occurrences of a literal -/

namespace Text

/-- The literal stands at a byte offset. -/
def OccursAt (needle t : Text) (pos : Nat) : Prop := slice? t pos (pos + size needle) = some needle

theorem occursAt_iff {needle t : Text} {pos : Nat} :
    OccursAt needle t pos ↔ ∃ u v, t = u ++ needle ++ v ∧ size u = pos := by
  rw [OccursAt, slice?_eq_some_iff]
  constructor
  · rintro ⟨u, v, htext, hpos, -⟩
    exact ⟨u, v, htext, hpos⟩
  · rintro ⟨u, v, htext, hpos⟩
    exact ⟨u, v, htext, hpos, rfl⟩

/-- The literal stands at a byte offset of a region, and none of it outside. -/
structure OccursIn (needle t : Text) (region : Span) (pos : Nat) : Prop where
  start_le : region.start ≤ pos
  stop_le  : pos + size needle ≤ region.stop
  occurs   : needle.OccursAt t pos

/-- **An occurrence that is not counted overlaps one that is**: one is counted at it, or fewer
characters before it than the literal has. -/
theorem exists_occurrence_before {needle u : Text} (v : Text) (hne : needle ≠ []) (pos : Nat)
    {skip : Nat} (hskip : skip ≤ u.length) :
    ∃ a b, u = a ++ b ∧ b.length < needle.length ∧
      pos + size a ∈ occurrencesFrom needle pos skip (u ++ needle ++ v) := by
  have hlength : 0 < needle.length := List.length_pos_iff.mpr hne
  induction u generalizing pos skip with
  | nil =>
      obtain ⟨c, rest, rfl⟩ := List.exists_cons_of_ne_nil hne
      cases Nat.le_zero.mp hskip
      refine ⟨[], [], rfl, hlength, ?_⟩
      have hhere : (c :: rest).isPrefixOf (c :: (rest ++ v)) = true :=
        List.isPrefixOf_iff_prefix.mpr (List.prefix_append (c :: rest) v)
      rw [List.nil_append, List.cons_append, occurrencesFrom, if_pos hhere]
      exact List.mem_cons_self
  | cons c u ih =>
      -- one that is counted further on
      have hlater : ∀ skip ≤ u.length, ∃ a b, c :: u = a ++ b ∧ b.length < needle.length ∧
          pos + size a ∈ occurrencesFrom needle (pos + c.utf8Size) skip (u ++ needle ++ v) := by
        intro skip hskip
        obtain ⟨a, b, rfl, hb, hmem⟩ := ih (pos + c.utf8Size) hskip
        exact ⟨c :: a, b, rfl, hb, by rwa [add_size_cons]⟩
      rw [List.cons_append, List.cons_append]
      cases skip with
      | succ skip => exact hlater skip (Nat.le_of_succ_le_succ hskip)
      | zero =>
          rw [occurrencesFrom]
          split
          · rcases Nat.lt_or_ge u.length (needle.length - 1) with hlt | hge
            · -- the one that is counted here reaches as far as the other one
              refine ⟨[], c :: u, rfl, ?_, List.mem_cons_self⟩
              rw [List.length_cons]
              omega
            · obtain ⟨a, b, hab, hb, hmem⟩ := hlater _ hge
              exact ⟨a, b, hab, hb, List.mem_cons_of_mem _ hmem⟩
          · exact hlater 0 (Nat.zero_le _)

/-- What stands between two overlapping occurrences is the beginning of the literal. -/
theorem prefix_of_overlap {needle a b v a' v' : Text} (h : a ++ b ++ needle ++ v = a' ++ needle ++ v')
    (hsize : size a = size a') (hb : b.length < needle.length) : b <+: needle := by
  rw [List.append_assoc, List.append_assoc, List.append_assoc] at h
  obtain ⟨x, rfl, hrest⟩ := append_eq_of_size_le h hsize.le
  have hx : x = [] := size_eq_zero_iff.mp (by rw [size_append] at hsize; omega)
  rw [hx, List.nil_append] at hrest
  exact List.prefix_of_prefix_length_le ⟨_, hrest⟩ (List.prefix_append _ _) hb.le

theorem contains_iff {needle t : Text} : contains needle t = true ↔ needle <:+: t := by
  constructor
  · intro h
    obtain ⟨i, hi⟩ := Option.isSome_iff_exists.mp h
    obtain ⟨u, v, htext, -⟩ := exists_of_indexOf? hi
    exact ⟨u, v, htext.symm⟩
  · rintro ⟨u, v, rfl⟩
    unfold contains
    induction u with
    | nil =>
        cases needle with
        | nil => cases v <;> simp [indexOf?]
        | cons c needle =>
            rw [List.nil_append, List.cons_append, indexOf?, if_pos]
            · rfl
            · exact List.isPrefixOf_iff_prefix.mpr (List.prefix_append (c :: needle) v)
    | cons c u ih =>
        rw [List.cons_append, List.cons_append, indexOf?]
        split
        · rfl
        · rwa [Option.isSome_map]

end Text

/-! ### The lines around an occurrence -/

namespace Document

variable {d : Document}

theorem feedsFrom_eq_nil {pos : Nat} {t : Text} (h : '\n' ∉ t) : feedsFrom pos t = [] := by
  rw [List.eq_nil_iff_forall_not_mem]
  intro x hx
  obtain ⟨u, v, rfl, -⟩ := exists_of_mem_feedsFrom hx
  exact h (by simp)

/-- A text without a line feed is on one line, from its start to its end. -/
theorem lineIndex_of_no_feed {pre mid post : Text} (htext : d.text = pre ++ mid ++ post)
    (hfeed : '\n' ∉ mid) {x : Nat} (hle : Text.size pre ≤ x)
    (hge : x ≤ Text.size pre + Text.size mid) : d.lineIndex x = d.lineIndex (Text.size pre) := by
  rw [lineIndex_eq, lineIndex_eq]
  refine List.countP_congr fun y hy => ?_
  rw [startsAfter_eq, List.mem_filter, htext, feedsFrom_append, feedsFrom_append,
    feedsFrom_eq_nil hfeed, List.append_nil, List.mem_append] at hy
  simp only [decide_eq_true_eq]
  rcases hy.1 with hbefore | hafter
  · have := bounds_of_mem_feedsFrom hbefore
    omega
  · have := bounds_of_mem_feedsFrom hafter
    rw [Text.size_append] at this
    omega

/-- `near` are the bytes of the region on the lines that are at most `reach` lines away from the line
of `offset`. -/
structure Nearby (d : Document) (region : Span) (offset reach : Nat) (near : Span) : Prop where
  stop_le : near.stop ≤ d.size
  mem_iff : ∀ x < d.size, near.start ≤ x ∧ x < near.stop ↔
    (region.start ≤ x ∧ x < region.stop) ∧
      d.lineIndex offset ≤ d.lineIndex x + reach ∧ d.lineIndex x ≤ d.lineIndex offset + reach

variable {region near near' : Span} {offset offset' reach : Nat}

theorem Nearby.of_lineIndex (h : d.Nearby region offset reach near)
    (hline : d.lineIndex offset' = d.lineIndex offset) : d.Nearby region offset' reach near :=
  ⟨h.stop_le, by rw [hline]; exact h.mem_iff⟩

/-- There is only one such span, as the offset itself is nearby. -/
theorem Nearby.unique (h : d.Nearby region offset reach near) (h' : d.Nearby region offset reach near')
    (hstart : region.start ≤ offset) (hstop : offset < region.stop) (hsize : offset < d.size) :
    near = near' := by
  have hself : ∀ {s}, d.Nearby region offset reach s → s.start ≤ offset ∧ offset < s.stop := fun hs =>
    (hs.mem_iff offset hsize).mpr ⟨⟨hstart, hstop⟩, Nat.le_add_right _ _, Nat.le_add_right _ _⟩
  -- the first byte of either is one of the other, and so is the last
  have hle : ∀ {s s'}, d.Nearby region offset reach s → d.Nearby region offset reach s' →
      s'.start ≤ s.start ∧ s.stop ≤ s'.stop := by
    intro s s' hs hs'
    have hmem := hself hs
    have hend := hs.stop_le
    have hfirst := (hs'.mem_iff s.start (by omega)).mpr
      ((hs.mem_iff s.start (by omega)).mp ⟨le_rfl, by omega⟩)
    have hlast := (hs'.mem_iff (s.stop - 1) (by omega)).mpr
      ((hs.mem_iff (s.stop - 1) (by omega)).mp ⟨by omega, by omega⟩)
    omega
  obtain ⟨hstart₁, hstop₁⟩ := hle h h'
  obtain ⟨hstart₂, hstop₂⟩ := hle h' h
  cases near
  cases near'
  simp only [Span.mk.injEq]
  exact ⟨le_antisymm hstart₂ hstart₁, le_antisymm hstop₁ hstop₂⟩

end Document

/-! ### Searches in a wider range -/

namespace Document

theorem clip_of_spanText {d : Document} {range : Span} {t : Text} (h : d.spanText range = .ok t) :
    d.clip range = some (range.start, t) := by
  have hle : range.stop ≤ d.size := Text.le_size_of_isBoundary (isBoundary_of_spanText h).2
  rw [clip, Nat.min_eq_left hle, spanText_eq_ok_iff_slice?.mp h]
  rfl

end Document

namespace Anchor

variable {a : Anchor} {needle : Text} {d : Document}

theorem isSome_findIn_literal (ha : a.pattern = .literal needle) (range : Span) :
    (a.findIn d range).isSome = true ↔
      ∃ t, Text.slice? d.text range.start (min range.stop d.size) = some t ∧ needle <:+: t := by
  rw [isSome_findIn, Document.clip, ha]
  cases Text.slice? d.text range.start (min range.stop d.size) with
  | none => simp
  | some t => simp [Pattern.occursIn, Text.contains_iff]

/-- **A literal that is found in a range is found in any wider one.** -/
theorem isSome_findIn_widen (ha : a.pattern = .literal needle) {range range' : Span}
    (hstart : range'.start ≤ range.start) (hstop : range.stop ≤ range'.stop)
    (hfirst : Text.isBoundary d.text range'.start = true)
    (hlast : Text.isBoundary d.text range'.stop = true) (h : (a.findIn d range).isSome = true) :
    (a.findIn d range').isSome = true := by
  obtain ⟨t, hslice, hinfix⟩ := (isSome_findIn_literal ha range).mp h
  obtain ⟨pre, post, htext, hpre, ht⟩ := Text.slice?_eq_some_iff.mp hslice
  obtain ⟨t', hspan⟩ := Text.slice?_of_isBoundary hfirst hlast (by omega)
  obtain ⟨pre', post', htext', hpre', ht'⟩ := Text.slice?_eq_some_iff.mp hspan
  have hsize : range'.stop ≤ d.size := Text.le_size_of_isBoundary hlast
  refine (isSome_findIn_literal ha range').mpr ⟨t', by rwa [Nat.min_eq_left hsize], hinfix.trans ?_⟩
  obtain ⟨u, v, -, rfl, -⟩ := Text.exists_sides (htext.symm.trans htext') (by omega) (by omega)
  exact List.infix_append u t v

end Anchor

/-! ### Regions -/

namespace Marker

/-- The region that a marker looks in: the document, or from the scope's anchor to the end of the
block that opens at or after it. -/
def Covers (m : Marker) (d : Document) (region : Span) : Prop :=
  match m.scope with
  | none       => region = d.whole
  | some scope => ∃ o b, scope.find d = some o ∧
      Block.find d.text ⟨o.span.start, d.size⟩ .any = .ok b ∧ region = ⟨o.span.start, b.closing + 1⟩

/-- The scope of a marker is not there: its anchor is nowhere, or no block closes after it. -/
def Unscoped (m : Marker) (d : Document) : Prop :=
  ∃ scope, m.scope = some scope ∧ (scope.find d = none ∨
    ∃ o why, scope.find d = some o ∧ Block.find d.text ⟨o.span.start, d.size⟩ .any = .error why)

variable {m : Marker} {d : Document} {region : Span}

theorem region_eq_ok_iff : m.region d = .ok region ↔ m.Covers d region := by
  unfold Marker.region Covers
  cases m.scope with
  | none => simp [eq_comm]
  | some scope =>
      cases hfind : scope.find d with
      | none => simp [hfind]
      | some o =>
          cases hblock : Block.find d.text ⟨o.span.start, d.size⟩ .any with
          | error why => simp [hfind, hblock]
          | ok b => simp [hfind, hblock, eq_comm]

theorem exists_region_error_iff : (∃ why, m.region d = .error why) ↔ m.Unscoped d := by
  unfold Marker.region Unscoped
  cases m.scope with
  | none => simp
  | some scope =>
      cases hfind : scope.find d with
      | none => simp [hfind]
      | some o =>
          cases hblock : Block.find d.text ⟨o.span.start, d.size⟩ .any with
          | error why => simp [hfind, hblock]
          | ok b => simp [hfind, hblock]

/-- A region is a span of the document. -/
theorem Covers.exists_spanText (h : m.Covers d region) : ∃ t, d.spanText region = .ok t := by
  unfold Covers at h
  split at h
  · subst h
    exact ⟨d.text, Document.spanText_eq_ok_iff.mpr ⟨[], [], by simp, rfl, Nat.zero_add _⟩⟩
  · obtain ⟨o, b, -, hblock, rfl⟩ := h
    obtain ⟨pre, mid, hpiece, hpre, hstop⟩ := Block.find_piece hblock
    obtain ⟨post, htext⟩ := hpiece.text
    exact ⟨mid, Document.spanText_eq_ok_iff.mpr ⟨pre, post, htext, hpre, by rw [← hpre, hstop]⟩⟩

theorem evaluate_eq_ok_true_iff (h : m.Covers d region) :
    m.evaluate d = .ok true ↔
      ∃ o ∈ m.identifier.findAllIn d region, m.satisfiedAt d region o.span = true := by
  rw [evaluate, region_eq_ok_iff.mpr h]
  simp [Except.map]

theorem satisfiedAt_iff {s : Span} : m.satisfiedAt d region s = true ↔
    ∀ token ∈ m.context, (token.findIn d (m.around d region s)).isSome = true := by
  simp only [satisfiedAt, List.all_eq_true]

/-! ### Every occurrence counts -/

variable {needle t : Text} {pos : Nat}

/-- **The lines around an occurrence on one line** are those near it. -/
theorem nearby_around (hfeed : '\n' ∉ needle) (hoccurs : needle.OccursAt d.text pos)
    (hregion : region.stop ≤ d.size) :
    d.Nearby region pos m.window (m.around d region ⟨pos, pos + Text.size needle⟩) := by
  obtain ⟨u, v, htext, rfl⟩ := Text.occursAt_iff.mp hoccurs
  have hlast : d.lineIndex (max (Text.size u + Text.size needle - 1) (Text.size u)) =
      d.lineIndex (Text.size u) := Document.lineIndex_of_no_feed htext hfeed (by omega) (by omega)
  have hfirst := d.lineIndex_lt (Text.size u)
  simp only [around, Document.contextWindow_eq, hlast]
  refine ⟨(Nat.min_le_right _ _).trans hregion, fun x hx => ?_⟩
  have hstart := Document.lineStart_le_iff (x := x)
    (show d.lineIndex (Text.size u) - m.window < d.lineCount by omega)
  have hstop := Document.lt_lineStop_iff hx (n := d.lineIndex (Text.size u) + m.window)
  simp only [max_le_iff, lt_min_iff]
  omega

/-- An occurrence in the region is one in its text. -/
theorem occursIn_iff (hspan : d.spanText region = .ok t) :
    needle.OccursIn d.text region pos ↔
      ∃ u v, t = u ++ needle ++ v ∧ region.start + Text.size u = pos := by
  obtain ⟨pre, post, htext, hpre, hstop⟩ := Document.spanText_eq_ok_iff.mp hspan
  constructor
  · rintro ⟨hle, hge, hoccurs⟩
    obtain ⟨before, after, htext', rfl⟩ := Text.occursAt_iff.mp hoccurs
    obtain ⟨u, v, rfl, rfl, -⟩ :=
      Text.exists_sides (htext'.symm.trans htext) (by omega) (by omega)
    exact ⟨u, v, rfl, by rw [Text.size_append, hpre]⟩
  · rintro ⟨u, v, rfl, rfl⟩
    simp only [Text.size_append] at hstop
    refine ⟨by omega, by omega, Text.occursAt_iff.mpr ⟨pre ++ u, v ++ post, by simp [htext], ?_⟩⟩
    rw [Text.size_append, hpre]

/-- **An occurrence that is not counted is on the line of one that is.** -/
theorem exists_counted (hne : needle ≠ []) (hfeed : '\n' ∉ needle)
    (hspan : d.spanText region = .ok t) (hoccurs : needle.OccursIn d.text region pos) :
    ∃ i ∈ Text.occurrences needle t, d.lineIndex (region.start + i) = d.lineIndex pos := by
  obtain ⟨pre, post, htext, hpre, -⟩ := Document.spanText_eq_ok_iff.mp hspan
  obtain ⟨u, v, rfl, rfl⟩ := (occursIn_iff hspan).mp hoccurs
  obtain ⟨a, b, rfl, hb, hmem⟩ := Text.exists_occurrence_before v hne 0 (Nat.zero_le u.length)
  rw [Nat.zero_add] at hmem
  refine ⟨Text.size a, hmem, ?_⟩
  obtain ⟨a', v', hcounted, ha⟩ := Text.exists_of_mem_occurrencesFrom hmem
  rw [Nat.zero_add] at ha
  -- between the two there is only the beginning of the literal, which has no line feed
  have hbetween : '\n' ∉ b := fun h => hfeed ((Text.prefix_of_overlap hcounted ha hb).subset h)
  have hcut : d.text = pre ++ a ++ b ++ (needle ++ v ++ post) := by simp [htext]
  have hline := Document.lineIndex_of_no_feed hcut hbetween (Nat.le_add_right _ _) le_rfl
  rw [Text.size_append, hpre] at hline
  rw [Text.size_append, ← Nat.add_assoc, hline]

theorem mem_findAllIn_literal {a : Anchor} (ha : a.pattern = .literal needle)
    (hspan : d.spanText region = .ok t) {o : Match} :
    o ∈ a.findAllIn d region ↔
      ∃ i ∈ Text.occurrences needle t, o = .ofLiteral needle (region.start + i) := by
  unfold Anchor.findAllIn Pattern.findAllIn
  rw [Document.clip_of_spanText hspan, ha]
  simp only [List.mem_map, Nat.add_comm region.start, eq_comm]

/-- Some occurrence that is counted has its context, exactly if some occurrence has. -/
theorem exists_satisfied_iff {a : Anchor} (ha : a.pattern = .literal needle) (hne : needle ≠ [])
    (hfeed : '\n' ∉ needle) (hspan : d.spanText region = .ok t) :
    (∃ o ∈ a.findAllIn d region, m.satisfiedAt d region o.span = true) ↔
      ∃ pos near, needle.OccursIn d.text region pos ∧ d.Nearby region pos m.window near ∧
        ∀ token ∈ m.context, (token.findIn d near).isSome = true := by
  have hregion : region.stop ≤ d.size :=
    Text.le_size_of_isBoundary (Document.isBoundary_of_spanText hspan).2
  -- a counted occurrence is one in the region
  have hcounted : ∀ i ∈ Text.occurrences needle t,
      needle.OccursIn d.text region (region.start + i) := by
    intro i hi
    obtain ⟨u, v, htext, hu⟩ := Text.exists_of_mem_occurrencesFrom hi
    rw [Nat.zero_add] at hu
    exact (occursIn_iff hspan).mpr ⟨u, v, htext, by rw [hu]⟩
  constructor
  · rintro ⟨o, ho, hsatisfied⟩
    obtain ⟨i, hi, rfl⟩ := (mem_findAllIn_literal ha hspan).mp ho
    exact ⟨_, _, hcounted i hi, nearby_around hfeed (hcounted i hi).occurs hregion,
      satisfiedAt_iff.mp hsatisfied⟩
  · rintro ⟨pos, near, hoccurs, hnear, hcontext⟩
    obtain ⟨i, hi, hline⟩ := exists_counted hne hfeed hspan hoccurs
    refine ⟨_, (mem_findAllIn_literal ha hspan).mpr ⟨i, hi, rfl⟩, satisfiedAt_iff.mpr ?_⟩
    -- the two are on one line, and so the same lines are near them
    have hsize : 0 < Text.size needle := Nat.pos_of_ne_zero fun h => hne (Text.size_eq_zero_iff.mp h)
    have hin := hcounted i hi
    have hstop := hin.stop_le
    have heq := (hnear.of_lineIndex hline).unique (nearby_around hfeed hin.occurs hregion)
      hin.start_le (by omega) (by omega)
    rwa [heq] at hcontext

theorem exists_evaluate_error_iff : (∃ why, m.evaluate d = .error why) ↔ m.Unscoped d := by
  rw [← exists_region_error_iff, evaluate]
  cases m.region d with
  | error why => simp [Except.map]
  | ok region => simp [Except.map]

/-- **Every occurrence of the identifier counts.**  Let the identifier be a literal without a line
feed.  Where the marker has a region to look in, it holds exactly when the identifier occurs at some
byte offset of the region, whether it overlaps another occurrence or not, and every context token is
found in the part of the region that is at most `window` lines away from the line of that occurrence.
It cannot be evaluated exactly when it has a scope whose anchor is nowhere or whose block does not
close, and then the change counts as not in place. -/
theorem evaluate_iff_occurs {m : Marker} {needle : Text} {role : Role}
    (hidentifier : Anchor.literal needle role = .ok m.identifier) (hfeed : '\n' ∉ needle)
    (d : Document) :
    (∀ region, m.Covers d region →
      (m.evaluate d = .ok true ↔ ∃ pos near, needle.OccursIn d.text region pos ∧
        d.Nearby region pos m.window near ∧
        ∀ token ∈ m.context, (token.findIn d near).isSome = true)) ∧
    ((∃ why, m.evaluate d = .error why) ↔ m.Unscoped d) ∧
    (m.Unscoped d → m.present d = false) := by
  obtain ⟨hne, hpattern⟩ := Anchor.of_literal hidentifier
  refine ⟨fun region hcovers => ?_, exists_evaluate_error_iff, fun hunscoped => ?_⟩
  · obtain ⟨t, hspan⟩ := hcovers.exists_spanText
    rw [evaluate_eq_ok_true_iff hcovers]
    exact exists_satisfied_iff hpattern hne hfeed hspan
  · obtain ⟨why, herror⟩ := exists_evaluate_error_iff.mpr hunscoped
    rw [present, herror]

/-- `aa` within a line of `b`, in a block after `f`. -/
def pairInCall : Marker where
  identifier := ⟨.literal ['a', 'a'], .other, .refl false⟩
  context    := [⟨.literal ['b'], .other, .refl false⟩]
  window     := 1
  scope      := some ⟨.literal ['f'], .other, .refl false⟩

/-- `b` stands on the lines of the call, once before it and once inside. -/
def pairs : Document := ⟨['b', ' ', 'f', '(', 'a', 'a', 'a', '\n', 'b', ')']⟩

/-- The second `aa` overlaps the first, and its context is the `b` in the call. -/
theorem evaluate_iff_occurs_pairs :
    pairInCall.Covers pairs ⟨2, 10⟩ ∧ Text.OccursIn ['a', 'a'] pairs.text ⟨2, 10⟩ 5 ∧
      pairs.Nearby ⟨2, 10⟩ 5 1 ⟨2, 10⟩ ∧ pairInCall.evaluate pairs = .ok true := by
  have hcovers : pairInCall.Covers pairs ⟨2, 10⟩ :=
    ⟨.ofLiteral ['f'] 2, ⟨3, 9⟩, by cbv, by cbv, rfl⟩
  have hoccurs : Text.OccursIn ['a', 'a'] pairs.text ⟨2, 10⟩ 5 := ⟨by decide, by decide, by cbv⟩
  have hnear : pairs.Nearby ⟨2, 10⟩ 5 1 ⟨2, 10⟩ := ⟨by decide, by decide⟩
  have hcontext : ∀ token ∈ pairInCall.context, (token.findIn pairs ⟨2, 10⟩).isSome = true := by
    decide
  have hidentifier : Anchor.literal ['a', 'a'] .other = .ok pairInCall.identifier := rfl
  obtain ⟨hholds, -, -⟩ := evaluate_iff_occurs hidentifier (by decide) pairs
  exact ⟨hcovers, hoccurs, hnear, (hholds _ hcovers).mpr ⟨5, _, hoccurs, hnear, hcontext⟩⟩

/-! ### Wider windows and less context -/

/-- More lines around an occurrence, as far as they belong to the region. -/
theorem around_widen (m : Marker) (d : Document) (region s : Span) {window : Nat}
    (h : m.window ≤ window) :
    ({ m with window := window }.around d region s).start ≤ (m.around d region s).start ∧
      (m.around d region s).stop ≤ ({ m with window := window }.around d region s).stop := by
  obtain ⟨hstart, hstop⟩ := d.contextWindow_mono s h
  exact ⟨max_le_max_right _ hstart, min_le_min_right _ hstop⟩

theorem isBoundary_around (m : Marker) (hspan : d.spanText region = .ok t) (s : Span) :
    Text.isBoundary d.text (m.around d region s).start = true ∧
      Text.isBoundary d.text (m.around d region s).stop = true := by
  obtain ⟨hfirst, hlast⟩ := Document.isBoundary_of_spanText hspan
  simp only [around, Document.contextWindow_eq]
  constructor
  · rcases max_choice (d.lineStart (d.lineIndex s.start - m.window)) region.start with heq | heq
    · rw [heq]
      exact (d.isBoundary_line _).1
    · rwa [heq]
  · rcases min_choice (d.lineSpan (d.lineIndex (max (s.stop - 1) s.start) + m.window)).stop
        region.stop with heq | heq
    · rw [heq]
      exact (d.isBoundary_line _).2
    · rwa [heq]

/-- **A marker that holds does so with a wider window and with less context**, if all its context is
literal.  The identifier and the scope may be anything. -/
theorem evaluate_widen {m : Marker} {d : Document}
    (hliteral : ∀ token ∈ m.context, ∃ needle, token.pattern = .literal needle)
    (h : m.evaluate d = .ok true) {window : Nat} (hwindow : m.window ≤ window)
    {context : List Anchor} (hcontext : context ⊆ m.context) :
    { m with window := window, context := context }.evaluate d = .ok true := by
  obtain ⟨region, hcovers⟩ : ∃ region, m.Covers d region := by
    cases hregion : m.region d with
    | error why =>
        rw [evaluate, hregion] at h
        cases h
    | ok region => exact ⟨region, region_eq_ok_iff.mp hregion⟩
  obtain ⟨t, hspan⟩ := hcovers.exists_spanText
  obtain ⟨o, ho, hsatisfied⟩ := (evaluate_eq_ok_true_iff hcovers).mp h
  have hcovers' : { m with window := window, context := context }.Covers d region := hcovers
  refine (evaluate_eq_ok_true_iff hcovers').mpr ⟨o, ho, satisfiedAt_iff.mpr fun token htoken => ?_⟩
  obtain ⟨needle, hneedle⟩ := hliteral token (hcontext htoken)
  obtain ⟨hstart, hstop⟩ := m.around_widen d region o.span hwindow
  obtain ⟨hfirst, hlast⟩ := isBoundary_around { m with window := window } hspan o.span
  exact Anchor.isSome_findIn_widen hneedle hstart hstop hfirst hlast
    (satisfiedAt_iff.mp hsatisfied token (hcontext htoken))

/-- With no window the `b` on the next line is too far away, and with the largest one it is not. -/
theorem evaluate_widen_pairs :
    { pairInCall with window := 0 }.evaluate pairs = .ok false ∧
      pairInCall.evaluate pairs = .ok true ∧
      { pairInCall with window := largestIndex }.evaluate pairs = .ok true ∧
      { pairInCall with window := largestIndex, context := [] }.evaluate pairs = .ok true := by
  have hholds : pairInCall.evaluate pairs = .ok true := by cbv
  have hliteral : ∀ token ∈ pairInCall.context, ∃ needle, token.pattern = .literal needle :=
    List.forall_mem_singleton.mpr ⟨['b'], rfl⟩
  have hwindow : pairInCall.window ≤ largestIndex := by decide
  exact ⟨by cbv, hholds, evaluate_widen hliteral hholds hwindow (List.Subset.refl _),
    evaluate_widen hliteral hholds hwindow (List.nil_subset _)⟩

end Marker

end Graft
