import Graft.Anchor.Match
import Graft.Proofs.Edit

/-!
# Lines of a piece

The lines of a document and the lines of a piece of it.  Lines start after line feeds, and line feeds
are found piece by piece (`Document.feedsFrom_append`).  So the lines that start inside a piece are
the same in the piece and in the document around it (`Document.Piece.startsAfter_eq`); only the first
line of the piece may start before it, and only its last line may go on after it.

A window of lines in the document, cut to the piece, is therefore the window in the piece
(`Document.Piece.contextWindow_eq`).
-/

namespace Graft.Document

/-! ### Line feeds -/

/-- Offsets just after the line feeds of `t`, which starts at `pos`. -/
def feedsFrom (pos : Nat) : Text → List Nat
  | []     => []
  | c :: t =>
      let next := pos + c.utf8Size
      if c = '\n' then next :: feedsFrom next t else feedsFrom next t

theorem size_feed_cons (t : Text) : Text.size ('\n' :: t) = 1 + Text.size t := rfl

theorem feedsFrom_append (pos : Nat) (a b : Text) :
    feedsFrom pos (a ++ b) = feedsFrom pos a ++ feedsFrom (pos + Text.size a) b := by
  induction a generalizing pos with
  | nil => rfl
  | cons c a ih =>
      rw [List.cons_append, feedsFrom, feedsFrom, Text.add_size_cons]
      split
      · simp [ih]
      · simp [ih]

theorem feedsFrom_add (pos n : Nat) (t : Text) :
    feedsFrom (pos + n) t = (feedsFrom pos t).map (· + n) := by
  induction t generalizing pos with
  | nil => rfl
  | cons c t ih =>
      have hnext : pos + n + c.utf8Size = pos + c.utf8Size + n := by omega
      simp only [feedsFrom, hnext, ih]
      split
      · rfl
      · rfl

/-- A line feed stands just before each of the offsets. -/
theorem exists_of_mem_feedsFrom {pos x : Nat} {t : Text} (h : x ∈ feedsFrom pos t) :
    ∃ u v, t = u ++ '\n' :: v ∧ x = pos + Text.size u + 1 := by
  induction t generalizing pos with
  | nil => cases h
  | cons c t ih =>
      have hrest : x ∈ feedsFrom (pos + c.utf8Size) t →
          ∃ u v, c :: t = u ++ '\n' :: v ∧ x = pos + Text.size u + 1 := by
        intro h
        obtain ⟨u, v, rfl, rfl⟩ := ih h
        exact ⟨c :: u, v, rfl, by rw [Text.size]; omega⟩
      simp only [feedsFrom] at h
      split at h
      · next hc =>
          rcases List.mem_cons.mp h with rfl | h
          · exact ⟨[], t, by rw [hc]; rfl, by rw [hc]; rfl⟩
          · exact hrest h
      · exact hrest h

theorem bounds_of_mem_feedsFrom {pos x : Nat} {t : Text} (h : x ∈ feedsFrom pos t) :
    pos < x ∧ x ≤ pos + Text.size t := by
  obtain ⟨u, v, rfl, rfl⟩ := exists_of_mem_feedsFrom h
  rw [Text.size_append, size_feed_cons]
  omega

/-- A text that does not end in a line feed goes on after each of its line feeds. -/
theorem lt_of_mem_feedsFrom {pos x : Nat} {t : Text} (ht : t.getLast? ≠ some '\n')
    (h : x ∈ feedsFrom pos t) : x < pos + Text.size t := by
  obtain ⟨u, v, rfl, rfl⟩ := exists_of_mem_feedsFrom h
  have hv : Text.size v ≠ 0 := by
    intro hzero
    rw [Text.size_eq_zero_iff.mp hzero] at ht
    simp at ht
  rw [Text.size_append, size_feed_cons]
  omega

/-- Lines start after the line feeds that something follows. -/
theorem startsAfter_eq (pos : Nat) (t : Text) :
    startsAfter pos t = (feedsFrom pos t).filter (· < pos + Text.size t) := by
  induction t generalizing pos with
  | nil => rfl
  | cons c t ih =>
      simp only [startsAfter, feedsFrom, Text.add_size_cons, ih]
      by_cases hc : c = '\n'
      · cases t with
        | nil => simp [hc, Text.size, feedsFrom]
        | cons a t =>
            have hpos : 0 < Text.size (a :: t) :=
              Nat.pos_of_ne_zero fun h => by simpa using Text.size_eq_zero_iff.mp h
            simp [hc, hpos]
      · simp [hc]

theorem lt_of_mem_startsAfter {pos x : Nat} {t : Text} (h : x ∈ startsAfter pos t) :
    x < pos + Text.size t := by
  rw [startsAfter_eq, List.mem_filter] at h
  simpa using h.2

/-! ### Lines by their numbers -/

theorem lineIndex_eq (d : Document) (offset : Nat) :
    d.lineIndex offset = (startsAfter 0 d.text).countP (· ≤ offset) := by
  rw [lineIndex, lineStarts, List.countP_cons_of_pos (by simp), Nat.add_sub_cancel]

theorem lineCount_eq (d : Document) : d.lineCount = (startsAfter 0 d.text).length + 1 := rfl

theorem lineIndex_lt (d : Document) (offset : Nat) : d.lineIndex offset < d.lineCount := by
  rw [lineIndex_eq, lineCount_eq]
  exact Nat.lt_succ_of_le List.countP_le_length

theorem lineIndex_mono (d : Document) {a b : Nat} (h : a ≤ b) : d.lineIndex a ≤ d.lineIndex b := by
  rw [lineIndex_eq, lineIndex_eq]
  refine List.countP_mono_left fun x _ hx => ?_
  simp only [decide_eq_true_eq] at hx ⊢
  omega

theorem lineStart_eq {d : Document} {n : Nat} (hn : n < d.lineCount) :
    d.lineStart n = d.lineStarts.getD n 0 := by
  rw [lineStart, Nat.min_eq_left (by omega)]

/-- A line goes on to the start of the next one. -/
theorem lineSpan_stop (d : Document) (n : Nat) :
    (d.lineSpan n).stop = (startsAfter 0 d.text).getD n d.size := by
  rw [lineSpan, lineStarts, List.getD_cons_succ, lineCount_eq, Nat.add_sub_cancel]
  rcases Nat.le_total n (startsAfter 0 d.text).length with hle | hle
  · rw [Nat.min_eq_left hle]
  · rw [Nat.min_eq_right hle, List.getD_eq_default _ _ hle, List.getD_eq_default _ _ le_rfl]

/-- A window of lines goes from the start of its first line to the end of its last one. -/
theorem contextWindow_eq (d : Document) (s : Span) (context : Nat) :
    d.contextWindow s context = ⟨d.lineStart (d.lineIndex s.start - context),
      (d.lineSpan (d.lineIndex (max (s.stop - 1) s.start) + context)).stop⟩ := by
  have hfirst := d.lineIndex_lt s.start
  have hle := d.lineIndex_mono (Nat.le_max_right (s.stop - 1) s.start)
  have hmin : min (d.lineIndex s.start - context)
      (min (d.lineIndex (max (s.stop - 1) s.start) + context) (d.lineCount - 1)) =
      d.lineIndex s.start - context := by omega
  rw [contextWindow, window]
  simp only [hmin, lineSpan, Nat.min_assoc, Nat.min_self]

theorem lineStop_le (d : Document) (n : Nat) : (d.lineSpan n).stop ≤ d.size := by
  rw [lineSpan_stop]
  rcases Nat.lt_or_ge n (startsAfter 0 d.text).length with hlt | hge
  · rw [List.getD_eq_getElem _ _ hlt]
    have := lt_of_mem_startsAfter (List.getElem_mem hlt)
    rw [Document.size]
    omega
  · rw [List.getD_eq_default _ _ hge]

theorem contextWindow_stop_le (d : Document) (s : Span) (context : Nat) :
    (d.contextWindow s context).stop ≤ d.size := by
  rw [contextWindow_eq]
  exact d.lineStop_le _

/-! ### Pieces -/

/-- `mid` stands in `d` after `pre`; it is not empty and does not end in a line feed. -/
structure Piece (d : Document) (pre mid : Text) : Prop where
  text   : ∃ post, d.text = pre ++ mid ++ post
  ne_nil : mid ≠ []
  last   : mid.getLast? ≠ some '\n'

/-- The number of lines that end before a piece. -/
def linesBefore (pre : Text) : Nat := (feedsFrom 0 pre).length

namespace Piece

variable {d : Document} {pre mid : Text}

/-- **The lines around a piece**: those that start before it, those that start inside, and those that
start after it. -/
theorem startsAfter_eq (h : d.Piece pre mid) :
    ∃ later, startsAfter 0 d.text =
        feedsFrom 0 pre ++ (startsAfter 0 mid).map (· + Text.size pre) ++ later ∧
      ∀ x ∈ later, Text.size pre + Text.size mid < x := by
  obtain ⟨post, htext⟩ := h.text
  have hpos : 0 < Text.size mid :=
    Nat.pos_of_ne_zero fun hzero => h.ne_nil (Text.size_eq_zero_iff.mp hzero)
  have hinside : startsAfter 0 mid = feedsFrom 0 mid := by
    rw [Document.startsAfter_eq, List.filter_eq_self]
    intro x hx
    simpa using lt_of_mem_feedsFrom h.last hx
  have hshift : feedsFrom (Text.size pre) mid = (feedsFrom 0 mid).map (· + Text.size pre) := by
    simpa using feedsFrom_add 0 (Text.size pre) mid
  refine ⟨(feedsFrom (Text.size pre + Text.size mid) post).filter (· < Text.size d.text), ?_,
    fun x hx => (bounds_of_mem_feedsFrom (List.mem_of_mem_filter hx)).1⟩
  rw [Document.startsAfter_eq, htext, feedsFrom_append, feedsFrom_append, List.filter_append,
    List.filter_append, hinside, ← hshift]
  simp only [Nat.zero_add, Text.size_append]
  -- something follows each line feed before the piece and inside it, since the piece goes on
  congr 2
  · rw [List.filter_eq_self]
    intro x hx
    have := bounds_of_mem_feedsFrom hx
    simp only [decide_eq_true_eq]
    omega
  · rw [List.filter_eq_self]
    intro x hx
    have := lt_of_mem_feedsFrom h.last hx
    simp only [decide_eq_true_eq]
    omega

theorem size_le (h : d.Piece pre mid) : Text.size pre + Text.size mid ≤ d.size := by
  obtain ⟨post, htext⟩ := h.text
  rw [Document.size, htext, Text.size_append, Text.size_append]
  exact Nat.le_add_right _ _

theorem lineIndex_eq (h : d.Piece pre mid) {x : Nat} (hx : x ≤ Text.size mid) :
    d.lineIndex (Text.size pre + x) = linesBefore pre + lineIndex ⟨mid⟩ x := by
  obtain ⟨later, hstarts, hlater⟩ := h.startsAfter_eq
  have hbefore : (feedsFrom 0 pre).countP (· ≤ Text.size pre + x) = linesBefore pre := by
    refine List.countP_eq_length.mpr fun y hy => ?_
    have := bounds_of_mem_feedsFrom hy
    simp only [decide_eq_true_eq]
    omega
  have hafter : later.countP (· ≤ Text.size pre + x) = 0 := by
    refine List.countP_eq_zero.mpr fun y hy => ?_
    have := hlater y hy
    simp only [decide_eq_true_eq]
    omega
  have hinside : ((startsAfter 0 mid).map (· + Text.size pre)).countP (· ≤ Text.size pre + x) =
      (startsAfter 0 mid).countP (· ≤ x) := by
    rw [List.countP_map]
    refine List.countP_congr fun y _ => ?_
    simp only [Function.comp_apply, decide_eq_true_eq]
    omega
  rw [Document.lineIndex_eq, Document.lineIndex_eq, hstarts, List.countP_append, List.countP_append,
    hbefore, hinside, hafter, Nat.add_zero]

/-- The line that is number `k` after the first one of the piece is number `k` after the ones before
it in the document, and starts in the same place. -/
theorem getD_inside (h : d.Piece pre mid) {k : Nat} (hk : k < (startsAfter 0 mid).length)
    (default : Nat) : (startsAfter 0 d.text).getD (linesBefore pre + k) default =
      (startsAfter 0 mid)[k] + Text.size pre := by
  obtain ⟨later, hstarts, -⟩ := h.startsAfter_eq
  have hk' : k < ((startsAfter 0 mid).map (· + Text.size pre)).length := by simpa using hk
  rw [hstarts, List.append_assoc, linesBefore, List.getD_append_right _ _ _ _ (Nat.le_add_right _ _),
    Nat.add_sub_cancel_left, List.getD_append _ _ _ _ hk', List.getD_eq_getElem _ _ hk',
    List.getElem_map]

/-- Lines that do not start inside the piece, nor before it, start after it. -/
theorem le_getD_after (h : d.Piece pre mid) {k : Nat} (hk : (startsAfter 0 mid).length ≤ k) :
    Text.size pre + Text.size mid ≤ (startsAfter 0 d.text).getD (linesBefore pre + k) d.size := by
  obtain ⟨later, hstarts, hlater⟩ := h.startsAfter_eq
  rw [hstarts, List.append_assoc, linesBefore, List.getD_append_right _ _ _ _ (Nat.le_add_right _ _),
    Nat.add_sub_cancel_left, List.getD_append_right _ _ _ _ (by simpa using hk), List.length_map]
  rcases Nat.lt_or_ge (k - (startsAfter 0 mid).length) later.length with hlt | hge
  · rw [List.getD_eq_getElem _ _ hlt]
    exact (hlater _ (List.getElem_mem hlt)).le
  · rw [List.getD_eq_default _ _ hge]
    exact h.size_le

/-- A line that does not start after the piece starts, as far as it is inside, where its part in the
piece does. -/
theorem max_lineStart (h : d.Piece pre mid) {n : Nat}
    (hn : n < linesBefore pre + lineCount ⟨mid⟩) :
    max (d.lineStart n) (Text.size pre) = Text.size pre + lineStart ⟨mid⟩ (n - linesBefore pre) := by
  obtain ⟨later, hstarts, -⟩ := h.startsAfter_eq
  have hcount : linesBefore pre + lineCount ⟨mid⟩ ≤ d.lineCount := by
    simp only [lineCount_eq, hstarts, List.length_append, List.length_map, linesBefore]
    omega
  rw [lineStart_eq (show n < d.lineCount by omega),
    lineStart_eq (show n - linesBefore pre < lineCount ⟨mid⟩ by rw [lineCount_eq] at *; omega),
    lineStarts, lineStarts]
  rcases Nat.lt_or_ge (linesBefore pre) n with hlt | hle
  · -- the line starts inside the piece
    obtain ⟨k, rfl⟩ := Nat.exists_eq_add_of_lt hlt
    have hk : k < (startsAfter 0 mid).length := by
      simp only [lineCount_eq] at hn
      omega
    have hsub : linesBefore pre + k + 1 - linesBefore pre = k + 1 := by omega
    rw [hsub, List.getD_cons_succ, List.getD_cons_succ, h.getD_inside hk, List.getD_eq_getElem _ _ hk]
    omega
  · -- the line starts before the piece, or with it, and its part is the first line of the piece
    have hn' : n < (0 :: feedsFrom 0 pre).length := Nat.lt_succ_of_le hle
    have hmem : (0 :: startsAfter 0 d.text).getD n 0 ∈ 0 :: feedsFrom 0 pre := by
      rw [hstarts, List.append_assoc, ← List.cons_append, List.getD_append _ _ _ _ hn',
        List.getD_eq_getElem _ _ hn']
      exact List.getElem_mem hn'
    have hstart : (0 :: startsAfter 0 d.text).getD n 0 ≤ Text.size pre := by
      rcases List.mem_cons.mp hmem with hzero | hmem
      · omega
      · have := bounds_of_mem_feedsFrom hmem
        omega
    rw [Nat.sub_eq_zero_of_le hle, List.getD_cons_zero]
    omega

/-- A line that does not end before the piece ends, as far as it is inside, where its part in the
piece does. -/
theorem min_lineStop (h : d.Piece pre mid) (k : Nat) :
    min (d.lineSpan (linesBefore pre + k)).stop (Text.size pre + Text.size mid) =
      Text.size pre + (lineSpan ⟨mid⟩ k).stop := by
  rw [lineSpan_stop, lineSpan_stop]
  rcases Nat.lt_or_ge k (startsAfter 0 mid).length with hlt | hge
  · -- the next line starts inside the piece
    have hstop := lt_of_mem_startsAfter (List.getElem_mem hlt)
    rw [h.getD_inside hlt, List.getD_eq_getElem _ _ hlt]
    omega
  · -- the next line starts after the piece, if there is one
    rw [List.getD_eq_default _ _ hge]
    exact Nat.min_eq_right (h.le_getD_after hge)

/-- **Windows of a piece**: the lines around a span of the piece, cut to the piece, are the lines
around it in the piece alone. -/
theorem contextWindow_eq (h : d.Piece pre mid) {s : Span} (hle : s.start ≤ s.stop)
    (hstop : s.stop ≤ Text.size mid) (context : Nat) :
    let lines := d.contextWindow (s.shift (Text.size pre)) context
    (⟨max lines.start (Text.size pre), min lines.stop (Text.size pre + Text.size mid)⟩ : Span) =
      (contextWindow ⟨mid⟩ s context).shift (Text.size pre) := by
  have hfirst : d.lineIndex (s.start + Text.size pre) = linesBefore pre + lineIndex ⟨mid⟩ s.start := by
    rw [Nat.add_comm]
    exact h.lineIndex_eq (by omega)
  have hlast : d.lineIndex (max (s.stop + Text.size pre - 1) (s.start + Text.size pre)) =
      linesBefore pre + lineIndex ⟨mid⟩ (max (s.stop - 1) s.start) := by
    rw [← h.lineIndex_eq (by omega)]
    congr 1
    omega
  have hcount := lineIndex_lt ⟨mid⟩ s.start
  have hsub : linesBefore pre + lineIndex ⟨mid⟩ s.start - context - linesBefore pre =
      lineIndex ⟨mid⟩ s.start - context := by omega
  simp only [Document.contextWindow_eq, Span.shift, hfirst, hlast, Span.mk.injEq]
  constructor
  · rw [h.max_lineStart (by omega), hsub, Nat.add_comm]
  · rw [Nat.add_assoc, h.min_lineStop, Nat.add_comm]

end Piece

end Graft.Document
