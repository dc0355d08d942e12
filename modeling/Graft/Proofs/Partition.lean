import Graft.Proofs.Rewrite
import Graft.Proofs.Window

/-!
# Lines partition the text

Every byte of a text belongs to exactly one line.  The lines follow one another without a gap, the
line feeds are their ends, and the number of the line that holds an offset is the number of line feeds
before it (`Document.lineIndex_eq_count`).

* `Document.lines_partition`: what line spans and line numbers say about every text and every offset,
  also past the end.
* `Document.contextWindow_covers`: the lines around a span are whole lines of that partition, those
  that the span touches and as many on either side as were asked for and are there.
-/

namespace Graft

/-! ### Line feeds among the bytes -/

namespace Text

/-- The bytes of the UTF-8 form. -/
def bytes (t : Text) : List UInt8 := t.flatMap String.utf8EncodeChar

/-- The byte of a line feed. -/
def feedByte : UInt8 := 10

theorem bytes_cons (c : Char) (t : Text) : bytes (c :: t) = String.utf8EncodeChar c ++ bytes t :=
  List.flatMap_cons

theorem feedByte_ne_ofNat {n : Nat} (hle : 128 ≤ n) (hlt : n < 256) : feedByte ≠ UInt8.ofNat n := by
  intro heq
  have hvalue : feedByte.toNat = n := by rw [heq, UInt8.toNat_ofNat', Nat.mod_eq_of_lt hlt]
  have hfeed : feedByte.toNat = 10 := rfl
  omega

/-- Only a line feed has the byte of one. -/
theorem feedByte_not_mem {c : Char} (h : c ≠ '\n') : feedByte ∉ String.utf8EncodeChar c := by
  unfold String.utf8EncodeChar
  simp only
  split_ifs
  · -- one byte, which is the number of the character
    intro hmem
    have hvalue := congrArg UInt8.toNat (List.mem_singleton.mp hmem)
    rw [UInt8.toNat_ofNat', Nat.mod_eq_of_lt (by omega)] at hvalue
    exact h (Char.ext (UInt32.toNat_inj.mp hvalue.symm))
  all_goals
    -- several bytes, all of them large
    simp only [List.mem_cons, List.not_mem_nil, or_false, not_or]
    and_intros
    all_goals exact feedByte_ne_ofNat (by omega) (by omega)

/-- Line feeds among the first bytes of a text are those that end there. -/
theorem count_take_bytes (pos n : Nat) (t : Text) :
    ((bytes t).take n).count feedByte = (Document.feedsFrom pos t).countP (· ≤ pos + n) := by
  induction t generalizing pos n with
  | nil => simp [bytes, Document.feedsFrom]
  | cons c t ih =>
      have hrest : ((bytes t).take (n - c.utf8Size)).count feedByte =
          (Document.feedsFrom (pos + c.utf8Size) t).countP (· ≤ pos + n) := by
        rw [ih (pos + c.utf8Size)]
        refine List.countP_congr fun x hx => ?_
        have := Document.bounds_of_mem_feedsFrom hx
        simp only [decide_eq_true_eq]
        omega
      rw [bytes_cons, List.take_append, String.length_utf8EncodeChar, List.count_append, hrest,
        Document.feedsFrom]
      by_cases hc : c = '\n'
      · have hfirst : ((String.utf8EncodeChar c).take n).count feedByte =
            if decide (pos + c.utf8Size ≤ pos + n) = true then 1 else 0 := by
          subst hc
          have hsize : '\n'.utf8Size = 1 := rfl
          cases n with
          | zero => simp [hsize]
          | succ n => simp [String.utf8EncodeChar, feedByte, hsize]
        rw [if_pos hc, List.countP_cons, hfirst, Nat.add_comm]
      · have hnone : ((String.utf8EncodeChar c).take n).count feedByte = 0 :=
          List.count_eq_zero.mpr fun hmem => feedByte_not_mem hc (List.mem_of_mem_take hmem)
        rw [if_neg hc, hnone, Nat.zero_add]

end Text

namespace Document

variable {d : Document}

/-- **The line of an offset** is the number of line feeds before it. -/
theorem lineIndex_eq_count {offset : Nat} (h : offset < d.size) :
    d.lineIndex offset = ((Text.bytes d.text).take offset).count Text.feedByte := by
  rw [lineIndex_eq, startsAfter_eq, List.countP_filter, Text.count_take_bytes 0]
  refine List.countP_congr fun x _ => ?_
  rw [Document.size] at h
  simp only [Bool.and_eq_true, decide_eq_true_eq]
  omega

/-! ### Lines one after another -/

theorem spanText_append {a b c : Nat} {x y : Text} (hx : d.spanText ⟨a, b⟩ = .ok x)
    (hy : d.spanText ⟨b, c⟩ = .ok y) : d.spanText ⟨a, c⟩ = .ok (x ++ y) := by
  obtain ⟨pre, post, htext, hstart, hstop⟩ := spanText_eq_ok_iff.mp hx
  obtain ⟨pre', post', htext', hstart', hstop'⟩ := spanText_eq_ok_iff.mp hy
  simp only at hstart hstop hstart' hstop'
  have hcut : Text.splitAt? d.text b = some (pre ++ x, post) :=
    Text.splitAt?_eq_some_iff.mpr ⟨htext, by rw [Text.size_append, hstart, hstop]⟩
  have hcut' : Text.splitAt? d.text b = some (pre', y ++ post') :=
    Text.splitAt?_eq_some_iff.mpr ⟨by rw [htext', List.append_assoc], hstart'⟩
  rw [hcut] at hcut'
  cases hcut'
  refine spanText_eq_ok_iff.mpr ⟨pre, post', by rw [htext]; simp, hstart, ?_⟩
  rw [Text.size_append, ← Nat.add_assoc, hstop, hstop']

theorem lineCount_pos (d : Document) : 0 < d.lineCount := Nat.succ_pos _

/-- A line ends where the next one starts, -/
theorem lineStop_eq_lineStart {n : Nat} (hn : n + 1 < d.lineCount) :
    (d.lineSpan n).stop = d.lineStart (n + 1) := by
  have hlt : n < (startsAfter 0 d.text).length := Nat.lt_of_succ_lt_succ hn
  rw [lineSpan_stop, lineStart_eq hn, lineStarts, List.getD_cons_succ, List.getD_eq_getElem _ _ hlt,
    List.getD_eq_getElem _ _ hlt]

/-- and the last one where the text does. -/
theorem lineStop_last (d : Document) : (d.lineSpan (d.lineCount - 1)).stop = d.size := by
  rw [lineSpan_stop, lineCount_eq, Nat.add_sub_cancel, List.getD_eq_default _ _ le_rfl]

/-- A line with its terminator. -/
def rowAt (d : Document) (n : Nat) : Text := d.textAt (d.lineSpan n)

theorem spanText_lineSpan (d : Document) (n : Nat) : d.spanText (d.lineSpan n) = .ok (d.rowAt n) := by
  obtain ⟨x, hx⟩ := d.exists_line n
  rw [rowAt, textAt_of_spanText hx, hx]

/-- **Lines are pieces of the text without a gap.** -/
theorem spanText_rows {first k : Nat} (h : first + k < d.lineCount) :
    d.spanText ⟨d.lineStart first, (d.lineSpan (first + k)).stop⟩ =
      .ok ((List.range' first (k + 1)).flatMap d.rowAt) := by
  induction k with
  | zero => exact (d.spanText_lineSpan first).trans (by simp)
  | succ k ih =>
      have hcount : first + k + 1 < d.lineCount := by omega
      have hnext : d.spanText ⟨(d.lineSpan (first + k)).stop, (d.lineSpan (first + (k + 1))).stop⟩ =
          .ok (d.rowAt (first + (k + 1))) := by
        rw [lineStop_eq_lineStart hcount]
        exact d.spanText_lineSpan _
      rw [List.range'_concat, List.flatMap_append, List.flatMap_singleton, Nat.one_mul]
      exact spanText_append (ih (by omega)) hnext

theorem flatMap_rowAt (d : Document) : (List.range d.lineCount).flatMap d.rowAt = d.text := by
  have hcount : d.lineCount - 1 + 1 = d.lineCount := Nat.sub_add_cancel d.lineCount_pos
  have hrows : d.spanText ⟨d.lineStart 0, (d.lineSpan (0 + (d.lineCount - 1))).stop⟩ = _ :=
    spanText_rows (by omega)
  have hwhole : d.spanText ⟨0, d.size⟩ = .ok d.text :=
    spanText_eq_ok_iff.mpr ⟨[], [], by simp, rfl, Nat.zero_add _⟩
  rw [Nat.zero_add, d.lineStop_last, hcount, ← List.range_eq_range'] at hrows
  exact Except.ok.inj (hrows.symm.trans hwhole)

/-! ### Line feeds end lines -/

theorem rowAt_min (d : Document) (n : Nat) : d.rowAt n = d.rowAt (min n (d.lineCount - 1)) := by
  rw [rowAt, lineSpan_min, rowAt]

/-- A line of a text that is not empty is one of its pieces. -/
theorem exists_row (hne : d.text ≠ []) (n : Nat) :
    ∃ p ∈ Text.pieces d.text, d.rowAt n = Text.row p := by
  have hcount : min n (d.lineCount - 1) < d.lineCount := by
    have := d.lineCount_pos
    omega
  obtain ⟨pre, p, post, hpieces, hn⟩ := exists_pieces hne hcount
  exact ⟨p, by simp [hpieces], by rw [rowAt_min, ← hn, rowAt, textAt_of_pieces hpieces]⟩

theorem rowAt_of_nil (h : d.text = []) (n : Nat) : d.rowAt n = [] := by
  obtain ⟨pre, post, htext, -⟩ := spanText_eq_ok_iff.mp (d.spanText_lineSpan n)
  rw [h, eq_comm, List.append_eq_nil_iff, List.append_eq_nil_iff] at htext
  exact htext.1.2

theorem rowAt_ne_nil (hne : d.text ≠ []) (n : Nat) : d.rowAt n ≠ [] := by
  obtain ⟨p, hp, hrow⟩ := exists_row hne n
  rw [hrow]
  rcases Text.pieces_cases d.text with hall | ⟨ps, l, hpieces, hps, -, hl⟩
  · simp [Text.row_of_isLine (hall p hp)]
  · rw [hpieces] at hp
    rcases List.mem_append.mp hp with hp | hp
    · simp [Text.row_of_isLine (hps p hp)]
    · rw [List.mem_singleton.mp hp]
      exact hl

/-- Nothing follows a line feed in its line. -/
theorem eq_nil_of_rowAt {n : Nat} {u v : Text} (h : d.rowAt n = u ++ '\n' :: v) : v = [] := by
  have hne : d.text ≠ [] := by
    intro hnil
    simp [rowAt_of_nil hnil] at h
  obtain ⟨p, hp, hrow⟩ := exists_row hne n
  have hfeed := Text.not_mem_of_mem_pieces hp
  rw [hrow] at h
  rcases List.eq_nil_or_concat' v with hv | ⟨v, c, rfl⟩
  · exact hv
  · -- what stands before the last character is part of the piece, which has no line feed
    refine absurd ?_ hfeed
    cases hended : p.2 with
    | true =>
        rw [Text.row_of_isLine ⟨hended, hfeed⟩, ← List.cons_append, ← List.append_assoc] at h
        simp [(List.append_inj' h rfl).1]
    | false =>
        have hbare : Text.row p = p.1 := by simp [Text.row, hended]
        simp [← hbare, h]

/-- Every line that another one follows ends in a line feed. -/
theorem getLast?_rowAt {n : Nat} (hn : n + 1 < d.lineCount) : (d.rowAt n).getLast? = some '\n' := by
  have hne : d.text ≠ [] := by
    intro hnil
    rw [lineCount_eq, hnil] at hn
    simp [startsAfter] at hn
  obtain ⟨pre, p, post, hpieces, rfl⟩ := exists_pieces hne (Nat.lt_of_succ_lt hn)
  have hpost : post ≠ [] := by
    rintro rfl
    rw [lineCount_of_pieces hne, hpieces] at hn
    simp at hn
  rw [rowAt, textAt_of_pieces hpieces, Text.row_of_isLine (Text.isLine_of_cons hpieces hpost)]
  simp

/-- Offsets past the end are on the last line. -/
theorem lineIndex_of_size_le {offset : Nat} (h : d.size ≤ offset) :
    d.lineIndex offset = d.lineCount - 1 := by
  rw [lineIndex_eq, lineCount_eq, Nat.add_sub_cancel]
  refine List.countP_eq_length.mpr fun x hx => ?_
  have := lt_of_mem_startsAfter hx
  rw [Document.size] at h
  simp only [decide_eq_true_eq]
  omega

/-- The lines of a document divide its text. -/
structure LinesDivide (d : Document) : Prop where
  count_pos  : 0 < d.lineCount
  first      : (d.lineSpan 0).start = 0
  next       : ∀ n, n + 1 < d.lineCount → (d.lineSpan n).stop = (d.lineSpan (n + 1)).start
  last       : (d.lineSpan (d.lineCount - 1)).stop = d.size
  slice      : ∀ n, d.spanText (d.lineSpan n) = .ok (d.rowAt n)
  text       : (List.range d.lineCount).flatMap d.rowAt = d.text
  ne_nil     : d.text ≠ [] → ∀ n, (d.lineSpan n).start < (d.lineSpan n).stop
  /-- The empty text has one line, which is empty. -/
  nil        : d.text = [] → d.lineCount = 1
  feed       : ∀ n u v, d.rowAt n = u ++ '\n' :: v → v = []
  terminated : ∀ n, n + 1 < d.lineCount → (d.rowAt n).getLast? = some '\n'
  past       : ∀ n, d.lineCount ≤ n → d.lineSpan n = d.lineSpan (d.lineCount - 1) ∧
    d.lineTerminated n = d.lineTerminated (d.lineCount - 1)

/-- Line numbers tell where offsets are. -/
structure LinesLocate (d : Document) : Prop where
  inside : ∀ offset, offset < d.size → d.lineIndex offset < d.lineCount ∧
    ∀ n, n < d.lineCount →
      ((d.lineSpan n).start ≤ offset ∧ offset < (d.lineSpan n).stop ↔ n = d.lineIndex offset)
  feeds  : ∀ offset, offset < d.size →
    d.lineIndex offset = ((Text.bytes d.text).take offset).count Text.feedByte
  past   : ∀ offset, d.size ≤ offset → d.lineIndex offset = d.lineCount - 1

theorem linesDivide (d : Document) : d.LinesDivide where
  count_pos := d.lineCount_pos
  first := rfl
  next _ := lineStop_eq_lineStart
  last := d.lineStop_last
  slice := d.spanText_lineSpan
  text := d.flatMap_rowAt
  ne_nil := by
    intro hne n
    obtain ⟨pre, post, -, -, hstop⟩ := spanText_eq_ok_iff.mp (d.spanText_lineSpan n)
    have hpos : Text.size (d.rowAt n) ≠ 0 := fun h => rowAt_ne_nil hne n (Text.size_eq_zero_iff.mp h)
    omega
  nil := by
    intro hnil
    rw [lineCount_eq, hnil]
    rfl
  feed _ _ _ := eq_nil_of_rowAt
  terminated _ := getLast?_rowAt
  past := by
    intro n hn
    have hlast : d.lineSpan n = d.lineSpan (d.lineCount - 1) := by
      rw [lineSpan_min, Nat.min_eq_right (by omega)]
    exact ⟨hlast, by rw [lineTerminated, hlast, lineTerminated]⟩

theorem linesLocate (d : Document) : d.LinesLocate where
  inside := by
    intro offset hoffset
    refine ⟨d.lineIndex_lt offset, fun n hn => ?_⟩
    have hstart : (d.lineSpan n).start ≤ offset ↔ n ≤ d.lineIndex offset := lineStart_le_iff hn
    rw [hstart, lt_lineStop_iff hoffset]
    omega
  feeds _ := lineIndex_eq_count
  past _ := lineIndex_of_size_le

/-- **Lines partition the text.**  They follow one another from the beginning of the text to its end
and give it back when they are put together; none is empty unless the text is; and line feeds are the
ends of lines, with nothing after them in their line.  Every offset in the text is inside one line,
whose number is that of the line feeds before it, and whatever is past the end belongs to the last
line. -/
theorem lines_partition (d : Document) : d.LinesDivide ∧ d.LinesLocate :=
  ⟨d.linesDivide, d.linesLocate⟩

/-! ### Lines around a span -/

/-- `w` is made of the lines from `first` to `last`. -/
structure CoversLines (d : Document) (w : Span) (first last : Nat) : Prop where
  ordered  : first ≤ last
  lt_count : last < d.lineCount
  start    : w.start = (d.lineSpan first).start
  stop     : w.stop = (d.lineSpan last).stop
  text     : d.spanText w = .ok ((List.range' first (last + 1 - first)).flatMap d.rowAt)

theorem coversLines {first last : Nat} (hle : first ≤ last) (hlt : last < d.lineCount) :
    d.CoversLines ⟨d.lineStart first, (d.lineSpan last).stop⟩ first last := by
  obtain ⟨k, rfl⟩ := Nat.exists_eq_add_of_le hle
  refine ⟨hle, hlt, rfl, rfl, ?_⟩
  rw [spanText_rows hlt, Nat.add_assoc, Nat.add_sub_cancel_left]

theorem CoversLines.bounds {w : Span} {first last : Nat} (h : d.CoversLines w first last) :
    w.start ≤ w.stop ∧ w.stop ≤ d.size := by
  obtain ⟨pre, post, -, -, hstop⟩ := spanText_eq_ok_iff.mp h.text
  exact ⟨hstop ▸ Nat.le_add_right _ _, h.stop ▸ d.lineStop_le last⟩

/-- **The lines around a span**, wherever its ends are. -/
theorem coversLines_contextWindow (d : Document) (s : Span) (context : Nat) :
    d.CoversLines (d.contextWindow s context) (d.lineIndex s.start - context)
      (min (d.lineCount - 1) (d.lineIndex (max (s.stop - 1) s.start) + context)) := by
  have hfirst := d.lineIndex_lt s.start
  have hle := d.lineIndex_mono (Nat.le_max_right (s.stop - 1) s.start)
  rw [contextWindow_eq, lineSpan_min, Nat.min_comm]
  exact coversLines (by omega) (by omega)

theorem inside_contextWindow {s : Span} (hle : s.start ≤ s.stop) (hstop : s.stop ≤ d.size)
    (context : Nat) : s.Inside (d.contextWindow s context) := by
  have hcount := d.lineIndex_lt s.start
  rw [contextWindow_eq]
  refine ⟨(lineStart_le_iff (by omega)).mpr (Nat.sub_le _ _), hle, ?_⟩
  rcases Nat.lt_or_ge (max (s.stop - 1) s.start) d.size with hlt | hge
  · -- the last byte of the span, or the one behind an empty span, is on the last of its lines
    have hinside := (lt_lineStop_iff hlt).mpr (Nat.le_add_right _ context)
    simp only
    omega
  · -- an empty span at the end of the text
    have hlast := d.lineStop_mono (Nat.le_add_right (d.lineIndex (max (s.stop - 1) s.start)) context)
    rw [lineIndex_of_size_le hge, d.lineStop_last] at hlast
    rw [lineIndex_of_size_le hge]
    exact hstop.trans hlast

/-- A line takes at least a byte, except for the last one. -/
theorem length_startsAfter_le (pos : Nat) (t : Text) : (startsAfter pos t).length ≤ Text.size t := by
  induction t generalizing pos with
  | nil => simp [startsAfter, Text.size]
  | cons c t ih =>
      have hrest := ih (pos + c.utf8Size)
      have hpos := c.utf8Size_pos
      simp only [startsAfter, Text.size]
      split
      · rw [List.length_cons]
        omega
      · omega

/-- Line numbers of a document of at most `largestIndex` bytes never reach that bound, so that sums
beyond it may as well stop there. -/
theorem contextWindow_eq_saturated (h : d.size ≤ largestIndex) (s : Span) (context : Nat) :
    d.contextWindow s context = d.window (d.lineIndex s.start - context)
      (min (d.lineIndex (max (s.stop - 1) s.start) + context) largestIndex) := by
  have hlines : d.lineCount - 1 ≤ largestIndex := by
    rw [lineCount_eq, Nat.add_sub_cancel]
    exact (length_startsAfter_le 0 d.text).trans h
  have hmin : min (min (d.lineIndex (max (s.stop - 1) s.start) + context) largestIndex)
      (d.lineCount - 1) = min (d.lineIndex (max (s.stop - 1) s.start) + context) (d.lineCount - 1) := by
    omega
  simp only [contextWindow, window, hmin]

/-- **A context window is the lines around a span.**  Wherever the ends of the span are, the window is
made of whole lines of the document, it grows with the number of lines asked for, and sums of line
numbers that stop at `largestIndex` give the same one.  A span of the document is inside its window,
and the lines of the window are those from `context` lines before the line where the span starts to
`context` lines after the line of its last byte, as far as they exist. -/
theorem contextWindow_covers (d : Document) (s : Span) (context : Nat) :
    let w := d.contextWindow s context
    ((∃ first last, d.CoversLines w first last) ∧ w.start ≤ w.stop ∧ w.stop ≤ d.size) ∧
      (∀ context', context ≤ context' → w.Inside (d.contextWindow s context')) ∧
      (d.size ≤ largestIndex → w = d.window (d.lineIndex s.start - context)
        (min (d.lineIndex (max (s.stop - 1) s.start) + context) largestIndex)) ∧
      (s.start ≤ s.stop → s.stop ≤ d.size → s.Inside w ∧
        d.CoversLines w (d.lineIndex s.start - context) (min (d.lineCount - 1)
          (d.lineIndex (if s.start < s.stop then s.stop - 1 else s.start) + context))) := by
  have hlines := d.coversLines_contextWindow s context
  refine ⟨⟨⟨_, _, hlines⟩, hlines.bounds⟩, fun context' hle => ?_,
    fun hsize => contextWindow_eq_saturated hsize s context, fun hle hstop => ⟨?_, ?_⟩⟩
  · obtain ⟨hstart, hstop⟩ := d.contextWindow_mono s hle
    exact ⟨hstart, hlines.bounds.1, hstop⟩
  · exact inside_contextWindow hle hstop context
  · have hlast : (if s.start < s.stop then s.stop - 1 else s.start) = max (s.stop - 1) s.start := by
      split_ifs <;> omega
    rwa [hlast]

/-- Five lines: the third is empty, the fourth has a letter of two bytes, the last no terminator. -/
def fiveLines : Document := ⟨"a\nb\n\nß\ne".toList⟩

/-- A span that ends just after a line feed touches one line.  One line more on either side are the
first three, and the largest context is the whole text. -/
theorem contextWindow_covers_second :
    fiveLines.contextWindow ⟨2, 4⟩ 1 = ⟨0, 5⟩ ∧ fiveLines.CoversLines ⟨0, 5⟩ 0 2 ∧
      (⟨2, 4⟩ : Span).Inside ⟨0, 5⟩ ∧ fiveLines.contextWindow ⟨2, 4⟩ largestIndex = ⟨0, 9⟩ ∧
      (⟨0, 5⟩ : Span).Inside ⟨0, 9⟩ ∧ fiveLines.window 0 (min 2 largestIndex) = ⟨0, 5⟩ := by
  have hone : fiveLines.contextWindow ⟨2, 4⟩ 1 = ⟨0, 5⟩ := by decide
  have hall : fiveLines.contextWindow ⟨2, 4⟩ largestIndex = ⟨0, 9⟩ := by cbv
  obtain ⟨-, hgrows, hsaturated, hspan⟩ := contextWindow_covers fiveLines ⟨2, 4⟩ 1
  obtain ⟨hinside, hlines⟩ := hspan (by decide) (by decide)
  have hwider := hgrows largestIndex (by decide)
  have hwindow := hsaturated (by decide)
  rw [hone] at hinside hlines hwider hwindow
  rw [hall] at hwider
  exact ⟨hone, hlines, hinside, hall, hwider, hwindow.symm⟩

end Document

end Graft
