import Graft.Proofs.Marker
import Graft.Proofs.Partition

/-!
# Line endings

Inserted lines end as the lines of the document do.  They are put where a line starts or ends, so that
no carriage return is parted from its line feed (`Transform.Inserts.splice`), and what they bring along
is their own text without its terminators (`Text.return_not_mem_lines`).

* `Rule.attempt_line_endings`: after an insertion every line feed still comes after a carriage return,
  if it did before; and a document without carriage returns gets none, unless the text of the rule has
  one that ends no line.
-/

namespace Graft

open Text (pieces row IsLine)

namespace Text

/-! ### Line feeds after carriage returns -/

/-- Every line feed comes right after a carriage return. -/
def FeedsReturned (t : Text) : Prop := ∀ u v, t = u ++ '\n' :: v → u.getLast? = some '\r'

theorem feedsReturned_of_not_mem {t : Text} (h : '\n' ∉ t) : t.FeedsReturned := by
  rintro u v rfl
  simp at h

theorem feedsReturned_newline : FeedsReturned ['\r', '\n'] := by
  intro u v h
  match u with
  | [] => cases h
  | [c] => cases h; rfl
  | c :: d :: u => simp at h

theorem FeedsReturned.append {a b : Text} (ha : a.FeedsReturned) (hb : b.FeedsReturned) :
    (a ++ b).FeedsReturned := by
  intro u v h
  rcases List.append_eq_append_iff.mp h with ⟨x, rfl, hx⟩ | ⟨x, hx, hx'⟩
  · rw [List.getLast?_append, hb x v hx]
    rfl
  · cases x with
    | nil => cases hb [] v hx'.symm
    | cons c x =>
        cases hx'
        exact ha u x hx

theorem FeedsReturned.flatMap {α : Type} {l : List α} {f : α → Text}
    (h : ∀ x ∈ l, (f x).FeedsReturned) : FeedsReturned (l.flatMap f) := by
  induction l with
  | nil => exact feedsReturned_of_not_mem List.not_mem_nil
  | cons x l ih =>
      obtain ⟨hx, hl⟩ := List.forall_mem_cons.mp h
      exact hx.append (ih hl)

/-- What a text starts with. -/
theorem FeedsReturned.initial {a t : Text} (h : t.FeedsReturned) (ha : a <+: t) :
    a.FeedsReturned := by
  obtain ⟨b, rfl⟩ := ha
  rintro u v rfl
  exact h u (v ++ b) (by simp)

/-- What comes after a place that is not between a carriage return and a line feed. -/
theorem FeedsReturned.of_append {a b : Text} (h : (a ++ b).FeedsReturned)
    (ha : a.getLast? ≠ some '\r') : b.FeedsReturned := by
  rintro u v rfl
  have hlast := h (a ++ u) v (by simp)
  cases u with
  | nil => exact absurd (by simpa using hlast) ha
  | cons c u => simpa [List.getLast?_append] using hlast

/-! ### Carriage returns before line feeds -/

/-- Every carriage return comes right before a line feed. -/
def ReturnsFed (t : Text) : Prop := ∀ u v, t = u ++ '\r' :: v → v.head? = some '\n'

/-- Then a carriage return is the last character of its piece, and a line feed ended that piece. -/
theorem ReturnsFed.of_piece {t : Text} (h : t.ReturnsFed) {p : Text × Bool} (hp : p ∈ pieces t)
    {u v : Text} (hu : p.1 = u ++ '\r' :: v) : v = [] ∧ p.2 = true := by
  obtain ⟨pre, post, hpieces⟩ := List.append_of_mem hp
  have hfeed : '\n' ∉ p.1 := not_mem_of_mem_pieces hp
  have htext := Document.text_of_pieces (d := ⟨t⟩) hpieces
  cases hended : p.2 with
  | true =>
      rw [row_of_isLine ⟨hended, hfeed⟩, hu] at htext
      have hnext := h (pre.flatMap row ++ u) (v ++ '\n' :: post.flatMap row) (by simpa using htext)
      cases v with
      | nil => exact ⟨rfl, rfl⟩
      | cons c v =>
          cases hnext
          simp [hu] at hfeed
  | false =>
      -- the piece is the last one, and what follows the carriage return is part of it
      have hpost : post = [] := by
        by_contra hpost
        cases hended.symm.trans (isLine_of_cons hpieces hpost).1
      have hbare : row p = u ++ '\r' :: v := by simp [row, hended, hu]
      rw [hpost, hbare] at htext
      have hnext := h (pre.flatMap row ++ u) v (by simpa using htext)
      have hmem := List.mem_of_mem_head? hnext
      simp [hu, hmem] at hfeed

/-- **The lines of such a text have no carriage return.** -/
theorem return_not_mem_lines {t l : Text} (h : t.ReturnsFed) (hl : l ∈ lines t) : '\r' ∉ l := by
  obtain ⟨p, hp, rfl⟩ := List.mem_map.mp hl
  cases hended : p.2 with
  | true =>
      simp only [if_true, dropReturn]
      split_ifs with hlast
      · -- a second carriage return would be followed by the first
        obtain ⟨q, hq⟩ := List.getLast?_eq_some_iff.mp hlast
        rw [hq, List.dropLast_concat]
        intro hmem
        obtain ⟨u, v, rfl⟩ := List.append_of_mem hmem
        have hnil := (h.of_piece hp (u := u) (v := v ++ ['\r']) (by rw [hq]; simp)).1
        simp at hnil
      · intro hmem
        obtain ⟨u, v, hu⟩ := List.append_of_mem hmem
        rw [hu, (h.of_piece hp hu).1] at hlast
        simp at hlast
  | false =>
      simp only [Bool.false_eq_true, if_false]
      intro hmem
      obtain ⟨u, v, hu⟩ := List.append_of_mem hmem
      cases hended.symm.trans (h.of_piece hp hu).2

end Text

/-! ### Where lines are inserted -/

theorem Text.dropEnding_prefix (ending t : Text) : Text.dropEnding ending t <+: t := by
  unfold Text.dropEnding
  split_ifs
  · exact List.take_prefix _ _
  · exact List.prefix_rfl

namespace Document

variable {d : Document} {before after : Text} {n : Nat}

theorem getLast?_of_lineStop (htext : d.text = before ++ after)
    (hsize : Text.size before = (d.lineSpan n).stop) (h : (d.rowAt n).getLast? = some '\n') :
    before.getLast? = some '\n' := by
  obtain ⟨pre, post, hcut, hstart, hstop⟩ := spanText_eq_ok_iff.mp (d.spanText_lineSpan n)
  have hbefore : Text.splitAt? d.text (Text.size before) = some (before, after) :=
    Text.splitAt?_eq_some_iff.mpr ⟨htext, rfl⟩
  have hrow : Text.splitAt? d.text (Text.size before) = some (pre ++ d.rowAt n, post) :=
    Text.splitAt?_eq_some_iff.mpr ⟨hcut, by rw [Text.size_append, hstart, hstop, hsize]⟩
  rw [hrow] at hbefore
  cases hbefore
  rw [List.getLast?_append, h]
  rfl

/-- A line starts after a line feed, or where the text does. -/
theorem getLast?_of_lineStart (htext : d.text = before ++ after)
    (hsize : Text.size before = d.lineStart n) (hn : n < d.lineCount) :
    before = [] ∨ before.getLast? = some '\n' := by
  cases n with
  | zero => exact .inl (Text.size_eq_zero_iff.mp hsize)
  | succ n =>
      rw [← lineStop_eq_lineStart hn] at hsize
      exact .inr (getLast?_of_lineStop htext hsize (getLast?_rowAt hn))

/-- A line without a terminator is followed by nothing. -/
theorem eq_nil_of_not_terminated (htext : d.text = before ++ after)
    (hsize : Text.size before = (d.lineSpan n).stop) (hn : n < d.lineCount)
    (h : d.lineTerminated n = false) : after = [] := by
  have hlast : n = d.lineCount - 1 := by
    by_contra hne
    have hfeed := getLast?_rowAt (d := d) (n := n) (by omega)
    rw [lineTerminated, ← rowAt, hfeed] at h
    cases h
  rw [hlast, d.lineStop_last, Document.size, htext, Text.size_append] at hsize
  exact Text.size_eq_zero_iff.mp (Nat.left_eq_add.mp hsize)

end Document

namespace Transform

variable {d d' : Document}

/-- **What an insertion does to the text**: the new lines, or a line terminator and the new lines up to
their last one, stand between two parts of it, and not inside a line terminator. -/
theorem Inserts.splice {k : Nat} {lines : Text} {e : Edit} (h : Inserts d k lines e)
    (happly : e.apply d = .ok d') :
    ∃ before new after, d.text = before ++ after ∧ d'.text = before ++ new ++ after ∧
      (new = lines ∨ new <+: d.newline ++ lines) ∧ (before.getLast? ≠ some '\r' ∨ after = []) := by
  have hfeed : ∀ {before : Text}, before = [] ∨ before.getLast? = some '\n' →
      before.getLast? ≠ some '\r' := by
    rintro before (rfl | hlast)
    · simp
    · simp [hlast]
  rcases h with ⟨hk, rfl⟩ | ⟨n, hn, -, rfl⟩
  · obtain ⟨before, after, htext, hsize⟩ := Text.isBoundary_iff.mp (d.isBoundary_line k).1
    rw [← hsize] at happly
    exact ⟨before, lines, after, htext, Edit.text_of_insertion htext happly, .inl rfl,
      .inl (hfeed (Document.getLast?_of_lineStart htext hsize hk))⟩
  · obtain ⟨before, after, htext, hsize⟩ := Text.isBoundary_iff.mp (d.isBoundary_line n).2
    rw [afterLine, ← hsize] at happly
    cases hended : d.lineTerminated n with
    | true =>
        rw [hended, if_pos rfl] at happly
        have hrow : (d.rowAt n).getLast? = some '\n' := beq_iff_eq.mp hended
        exact ⟨before, lines, after, htext, Edit.text_of_insertion htext happly, .inl rfl,
          .inl (hfeed (.inr (Document.getLast?_of_lineStop htext hsize hrow)))⟩
    | false =>
        rw [hended, if_neg Bool.false_ne_true] at happly
        exact ⟨before, _, after, htext, Edit.text_of_insertion htext happly,
          .inr (Text.dropEnding_prefix _ _),
          .inr (Document.eq_nil_of_not_terminated htext hsize hn hended)⟩

/-! ### What is inserted -/

theorem Site.blank_indent {t : Transform} {m : Match} {window : Span} {k : Nat} {indent : Text}
    (h : t.Site d m window k indent) : ∀ c ∈ indent, c = ' ' ∨ c = '\t' := by
  have hline : ∀ n, ∀ c ∈ d.indentation n, c = ' ' ∨ c = '\t' := fun n c hc => by
    simpa using List.mem_takeWhile_imp hc
  have hinner : ∀ first last, ∀ c ∈ innerIndent d first last, c = ' ' ∨ c = '\t' := by
    intro first last
    unfold innerIndent
    split_ifs
    · exact hline _
    · exact List.forall_mem_append.mpr ⟨hline _, by simp⟩
  cases t with
  | replace text | replaceCapture name text => exact h.elim
  | insertBefore text | insertAfter text =>
      rw [h.2]
      exact hline _
  | insertAfterBlock text kind =>
      obtain ⟨b, -, -, rfl⟩ := h
      exact hline _
  | insertIntoBlock text kind =>
      obtain ⟨b, -, -, -, rfl⟩ := h
      exact hinner _ _

theorem feedsReturned_fragment (text : Text) {indent newline : Text} (hindent : '\n' ∉ indent)
    (hnewline : newline.FeedsReturned) : (fragment text indent newline).FeedsReturned := by
  refine Text.FeedsReturned.flatMap fun l hl => ?_
  refine (Text.feedsReturned_of_not_mem (List.not_mem_append ?_ (Text.feed_not_mem_lines hl))).append
    hnewline
  split_ifs
  · exact List.not_mem_nil
  · exact hindent

theorem return_not_mem_fragment {text indent newline : Text} (htext : text.ReturnsFed)
    (hindent : '\r' ∉ indent) (hnewline : '\r' ∉ newline) :
    '\r' ∉ fragment text indent newline := by
  intro hmem
  obtain ⟨l, hl, hmem⟩ := List.mem_flatMap.mp hmem
  refine List.not_mem_append (List.not_mem_append ?_ (Text.return_not_mem_lines htext hl)) hnewline hmem
  split_ifs
  · exact List.not_mem_nil
  · exact hindent

end Transform

namespace Document

/-- A document with line feeds, all of them after carriage returns, has lines that end in both. -/
theorem newline_of_feedsReturned {d : Document} (hfeed : '\n' ∈ d.text) (h : d.text.FeedsReturned) :
    d.newline = ['\r', '\n'] := by
  obtain ⟨u, v, htext⟩ := List.append_of_mem hfeed
  obtain ⟨u', rfl⟩ := List.getLast?_eq_some_iff.mp (h u v htext)
  exact if_pos (Text.contains_iff.mpr ⟨u', v, by simp [htext]⟩)

theorem newline_of_return_not_mem {d : Document} (h : '\r' ∉ d.text) : d.newline = ['\n'] := by
  refine if_neg fun hcontains => h ?_
  exact (Text.contains_iff.mp hcontains).subset (by simp)

end Document

/-- **Insertions keep the line endings of the document.**  If the document has line feeds, and each
comes right after a carriage return, then the same is true after an insertion, whatever line endings
the text of the rule has.  If the document has no carriage return, and each one in the text of the
rule comes right before a line feed, then there is none after an insertion. -/
theorem Rule.attempt_line_endings {r : Rule} {d d' : Document}
    (hinserts : r.transform.insertsLines = true) (h : r.attempt d = .ok d') :
    ('\n' ∈ d.text ∧ d.text.FeedsReturned → '\n' ∈ d'.text ∧ d'.text.FeedsReturned) ∧
      ('\r' ∉ d.text → r.transform.text.ReturnsFed → '\r' ∉ d'.text) := by
  obtain ⟨m, e, -, hplan, -, happly, -⟩ := Rule.attempt_eq_ok h
  obtain ⟨k, indent, hsite, -, hplanned⟩ := Transform.plan_inserts hinserts hplan
  obtain ⟨before, new, after, htext, htext', hnew, hplace⟩ := hplanned.splice happly
  have hblank : ∀ c ∈ if r.matchIndent then indent else [], c = ' ' ∨ c = '\t' := by
    split_ifs
    · exact hsite.blank_indent
    · simp
  rw [htext']
  constructor
  · rintro ⟨hfeed, hreturned⟩
    have hnewline := Document.newline_of_feedsReturned hfeed hreturned
    rw [hnewline] at hnew
    have hlines := Transform.feedsReturned_fragment r.transform.text
      (fun hmem => by simpa using hblank _ hmem) Text.feedsReturned_newline
    have hinserted : new.FeedsReturned := by
      rcases hnew with rfl | hstarts
      · exact hlines
      · exact (Text.feedsReturned_newline.append hlines).initial hstarts
    rw [htext] at hfeed hreturned
    have hafter : after.FeedsReturned := by
      rcases hplace with hlast | rfl
      · exact hreturned.of_append hlast
      · exact Text.feedsReturned_of_not_mem List.not_mem_nil
    refine ⟨?_, ((hreturned.initial (List.prefix_append _ _)).append hinserted).append hafter⟩
    simp only [List.mem_append] at hfeed ⊢
    tauto
  · intro hreturn hfed
    have hnewline := Document.newline_of_return_not_mem hreturn
    rw [hnewline] at hnew
    have hblanks : '\r' ∉ if r.matchIndent then indent else [] := fun hmem => by
      simpa using hblank _ hmem
    have hlines := Transform.return_not_mem_fragment hfed hblanks (show '\r' ∉ ['\n'] by decide)
    have hinserted : '\r' ∉ new := by
      rcases hnew with rfl | hstarts
      · exact hlines
      · exact fun hmem => List.not_mem_append (by decide) hlines (hstarts.subset hmem)
    rw [htext] at hreturn
    simp only [List.mem_append] at hreturn ⊢
    tauto

/-- Two lines, the last without a terminator. -/
def unreturned : Document := ⟨"a\n  b".toList⟩

/-- A line after `b`, which ends in a carriage return and a line feed. -/
def returning : Rule := { appending with transform := .insertAfter ['c', '\r', '\n'] }

/-- Line feeds become pairs in one document, and a pair becomes a line feed in the other. -/
theorem Rule.attempt_line_endings_both :
    appending.attempt unended = .ok ⟨"a\r\n  b\r\n  c\r\n".toList⟩ ∧
      Text.FeedsReturned "a\r\n  b\r\n  c\r\n".toList ∧
      returning.attempt unreturned = .ok ⟨"a\n  b\n  c".toList⟩ ∧ '\r' ∉ "a\n  b\n  c".toList := by
  have hpairs : appending.attempt unended = .ok ⟨"a\r\n  b\r\n  c\r\n".toList⟩ := by cbv
  have hfeeds : returning.attempt unreturned = .ok ⟨"a\n  b\n  c".toList⟩ := by cbv
  have htext : unended.text = ['a'] ++ ['\r', '\n'] ++ [' ', ' ', 'b'] := by decide
  have hreturned : unended.text.FeedsReturned := by
    rw [htext]
    exact ((Text.feedsReturned_of_not_mem (by decide)).append Text.feedsReturned_newline).append
      (Text.feedsReturned_of_not_mem (by decide))
  have hfed : Text.ReturnsFed ['c', '\r', '\n'] := by
    intro u v h
    rcases u with _ | ⟨c, _ | ⟨r, _ | ⟨n, u⟩⟩⟩
    · cases h
    · cases h; rfl
    · cases h
    · simp at h
  exact ⟨hpairs, ((attempt_line_endings rfl hpairs).1 ⟨by decide, hreturned⟩).2, hfeeds,
    (attempt_line_endings rfl hfeeds).2 (by decide) hfed⟩

end Graft
