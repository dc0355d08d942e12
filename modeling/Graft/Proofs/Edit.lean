import Graft.Proofs.Plan

/-!
# Edits as cuts

A byte offset between two characters cuts a text in two (`Text.splitAt?_eq_some_iff`).  So the text
at a span is a piece of the document (`Document.spanText_eq_ok_iff`), and an edit that is accepted
puts another piece in its place (`Edit.apply_eq_ok_iff`).

A rule never commits an edit that puts back what it finds, so a change that is applied changes the
text (`Change.isApplied_iff_text_ne`).
-/

namespace Graft

/-! ### Cuts -/

namespace Text

@[simp] theorem size_append (a b : Text) : size (a ++ b) = size a + size b := by
  induction a with
  | nil => simp [size]
  | cons c a ih => simp [size, ih, Nat.add_assoc]

theorem size_eq_zero_iff {t : Text} : size t = 0 ↔ t = [] := by
  cases t with
  | nil => simp [size]
  | cons c t => simp [size, c.utf8Size_pos.ne']

theorem add_size_cons (pos : Nat) (c : Char) (t : Text) :
    pos + size (c :: t) = pos + c.utf8Size + size t := by
  rw [size, Nat.add_assoc]

theorem splitAt?_zero (t : Text) : splitAt? t 0 = some ([], t) := by
  cases t <;> rfl

/-- A text is cut where a piece of it ends. -/
theorem splitAt?_append (a b : Text) : splitAt? (a ++ b) (size a) = some (a, b) := by
  induction a with
  | nil => exact splitAt?_zero b
  | cons c a ih =>
      obtain ⟨n, hn⟩ := Nat.exists_eq_succ_of_ne_zero c.utf8Size_pos.ne'
      have hsize : size (c :: a) = n + size a + 1 := by rw [size, hn]; omega
      have hrest : n + size a + 1 - c.utf8Size = size a := by omega
      rw [hsize, List.cons_append, splitAt?, if_pos (by omega), hrest, ih]
      rfl

theorem splitAt?_eq_some_iff {t a b : Text} {n : Nat} :
    splitAt? t n = some (a, b) ↔ t = a ++ b ∧ size a = n := by
  constructor
  · intro h
    fun_induction splitAt? t n generalizing a b with
    | case1 t => cases h; exact ⟨rfl, rfl⟩
    | case2 => cases h
    | case3 c t n hc ih =>
        obtain ⟨cut, hcut, heq⟩ := Option.map_eq_some_iff.mp h
        cases heq
        obtain ⟨rfl, hsize⟩ := ih hcut
        exact ⟨rfl, by rw [size, hsize]; omega⟩
    | case4 => cases h
  · rintro ⟨rfl, rfl⟩
    exact splitAt?_append a b

theorem isBoundary_iff {t : Text} {n : Nat} :
    isBoundary t n = true ↔ ∃ a b, t = a ++ b ∧ size a = n := by
  simp only [isBoundary, Option.isSome_iff_exists, Prod.exists, splitAt?_eq_some_iff]

theorem le_size_of_isBoundary {t : Text} {n : Nat} (h : isBoundary t n = true) : n ≤ size t := by
  obtain ⟨a, b, rfl, rfl⟩ := isBoundary_iff.mp h
  rw [size_append]
  exact Nat.le_add_right _ _

/-- Of two cuts of one text, the later one cuts what the earlier one leaves. -/
theorem append_eq_of_size_le {a b a' b' : Text} (h : a ++ b = a' ++ b') (hle : size a ≤ size a') :
    ∃ x, a' = a ++ x ∧ b = x ++ b' := by
  rcases List.append_eq_append_iff.mp h with ⟨x, ha', hb⟩ | ⟨x, ha, hb'⟩
  · exact ⟨x, ha', hb⟩
  · have hx : x = [] := size_eq_zero_iff.mp (by rw [ha, size_append] at hle; omega)
    subst hx
    exact ⟨[], by simpa using ha.symm, by simpa using hb'.symm⟩

/-- A piece inside another piece of one text leaves something of it on either side. -/
theorem exists_sides {pre x post pre' x' post' : Text}
    (h : pre ++ x ++ post = pre' ++ x' ++ post') (hstart : size pre' ≤ size pre)
    (hstop : size pre + size x ≤ size pre' + size x') :
    ∃ u v, pre = pre' ++ u ∧ x' = u ++ x ++ v ∧ post = v ++ post' := by
  have hleft : pre' ++ (x' ++ post') = pre ++ (x ++ post) := by
    rw [← List.append_assoc, ← List.append_assoc, h]
  obtain ⟨u, rfl, hright⟩ := append_eq_of_size_le hleft hstart
  rw [← List.append_assoc] at hright
  rw [size_append] at hstop
  obtain ⟨v, rfl, rfl⟩ := append_eq_of_size_le hright.symm (by rw [size_append]; omega)
  exact ⟨u, v, rfl, rfl, rfl⟩

/-- A slice is the piece between two cuts. -/
theorem slice?_eq_some_iff {t x : Text} {first last : Nat} :
    slice? t first last = some x ↔
      ∃ pre post, t = pre ++ x ++ post ∧ size pre = first ∧ first + size x = last := by
  constructor
  · intro h
    unfold slice? at h
    split at h
    · next hle =>
        obtain ⟨⟨pre, rest⟩, hpre, h⟩ := Option.bind_eq_some_iff.mp h
        obtain ⟨⟨piece, post⟩, hpiece, h⟩ := Option.bind_eq_some_iff.mp h
        cases h
        obtain ⟨rfl, hsize⟩ := splitAt?_eq_some_iff.mp hpre
        obtain ⟨rfl, hsize'⟩ := splitAt?_eq_some_iff.mp hpiece
        exact ⟨pre, post, by rw [List.append_assoc], hsize, by omega⟩
    · cases h
  · rintro ⟨pre, post, rfl, rfl, rfl⟩
    have hlast : size pre + size x - size pre = size x := by omega
    rw [slice?, if_pos (by omega), List.append_assoc, splitAt?_append]
    simp [hlast, splitAt?_append]

theorem slice?_of_isBoundary {t : Text} {first last : Nat} (hfirst : isBoundary t first = true)
    (hlast : isBoundary t last = true) (hle : first ≤ last) : ∃ x, slice? t first last = some x := by
  obtain ⟨pre, rest, rfl, rfl⟩ := isBoundary_iff.mp hfirst
  obtain ⟨upto, post, htext, rfl⟩ := isBoundary_iff.mp hlast
  obtain ⟨x, rfl, rfl⟩ := append_eq_of_size_le htext hle
  exact ⟨x, slice?_eq_some_iff.mpr ⟨pre, post, htext, rfl, (size_append pre x).symm⟩⟩

end Text

/-! ### Spans and edits -/

namespace Document

/-- A span of a document is a piece of its text. -/
theorem spanText_eq_ok_iff {d : Document} {s : Span} {x : Text} :
    d.spanText s = .ok x ↔ ∃ pre post, d.text = pre ++ x ++ post ∧ Text.size pre = s.start ∧
      s.start + Text.size x = s.stop := by
  rw [← Text.slice?_eq_some_iff]
  constructor
  · intro h
    unfold spanText at h
    split_ifs at h with hrange hstart hstop
    cases h
    simp only [Bool.or_eq_true, decide_eq_true_eq, not_or, not_lt] at hrange
    simp only [Bool.not_eq_true', Bool.not_eq_false] at hstart hstop
    obtain ⟨x, hslice⟩ := Text.slice?_of_isBoundary hstart hstop hrange.1
    rw [textAt, hslice]
    rfl
  · intro h
    obtain ⟨pre, post, htext, hpre, hstop⟩ := Text.slice?_eq_some_iff.mp h
    have hsize : d.size = Text.size pre + Text.size x + Text.size post := by
      simp [Document.size, htext, Nat.add_assoc]
    have hstart : Text.isBoundary d.text s.start = true :=
      Text.isBoundary_iff.mpr ⟨pre, x ++ post, by rw [htext, List.append_assoc], hpre⟩
    have hend : Text.isBoundary d.text s.stop = true :=
      Text.isBoundary_iff.mpr ⟨pre ++ x, post, htext, by simp [hpre, hstop]⟩
    rw [spanText, if_neg (by simp; omega), hstart, hend, textAt, h]
    rfl

theorem splice_eq {d : Document} {s : Span} {pre old post : Text} (htext : d.text = pre ++ old ++ post)
    (hstart : Text.size pre = s.start) (hstop : s.start + Text.size old = s.stop) (new : Text) :
    d.splice s new = ⟨pre ++ new ++ post⟩ := by
  have hfirst : Text.splitAt? d.text s.start = some (pre, old ++ post) :=
    Text.splitAt?_eq_some_iff.mpr ⟨by rw [htext, List.append_assoc], hstart⟩
  have hlast : Text.splitAt? d.text s.stop = some (pre ++ old, post) :=
    Text.splitAt?_eq_some_iff.mpr ⟨htext, by rw [Text.size_append, hstart, hstop]⟩
  simp [splice, hfirst, hlast]

end Document

namespace Edit

/-- **What an edit does**: it puts its text in place of the piece at its span, if it accepts that
piece. -/
theorem apply_eq_ok_iff {e : Edit} {d d' : Document} :
    e.apply d = .ok d' ↔ ∃ pre old post, d.text = pre ++ old ++ post ∧
      Text.size pre = e.span.start ∧ e.span.start + Text.size old = e.span.stop ∧
      e.expected.accepts old = true ∧ d' = ⟨pre ++ e.new ++ post⟩ := by
  constructor
  · intro h
    unfold apply at h
    cases hspan : d.spanText e.span with
    | error why => rw [hspan] at h; cases h
    | ok old =>
        obtain ⟨pre, post, htext, hstart, hstop⟩ := Document.spanText_eq_ok_iff.mp hspan
        simp only [hspan] at h
        split_ifs at h with haccept
        rw [Document.splice_eq htext hstart hstop] at h
        cases h
        exact ⟨pre, old, post, htext, hstart, hstop, haccept, rfl⟩
  · rintro ⟨pre, old, post, htext, hstart, hstop, haccept, rfl⟩
    have hspan := Document.spanText_eq_ok_iff.mpr ⟨pre, post, htext, hstart, hstop⟩
    rw [apply, hspan]
    simp only [haccept, if_true, Document.splice_eq htext hstart hstop]

theorem isNoop_iff {e : Edit} {d : Document} : e.isNoop d = true ↔ d.spanText e.span = .ok e.new := by
  unfold isNoop
  cases d.spanText e.span <;> simp

/-- An edit that does something leaves another text. -/
theorem text_ne_of_apply {e : Edit} {d d' : Document} (hnoop : e.isNoop d = false)
    (h : e.apply d = .ok d') : d'.text ≠ d.text := by
  obtain ⟨pre, old, post, htext, hstart, hstop, -, rfl⟩ := apply_eq_ok_iff.mp h
  intro hsame
  rw [htext, List.append_left_inj, List.append_right_inj] at hsame
  have hspan := Document.spanText_eq_ok_iff.mpr ⟨pre, post, htext, hstart, hstop⟩
  rw [← hsame] at hspan
  rw [isNoop_iff.mpr hspan] at hnoop
  cases hnoop

end Edit

/-! ### Rules and changes -/

/-- **What a successful attempt has done**: found its anchor, planned an edit that changes something,
and applied it without a change of balance. -/
theorem Rule.attempt_eq_ok {r : Rule} {d d' : Document} (h : r.attempt d = .ok d') :
    ∃ m e, r.anchor.find d = some m ∧ r.plan d m = .ok e ∧ e.isNoop d = false ∧
      e.apply d = .ok d' ∧ Balance.of d'.text = Balance.of d.text := by
  unfold Rule.attempt at h
  cases hfind : r.anchor.find d with
  | none => rw [hfind] at h; cases h
  | some m =>
      cases hplan : r.plan d m with
      | error why => simp [hfind, hplan, Except.bind] at h
      | ok e =>
          simp only [hfind, hplan, Except.bind, Rule.commit] at h
          split_ifs at h with hnoop
          cases happly : e.apply d with
          | error why => rw [happly] at h; cases h
          | ok d'' =>
              simp only [happly] at h
              split_ifs at h with hbalance
              cases h
              exact ⟨m, e, rfl, hplan, Bool.not_eq_true _ ▸ hnoop, happly, hbalance⟩

theorem Rule.text_ne_of_attempt {r : Rule} {d d' : Document} (h : r.attempt d = .ok d') :
    d'.text ≠ d.text := by
  obtain ⟨m, e, -, -, hnoop, happly, -⟩ := Rule.attempt_eq_ok h
  exact Edit.text_ne_of_apply hnoop happly

/-- **Exactly the changes that are applied change the text.** -/
theorem Change.isApplied_iff_text_ne {c : Change} {d : Document} :
    (c.plan d).2.outcome.isApplied = true ↔ (c.plan d).1.text ≠ d.text := by
  rcases c.plan_cases d with ⟨-, h⟩ | ⟨-, r, -, d', a, hland, h⟩ | ⟨-, -, a, h⟩
  · simp [h, Outcome.isApplied]
  · simp [h, Outcome.isApplied, Rule.text_ne_of_attempt (Rule.land_eq_ok_iff.mp hland).1]
  · simp [h, Outcome.isApplied]

end Graft
