import Graft.Proofs.Bytes

/-!
# Edits can be undone

An edit is refused for the first thing that is wrong with it (`Edit.Refused`), and otherwise replaces the
bytes at its span and no others (`Edit.bytes_of_apply`).  What it has put in then stands where it says, so
that another edit can take it out again (`Edit.exists_undo`).

* `Edit.apply_exact_undoable`: all of this for every edit and every document, with offsets of any size.
-/

namespace Graft

/-- A short text is expected as it is, and a long one by its digest. -/
theorem Verification.accepts_ofText_iff {expected t : Text} :
    (ofText expected).accepts t = true ↔
      if Text.size expected ≤ 1024 then t = expected else Digest.ofText t = Digest.ofText expected := by
  unfold ofText exactLimit
  split_ifs with hlong hshort hshort
  · omega
  · simp [accepts]
  · simp [accepts]
  · omega

namespace Edit

/-- Why an edit is refused: its span ends before it starts or past the end, starts inside a character,
ends inside one, or does not hold what is expected.  What comes first counts. -/
inductive Refused (e : Edit) (d : Document) : EditError → Prop where
  | range (h : ¬ (e.span.start ≤ e.span.stop ∧ e.span.stop ≤ d.size)) :
      Refused e d (.range e.span d.size)
  | start (hrange : e.span.start ≤ e.span.stop ∧ e.span.stop ≤ d.size)
      (h : ¬ Text.Boundary d.text e.span.start) : Refused e d (.boundary e.span.start)
  | stop (hrange : e.span.start ≤ e.span.stop ∧ e.span.stop ≤ d.size)
      (hstart : Text.Boundary d.text e.span.start) (h : ¬ Text.Boundary d.text e.span.stop) :
      Refused e d (.boundary e.span.stop)
  | mismatch {found : Text} (hspan : d.Contains e.span)
      (hfound : Text.bytes found = d.text.bytesAt e.span) (h : e.expected.accepts found = false) :
      Refused e d (.mismatch e.span found)

variable {e : Edit} {d d' : Document}

theorem apply_of_error {why : EditError} (h : d.spanText e.span = .error why) :
    e.apply d = .error why := by
  rw [apply, h]

/-- **Why edits are refused.** -/
theorem apply_eq_error_iff {why : EditError} : e.apply d = .error why ↔ e.Refused d why := by
  have houtside : (e.span.stop < e.span.start || d.size < e.span.stop) = true ↔
      ¬ (e.span.start ≤ e.span.stop ∧ e.span.stop ≤ d.size) := by
    simp only [Bool.or_eq_true, decide_eq_true_eq]
    omega
  constructor
  · intro h
    unfold apply at h
    cases hspan : d.spanText e.span with
    | error why' =>
        rw [hspan] at h
        cases h
        unfold Document.spanText at hspan
        split_ifs at hspan with hrange hstart hstop
        · cases hspan
          exact .range (houtside.mp hrange)
        · cases hspan
          rw [houtside, not_not] at hrange
          exact .start hrange (Text.not_isBoundary_iff.mp hstart)
        · cases hspan
          rw [houtside, not_not] at hrange
          rw [Text.not_isBoundary_iff, not_not] at hstart
          exact .stop hrange hstart (Text.not_isBoundary_iff.mp hstop)
    | ok found =>
        simp only [hspan] at h
        split_ifs at h with haccepts
        cases h
        obtain ⟨hcontains, hbytes⟩ := Document.spanText_eq_ok_iff_bytes.mp hspan
        exact .mismatch hcontains hbytes (Bool.not_eq_true _ ▸ haccepts)
  · intro h
    cases h with
    | range h => exact apply_of_error (if_pos (houtside.mpr h))
    | start hrange h =>
        have hinside := mt houtside.mp (not_not.mpr hrange)
        exact apply_of_error (by
          rw [Document.spanText, if_neg hinside, if_pos (Text.not_isBoundary_iff.mpr h)])
    | stop hrange hstart h =>
        have hinside := mt houtside.mp (not_not.mpr hrange)
        have hfirst := mt Text.not_isBoundary_iff.mp (not_not.mpr hstart)
        exact apply_of_error (by
          rw [Document.spanText, if_neg hinside, if_neg hfirst, if_pos (Text.not_isBoundary_iff.mpr h)])
    | mismatch hcontains hfound h =>
        rw [apply, Document.spanText_eq_ok_iff_bytes.mpr ⟨hcontains, hfound⟩]
        simp only [h, Bool.false_eq_true, if_false]

theorem exists_apply_iff : (∃ d', e.apply d = .ok d') ↔
    d.Contains e.span ∧ ∃ old, Text.bytes old = d.text.bytesAt e.span ∧ e.expected.accepts old = true := by
  constructor
  · rintro ⟨d', h⟩
    obtain ⟨pre, old, post, htext, hstart, hstop, haccepts, -⟩ := apply_eq_ok_iff.mp h
    obtain ⟨hcontains, hbytes⟩ := Document.spanText_eq_ok_iff_bytes.mp
      (Document.spanText_eq_ok_iff.mpr ⟨pre, post, htext, hstart, hstop⟩)
    exact ⟨hcontains, old, hbytes, haccepts⟩
  · rintro ⟨hcontains, old, hbytes, haccepts⟩
    exact Fits.apply ⟨old, Document.spanText_eq_ok_iff_bytes.mpr ⟨hcontains, hbytes⟩, haccepts⟩

/-- **An edit replaces the bytes at its span** and leaves all others. -/
theorem bytes_of_apply (h : e.apply d = .ok d') : Text.bytes d'.text =
    (Text.bytes d.text).take e.span.start ++ Text.bytes e.new ++ (Text.bytes d.text).drop e.span.stop := by
  obtain ⟨pre, old, post, htext, hstart, hstop, -, rfl⟩ := apply_eq_ok_iff.mp h
  have htake : (Text.bytes d.text).take e.span.start = Text.bytes pre := by
    rw [htext, List.append_assoc, Text.bytes_append, ← hstart, ← Text.length_bytes, List.take_left]
  have hdrop : (Text.bytes d.text).drop e.span.stop = Text.bytes post := by
    rw [htext, ← hstop, ← hstart, ← Text.size_append, Text.drop_bytes_append]
  rw [htake, hdrop, Text.bytes_append, Text.bytes_append]

theorem isNoop_iff_of_apply (h : e.apply d = .ok d') : e.isNoop d = true ↔ d' = d := by
  constructor
  · intro hnoop
    obtain ⟨pre, old, post, htext, hstart, hstop, -, rfl⟩ := apply_eq_ok_iff.mp h
    have hspan := Document.spanText_eq_ok_iff.mpr ⟨pre, post, htext, hstart, hstop⟩
    rw [isNoop_iff.mp hnoop] at hspan
    cases hspan
    cases d
    exact congrArg Document.mk htext.symm
  · intro hsame
    by_contra hnoop
    exact text_ne_of_apply (Bool.not_eq_true _ ▸ hnoop) h (congrArg Document.text hsame)

/-- The edit that takes out what `e` has put in, for what stood there before. -/
theorem exists_undo {old : Text} (h : e.apply d = .ok d') (hold : d.spanText e.span = .ok old) :
    ∃ undo, replaceIn d' ⟨e.span.start, e.span.start + Text.size e.new⟩ old = .ok undo ∧
      undo.apply d' = .ok d := by
  obtain ⟨pre, old', post, htext, hstart, hstop, -, rfl⟩ := apply_eq_ok_iff.mp h
  cases hold.symm.trans (Document.spanText_eq_ok_iff.mpr ⟨pre, post, htext, hstart, hstop⟩)
  have hspan : Document.spanText ⟨pre ++ e.new ++ post⟩
      ⟨e.span.start, e.span.start + Text.size e.new⟩ = .ok e.new :=
    Document.spanText_eq_ok_iff.mpr ⟨pre, post, rfl, hstart, rfl⟩
  refine ⟨replacing _ old e.new, by rw [replaceIn, hspan]; rfl, ?_⟩
  obtain ⟨text⟩ := d
  exact apply_eq_ok_iff.mpr ⟨pre, e.new, post, rfl, hstart, rfl, Verification.accepts_ofText _,
    congrArg Document.mk htext⟩

theorem apply_of_replaceIn {span : Span} {new : Text} (h : replaceIn d span new = .ok e) :
    ∃ d', e.apply d = .ok d' := by
  unfold replaceIn at h
  cases hspan : d.spanText span with
  | error why => rw [hspan] at h; cases h
  | ok before =>
      rw [hspan] at h
      cases h
      exact (fits_replacing hspan new).apply

/-- **Edits are exact, and they can be undone.**  An edit is applied exactly when its span is one of the
document's and holds what the edit accepts: the expected text itself if that is no longer than 1024 bytes,
and a text with the same digest if it is longer.  Otherwise it is refused for the first thing that is wrong.
An edit that is applied replaces the bytes at its span and no others, it does nothing exactly if the new
document is the old one, and to replace what it has put in by what stood there before gives back the old
document.  An edit that was made to replace a span of the document is applied to it. -/
theorem apply_exact_undoable (e : Edit) (d : Document) :
    ((∃ d', e.apply d = .ok d') ↔ d.Contains e.span ∧
      ∃ old, Text.bytes old = d.text.bytesAt e.span ∧ e.expected.accepts old = true) ∧
    (∀ span new expected old, (replacing span new expected).expected.accepts old = true ↔
      if Text.size expected ≤ 1024 then old = expected
      else Digest.ofText old = Digest.ofText expected) ∧
    (∀ why, e.apply d = .error why ↔ e.Refused d why) ∧
    (∀ d', e.apply d = .ok d' →
      Text.bytes d'.text = (Text.bytes d.text).take e.span.start ++ Text.bytes e.new ++
        (Text.bytes d.text).drop e.span.stop ∧
      (e.isNoop d = true ↔ d' = d) ∧
      ∃ old undo, Text.bytes old = d.text.bytesAt e.span ∧
        replaceIn d' ⟨e.span.start, e.span.start + Text.size e.new⟩ old = .ok undo ∧
        undo.apply d' = .ok d) ∧
    ∀ span new made, replaceIn d span new = .ok made → ∃ d', made.apply d = .ok d' := by
  refine ⟨exists_apply_iff, fun _ _ _ _ => Verification.accepts_ofText_iff,
    fun _ => apply_eq_error_iff, fun d' h => ?_, fun _ _ _ => apply_of_replaceIn⟩
  obtain ⟨hcontains, old, hbytes, -⟩ := exists_apply_iff.mp ⟨d', h⟩
  obtain ⟨undo, hmade, hundone⟩ :=
    exists_undo h (Document.spanText_eq_ok_iff_bytes.mpr ⟨hcontains, hbytes⟩)
  exact ⟨bytes_of_apply h, isNoop_iff_of_apply h, old, undo, hbytes, hmade, hundone⟩

/-- A letter of two bytes between two others. -/
def accentedLetter : Document := ⟨['a', 'é', 'b']⟩

/-- Three letters for the one in the middle, and back again.  Nothing can be put inside it. -/
theorem apply_exact_undoable_accented :
    (replacing ⟨1, 3⟩ ['x', 'y', 'z'] ['é']).apply accentedLetter = .ok ⟨['a', 'x', 'y', 'z', 'b']⟩ ∧
      (∃ undo, replaceIn ⟨['a', 'x', 'y', 'z', 'b']⟩ ⟨1, 4⟩ ['é'] = .ok undo ∧
        undo.apply ⟨['a', 'x', 'y', 'z', 'b']⟩ = .ok accentedLetter) ∧
      (insertion 2 ['x']).Refused accentedLetter (.boundary 2) := by
  have happly : (replacing ⟨1, 3⟩ ['x', 'y', 'z'] ['é']).apply accentedLetter =
      .ok ⟨['a', 'x', 'y', 'z', 'b']⟩ := by cbv
  obtain ⟨-, -, -, hok, -⟩ := apply_exact_undoable (replacing ⟨1, 3⟩ ['x', 'y', 'z'] ['é']) accentedLetter
  obtain ⟨-, -, hrefused, -, -⟩ := apply_exact_undoable (insertion 2 ['x']) accentedLetter
  obtain ⟨-, -, old, undo, hbytes, hmade, hundone⟩ := hok _ happly
  have hspan : accentedLetter.spanText ⟨1, 3⟩ = .ok ['é'] := by cbv
  cases Text.bytes_injective (hbytes.trans (Document.bytes_of_spanText hspan).symm)
  exact ⟨happly, ⟨undo, hmade, hundone⟩, (hrefused _).mp (by cbv)⟩

end Edit

end Graft
