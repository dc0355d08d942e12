import Graft.Proofs.Bounds

/-!
# Rewrites are local

A rule that replaces puts its text in place of the match, or of one of its groups
(`Transform.plan_rewrites`).  A group lies inside its match (`Anchor.find_encloses`), so whatever
stands around the match stays as it is.

* `Rule.attempt_rewrites`: an attempt that lands has changed the document, and if it replaces, then
  nowhere but inside the leftmost match.
-/

namespace Graft

/-- `d'` is `d` with `new` in place of what stands at `s`. -/
def Document.Replaces (d d' : Document) (s : Span) (new : Text) : Prop :=
  ∃ before old after, d.text = before ++ old ++ after ∧ d'.text = before ++ new ++ after ∧
    Text.size before = s.start ∧ s.start + Text.size old = s.stop

/-- `s` does not start before `whole`, nor end after it, nor before it starts. -/
structure Span.Inside (s whole : Span) : Prop where
  start_le : whole.start ≤ s.start
  ordered  : s.start ≤ s.stop
  stop_le  : s.stop ≤ whole.stop

/-- What replaces a part of a text also replaces any larger part, together with what is left of it. -/
theorem Document.Replaces.widen {d d' : Document} {s whole : Span} {new x : Text}
    (h : d.Replaces d' s new) (hinside : s.Inside whole) (hwhole : d.spanText whole = .ok x) :
    ∃ new', d.Replaces d' whole new' := by
  obtain ⟨before, old, after, htext, htext', hstart, hstop⟩ := h
  obtain ⟨pre, post, hcut, hpre, hpost⟩ := Document.spanText_eq_ok_iff.mp hwhole
  have hle := hinside.start_le
  have hge := hinside.stop_le
  obtain ⟨u, v, rfl, -, rfl⟩ := Text.exists_sides (htext.symm.trans hcut) (by omega) (by omega)
  exact ⟨u ++ new ++ v, pre, x, post, hcut, by simp [htext'], hpre, hpost⟩

/-! ### Groups of a match -/

/-- **A group lies inside its match.** -/
theorem Anchor.find_encloses {a : Anchor} {d : Document} {m : Match} (h : a.find d = some m)
    {name : String} {s : Span} (hs : m.captureSpan name = some s) : s.Inside m.span := by
  have hmem := Match.mem_groups_of_captureSpan hs
  rcases find_cases h with ⟨u, needle, v, -, rfl⟩ | ⟨r, g, hg, rfl⟩
  · -- a literal has no group but the whole match
    cases List.mem_singleton.mp hmem
    exact ⟨le_rfl, Nat.le_add_right _ _, le_rfl⟩
  · obtain ⟨i, -, hi⟩ := List.mem_map.mp hmem
    obtain ⟨s, hgroup, rfl⟩ := Option.map_eq_some_iff.mp hi
    obtain ⟨hstart, hordered, hstop⟩ := Regex.find?_enclosed hg hgroup
    exact ⟨hstart, hordered, hstop⟩

/-! ### What a rule replaces -/

namespace Transform

/-- The span that a transform replaces at a match. -/
def Target (m : Match) (s : Span) : Transform → Prop
  | .replace _             => s = m.span
  | .replaceCapture name _ => m.captureSpan name = some s
  | _                      => False

theorem substitute_eq_ok {d : Document} {s : Span} {old new : Text} {e : Edit}
    (h : substitute d s old new = .ok e) : e.span = s ∧ e.new = new := by
  unfold substitute at h
  split_ifs at h
  unfold Edit.replaceIn at h
  cases hspan : d.spanText s with
  | error why => rw [hspan] at h; cases h
  | ok before =>
      rw [hspan] at h
      cases h
      exact ⟨rfl, rfl⟩

/-- **What a transform that replaces plans**: its text, filled in from the match, for its target. -/
theorem plan_rewrites {d : Document} {m : Match} {window : Span} {matchIndent : Bool} {t : Transform}
    {e : Edit} (hreplaces : t.insertsLines = false) (h : t.plan d m window matchIndent = .ok e) :
    t.Target m e.span ∧ e.new = m.expand d.text t.text := by
  cases t with
  | replace text =>
      obtain ⟨hspan, hnew⟩ := substitute_eq_ok h
      exact ⟨hspan, hnew⟩
  | replaceCapture name text =>
      rw [plan] at h
      cases hs : m.captureSpan name with
      | none => rw [hs] at h; cases h
      | some s =>
          rw [hs] at h
          obtain ⟨hspan, hnew⟩ := substitute_eq_ok h
          rw [hspan]
          exact ⟨hs, hnew⟩
  | insertBefore text | insertAfter text | insertAfterBlock text kind | insertIntoBlock text kind =>
      cases hreplaces

/-- The target is the match or a part of it. -/
theorem Target.inside {a : Anchor} {d : Document} {m : Match} (h : a.find d = some m) {s : Span}
    {t : Transform} (hs : t.Target m s) : s.Inside m.span := by
  cases t with
  | replace text =>
      obtain ⟨pre, post, -, -, hstop⟩ := Document.spanText_eq_ok_iff.mp (Anchor.spanText_of_find h)
      rw [show s = m.span from hs]
      exact ⟨le_rfl, hstop ▸ Nat.le_add_right _ _, le_rfl⟩
  | replaceCapture name text => exact Anchor.find_encloses h hs
  | insertBefore text | insertAfter text | insertAfterBlock text kind | insertIntoBlock text kind =>
      exact hs.elim

end Transform

/-- **A rewrite that lands is a change, and a local one.**  The new document differs from the old one.
If the rule replaces, then its target is the leftmost match or the group that it names, which lies
inside that match; what is new there is the text of the rule, filled in from the match; and what stands
around the match is the same as before. -/
theorem Rule.attempt_rewrites {r : Rule} {d d' : Document} (h : r.attempt d = .ok d') :
    d'.text ≠ d.text ∧ ∃ m, r.anchor.find d = some m ∧
      (r.transform.insertsLines = false → ∃ s, r.transform.Target m s ∧ s.Inside m.span ∧
        d.Replaces d' s (m.expand d.text r.transform.text) ∧ ∃ new, d.Replaces d' m.span new) := by
  obtain ⟨m, e, hfind, hplan, hnoop, happly, -⟩ := Rule.attempt_eq_ok h
  refine ⟨Edit.text_ne_of_apply hnoop happly, m, hfind, fun hreplaces => ?_⟩
  obtain ⟨htarget, hnew⟩ := Transform.plan_rewrites hreplaces hplan
  have hinside := htarget.inside hfind
  obtain ⟨before, old, after, htext, hstart, hstop, -, rfl⟩ := Edit.apply_eq_ok_iff.mp happly
  have hreplaced : d.Replaces ⟨before ++ e.new ++ after⟩ e.span e.new :=
    ⟨before, old, after, htext, rfl, hstart, hstop⟩
  exact ⟨e.span, htarget, hinside, hnew ▸ hreplaced,
    hreplaced.widen hinside (Anchor.spanText_of_find hfind)⟩

/-- Two calls of `é`. -/
def twoCalls : Document := ⟨"éa b éa".toList⟩

/-- The letter after `é`, which is group 1 of the anchor, twice. -/
def groupReplacing : Rule where
  id           := "double"
  anchor       :=
    ⟨.regex ⟨"é(a)".toList, .cat (.chars (.single 'é')) (.group 1 none (.chars (.single 'a')))⟩,
      .other, .refl false⟩
  contextLines := 0
  matchIndent  := false
  transform    := .replaceCapture "1" "$1$1".toList

/-- Only the first call changes, and of it only the group. -/
theorem Rule.attempt_rewrites_group :
    groupReplacing.attempt twoCalls = .ok ⟨"éaa b éa".toList⟩ ∧
      twoCalls.Replaces ⟨"éaa b éa".toList⟩ ⟨2, 3⟩ ['a', 'a'] ∧
      (⟨2, 3⟩ : Span).Inside ⟨0, 3⟩ ∧
      ∃ new, twoCalls.Replaces ⟨"éaa b éa".toList⟩ ⟨0, 3⟩ new := by
  have hattempt : groupReplacing.attempt twoCalls = .ok ⟨"éaa b éa".toList⟩ := by cbv
  have hfound : groupReplacing.anchor.find twoCalls =
      some ⟨⟨0, 3⟩, ['é', 'a'], [some ⟨0, 3⟩, some ⟨2, 3⟩], []⟩ := by cbv
  obtain ⟨-, m, hfind, hlocal⟩ := Rule.attempt_rewrites hattempt
  obtain ⟨s, htarget, hinside, hreplaces, hframe⟩ := hlocal rfl
  rw [hfound] at hfind
  cases hfind
  have hgroup : some ⟨2, 3⟩ = some s := htarget
  cases hgroup
  have hfilled : Match.expand ⟨⟨0, 3⟩, ['é', 'a'], [some ⟨0, 3⟩, some ⟨2, 3⟩], []⟩ twoCalls.text
      groupReplacing.transform.text = ['a', 'a'] := by cbv
  rw [hfilled] at hreplaces
  exact ⟨hattempt, hreplaces, hinside, hframe⟩

end Graft
