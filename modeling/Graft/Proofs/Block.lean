import Graft.Proofs.Nesting
import Graft.Proofs.Scope

/-!
# Blocks as well-matched words

A search for a block reads the delimiters of the code from the first one of the right kind on.  It
ends at the first delimiter that makes what was read well matched (`Bracket.ClosesAt`), or at the
first that does not fit (`Bracket.ClashesAt`), or at the end if all that was read is the beginning
of a well-matched word (`Bracket.Unfinished`).

* `Block.closeFrom_tells`: the search ends in one of these ways and tells which.
* `Block.Tells.unique`: a word of delimiters ends in no more than one of them.
* `Block.find_iff_nesting`: so each answer of the search says exactly this.
-/

namespace Graft

/-! ### The order of code characters -/

namespace Code

/-- Code characters come in the order of their offsets. -/
theorem scanFrom_sorted (pos : Nat) (t : Text) :
    (scanFrom pos t).Pairwise fun x y => x.1 < y.1 := by
  fun_induction scanFrom pos t with
  | case1 => exact .nil
  | case2 pos c t hpass ih =>
      refine .cons ?_ ih
      rintro ⟨p, a⟩ hmem
      obtain ⟨u, v, -, rfl⟩ := exists_of_mem_scanFrom hmem
      have := c.utf8Size_pos
      simp only
      omega
  | case3 pos c t jumped rest hpass _ ih => exact ih

theorem scan_sorted (t : Text) (start : Nat) : (scan t start).Pairwise fun x y => x.1 < y.1 := by
  unfold scan
  split
  · exact scanFrom_sorted _ _
  · exact .nil

/-- Reading up to an offset is reading what stands before it. -/
theorem takeWhile_eq_filter {cs : List (Nat × Char)} (h : cs.Pairwise fun x y => x.1 < y.1)
    (stop : Nat) : cs.takeWhile (·.1 < stop) = cs.filter (·.1 < stop) := by
  induction h with
  | nil => rfl
  | @cons x cs hx _ ih =>
      by_cases hstop : x.1 < stop
      · simp [hstop, ih]
      · have hnone : cs.filter (·.1 < stop) = [] := by
          refine List.filter_eq_nil_iff.mpr fun y hy => ?_
          have := hx y hy
          simp only [decide_eq_true_eq]
          omega
        simp [hstop, hnone]

end Code

/-! ### Where a word of delimiters ends -/

namespace Bracket

/-- The delimiters among code characters, with their offsets. -/
def among (cs : List (Nat × Char)) : List (Nat × Bracket) :=
  cs.filterMap fun x => (ofChar? x.2).map (x.1, ·)

/-- Delimiters without their offsets. -/
def word (w : List (Nat × Bracket)) : List Bracket := w.map Prod.snd

/-- No beginning of the word is well matched, apart from the empty one. -/
def Open (u : List Bracket) : Prop := ∀ x, x <+: u → x ≠ [] → ¬ Matched x

/-- The beginning of a well-matched word, whose first delimiter is not closed yet. -/
def Unfinished (u : List Bracket) : Prop := (∃ v, Matched (u ++ v)) ∧ Open u

/-- `d` is the innermost delimiter that is open after the word. -/
def Innermost (d : Delimiter) (u : List Bracket) : Prop := ∃ x y, u = x ++ .opens d :: y ∧ Matched y

/-- The delimiters up to the one at `p` are well matched, and no shorter beginning is. -/
def ClosesAt (w : List (Nat × Bracket)) (p : Nat) : Prop :=
  ∃ u b, u ++ [(p, b)] <+: w ∧ Matched (word (u ++ [(p, b)])) ∧ Open (word u)

/-- The delimiters before the one at `p` are unfinished, and this one closes another kind than the
innermost that is open. -/
def ClashesAt (w : List (Nat × Bracket)) (p : Nat) : Prop :=
  ∃ u d d', u ++ [(p, .closes d')] <+: w ∧ Unfinished (word u) ∧ Innermost d (word u) ∧ d' ≠ d

theorem word_append (u v : List (Nat × Bracket)) : word (u ++ v) = word u ++ word v :=
  List.map_append

theorem word_mono {u v : List (Nat × Bracket)} (h : u <+: v) : word u <+: word v := h.map _

theorem word_concat_ne_nil (u : List (Nat × Bracket)) (x : Nat × Bracket) : word (u ++ [x]) ≠ [] := by
  simp [word]

theorem open_nil : Open [] := by
  intro x hx hne
  exact absurd (List.prefix_nil.mp hx) hne

/-- A word stays open when its next delimiter leaves something open. -/
theorem Open.concat {u : List Bracket} {b : Bracket} (h : Open u) (hb : ¬ Matched (u ++ [b])) :
    Open (u ++ [b]) := by
  intro x hx hne
  rcases List.prefix_concat_iff.mp hx with rfl | hx
  · exact hb
  · exact h x hx hne

theorem not_matched_of_pending {u : List Bracket} {d : Delimiter} {s : List Delimiter}
    (h : pending [] u = some (d :: s)) : ¬ Matched u := by
  rw [matched_iff, h]
  simp

/-- One more delimiter that leaves something open. -/
theorem Open.step {u : List (Nat × Bracket)} {s s' : List Delimiter} (h : Open (word u))
    (hs : pending [] (word u) = some s) {x : Nat × Bracket} {d : Delimiter}
    (hx : pending s [x.2] = some (d :: s')) :
    pending [] (word (u ++ [x])) = some (d :: s') ∧ Open (word (u ++ [x])) := by
  have hnext : pending [] (word u ++ [x.2]) = some (d :: s') := by
    rw [pending_append, hs]
    exact hx
  rw [word_append]
  exact ⟨hnext, h.concat (not_matched_of_pending hnext)⟩

theorem Open.unfinished {u : List Bracket} {s : List Delimiter} (h : Open u)
    (hs : pending [] u = some s) : Unfinished u := by
  refine ⟨⟨s.map .closes, ?_⟩, h⟩
  rw [matched_iff, pending_append, hs]
  exact pending_map_closes s

theorem innermost_of_pending {u : List Bracket} {d : Delimiter} {s : List Delimiter}
    (h : pending [] u = some (d :: s)) : Innermost d u := by
  cases leaves_iff.mpr h with
  | cons d hx hy => exact ⟨_, _, rfl, hy⟩

/-- Once a delimiter does not fit, no way to go on makes the word well matched. -/
theorem Innermost.not_matched {d d' : Delimiter} {u : List Bracket} (h : Innermost d u) (hne : d' ≠ d)
    (v : List Bracket) : ¬ Matched (u ++ .closes d' :: v) := by
  obtain ⟨x, y, rfl, hy⟩ := h
  rw [matched_iff, List.append_assoc, pending_append]
  cases pending [] x with
  | none => simp
  | some s =>
      rw [Option.bind_some, List.cons_append, pending, pending_append, hy.pending_eq]
      simp [pending, hne]

/-! ### A word ends in one way -/

variable {w : List (Nat × Bracket)} {p p' : Nat}

/-- Of two places in a word, they are the same or one comes first. -/
theorem concat_cases {u u' : List (Nat × Bracket)} {x x' : Nat × Bracket} (h : u ++ [x] <+: w)
    (h' : u' ++ [x'] <+: w) : (u = u' ∧ x = x') ∨ u ++ [x] <+: u' ∨ u' ++ [x'] <+: u := by
  rcases List.prefix_or_prefix_of_prefix h h' with hle | hle
  · rcases List.prefix_concat_iff.mp hle with heq | hlt
    · exact .inl (by simpa using heq)
    · exact .inr (.inl hlt)
  · rcases List.prefix_concat_iff.mp hle with heq | hlt
    · exact .inl (by simpa [eq_comm] using heq)
    · exact .inr (.inr hlt)

theorem ClosesAt.not_open (h : ClosesAt w p) : ¬ Open (word w) := by
  obtain ⟨u, b, hw, hmatched, -⟩ := h
  intro hopen
  exact hopen _ (word_mono hw) (word_concat_ne_nil u _) hmatched

theorem ClosesAt.unique (h : ClosesAt w p) (h' : ClosesAt w p') : p = p' := by
  obtain ⟨u, b, hw, hmatched, hopen⟩ := h
  obtain ⟨u', b', hw', hmatched', hopen'⟩ := h'
  rcases concat_cases hw hw' with ⟨-, heq⟩ | hlt | hlt
  · exact congrArg Prod.fst heq
  · exact absurd hmatched (hopen' _ (word_mono hlt) (word_concat_ne_nil u _))
  · exact absurd hmatched' (hopen _ (word_mono hlt) (word_concat_ne_nil u' _))

/-- Nothing makes a word well matched that has a delimiter that does not fit. -/
theorem ClashesAt.not_unfinished (h : ClashesAt w p) : ¬ Unfinished (word w) := by
  obtain ⟨u, d, d', ⟨post, rfl⟩, -, hinner, hne⟩ := h
  rintro ⟨⟨v, hv⟩, -⟩
  have hword : word (u ++ [(p, .closes d')] ++ post) ++ v =
      word u ++ .closes d' :: (word post ++ v) := by simp [word]
  rw [hword] at hv
  exact hinner.not_matched hne _ hv

theorem ClashesAt.unique (h : ClashesAt w p) (h' : ClashesAt w p') : p = p' := by
  obtain ⟨u, d, d', hw, hunfinished, hclash⟩ := h
  obtain ⟨u', e, e', hw', hunfinished', hclash'⟩ := h'
  rcases concat_cases hw hw' with ⟨-, heq⟩ | hlt | hlt
  · exact congrArg Prod.fst heq
  · exact absurd hunfinished' (ClashesAt.not_unfinished ⟨u, d, d', hlt, hunfinished, hclash⟩)
  · exact absurd hunfinished (ClashesAt.not_unfinished ⟨u', e, e', hlt, hunfinished', hclash'⟩)

theorem ClashesAt.not_closesAt (h : ClashesAt w p) : ¬ ClosesAt w p' := by
  obtain ⟨u, d, d', hw, hunfinished, hinner, hne⟩ := h
  rintro ⟨u', b', hw', hmatched, hopen⟩
  rcases concat_cases hw hw' with ⟨rfl, heq⟩ | ⟨post, rfl⟩ | hlt
  · cases heq
    rw [word_append] at hmatched
    exact hinner.not_matched hne [] hmatched
  · have hword : word (u ++ [(p, .closes d')] ++ post ++ [(p', b')]) =
        word u ++ .closes d' :: (word post ++ [b']) := by simp [word]
    rw [hword] at hmatched
    exact hinner.not_matched hne _ hmatched
  · exact hunfinished.2 _ (word_mono hlt) (word_concat_ne_nil u' _) hmatched

end Bracket

/-! ### The search -/

namespace Block

open Graft.Bracket

/-- What an answer of a search says about the delimiters from `opening` on. -/
def Tells (opening : Nat) (w : List (Nat × Bracket)) : Except BlockError Block → Prop
  | .ok b                    => b.opening = opening ∧ ClosesAt w b.closing
  | .error (.mismatched o p) => o = opening ∧ ClashesAt w p
  | .error (.unclosed o)     => o = opening ∧ Unfinished (word w)
  | .error .noOpening        => False

theorem among_cons_of_some {pos : Nat} {c : Char} {b : Bracket} (h : ofChar? c = some b)
    (cs : List (Nat × Char)) : among ((pos, c) :: cs) = (pos, b) :: among cs := by
  simp [among, h]

theorem among_cons_of_none {pos : Nat} {c : Char} (h : ofChar? c = none) (cs : List (Nat × Char)) :
    among ((pos, c) :: cs) = among cs := by
  simp [among, h]

/-- **How a search ends** that has read the delimiters `before`. -/
theorem closeFrom_tells {opening : Nat} {inner : Delimiter} {outer : List Delimiter}
    {cs : List (Nat × Char)} {before : List (Nat × Bracket)}
    (hpending : pending [] (word before) = some (inner :: outer)) (hopen : Open (word before)) :
    Tells opening (before ++ among cs) (closeFrom opening inner outer cs) := by
  fun_induction closeFrom opening inner outer cs generalizing before with
  | case1 inner outer =>
      have hend : before ++ among [] = before := List.append_nil _
      rw [hend]
      exact ⟨rfl, hopen.unfinished hpending⟩
  | case2 inner outer pos c cs d hc ih =>
      rw [among_cons_of_some (ofChar?_of_opening? hc), List.append_cons]
      obtain ⟨hpending', hopen'⟩ := hopen.step hpending (x := (pos, .opens d)) rfl
      exact ih hpending' hopen'
  | case3 inner outer pos c cs hc hc' ih =>
      rw [among_cons_of_none (by rw [ofChar?_of_closing? hc, hc']; rfl)]
      exact ih hpending hopen
  | case4 pos c cs hc d hc' =>
      have hb : ofChar? c = some (.closes d) := by rw [ofChar?_of_closing? hc, hc']; rfl
      rw [among_cons_of_some hb, List.append_cons]
      refine ⟨rfl, before, .closes d, List.prefix_append _ _, ?_, hopen⟩
      rw [word_append, matched_iff, pending_append, hpending]
      simp [word, pending]
  | case5 pos c cs hc d hc' inner outer ih =>
      have hb : ofChar? c = some (.closes d) := by rw [ofChar?_of_closing? hc, hc']; rfl
      rw [among_cons_of_some hb, List.append_cons]
      have hfits : pending (d :: inner :: outer) [.closes d] = some (inner :: outer) := by
        simp [pending]
      obtain ⟨hpending', hopen'⟩ := hopen.step hpending (x := (pos, .closes d)) hfits
      exact ih hpending' hopen'
  | case6 inner outer pos c cs hc d hc' hne =>
      have hb : ofChar? c = some (.closes d) := by rw [ofChar?_of_closing? hc, hc']; rfl
      rw [among_cons_of_some hb, List.append_cons]
      exact ⟨rfl, before, inner, d, List.prefix_append _ _, hopen.unfinished hpending,
        innermost_of_pending hpending, hne⟩

/-- A search can end in one way only. -/
theorem Tells.unique {opening : Nat} {w : List (Nat × Bracket)} {r r' : Except BlockError Block}
    (h : Tells opening w r) (h' : Tells opening w r') : r = r' := by
  rcases r with (_ | o | ⟨o, p⟩) | ⟨o, p⟩
  · exact h.elim
  · obtain ⟨rfl, hw⟩ := h
    rcases r' with (_ | o' | ⟨o', p'⟩) | ⟨o', p'⟩
    · exact h'.elim
    · rw [h'.1]
    · exact absurd hw h'.2.not_unfinished
    · exact absurd hw.2 h'.2.not_open
  · obtain ⟨rfl, hw⟩ := h
    rcases r' with (_ | o' | ⟨o', p'⟩) | ⟨o', p'⟩
    · exact h'.elim
    · exact absurd h'.2 hw.not_unfinished
    · rw [h'.1, hw.unique h'.2]
    · exact absurd h'.2 hw.not_closesAt
  · obtain ⟨hopening, hw⟩ := h
    rcases r' with (_ | o' | ⟨o', p'⟩) | ⟨o', p'⟩
    · exact h'.elim
    · exact absurd h'.2.2 hw.not_open
    · exact absurd hw h'.2.not_closesAt
    · have hclosing : p = p' := hw.unique h'.2
      rw [show o = o' from hopening.trans h'.1.symm, hclosing]

/-! ### The first block -/

theorem opening?_of_opener? {kind : BlockKind} {c : Char} {d : Delimiter}
    (h : kind.opener? c = some d) : Delimiter.opening? c = some d := by
  cases kind with
  | any => exact h
  | only d' => exact (Option.filter_eq_some_iff.mp h).1

/-- What comes before the first delimiter of the right kind does not matter. -/
theorem openFrom_append {kind : BlockKind} {before : List (Nat × Char)}
    (h : ∀ x ∈ before, kind.opener? x.2 = none) (cs : List (Nat × Char)) :
    openFrom kind (before ++ cs) = openFrom kind cs := by
  induction before with
  | nil => rfl
  | cons x before ih =>
      obtain ⟨hx, hbefore⟩ := List.forall_mem_cons.mp h
      rw [List.cons_append, openFrom, hx]
      exact ih hbefore

theorem openFrom_of_opener? {kind : BlockKind} {pos : Nat} {c : Char} {d : Delimiter}
    (h : kind.opener? c = some d) (cs : List (Nat × Char)) :
    openFrom kind ((pos, c) :: cs) = closeFrom pos d [] cs := by
  rw [openFrom, h]

/-- **How a search ends** once it has found a delimiter of the right kind. -/
theorem openFrom_tells {kind : BlockKind} {pos : Nat} {c : Char} {d : Delimiter}
    (h : kind.opener? c = some d) (cs : List (Nat × Char)) :
    Tells pos (among ((pos, c) :: cs)) (openFrom kind ((pos, c) :: cs)) := by
  rw [openFrom_of_opener? h, among_cons_of_some (ofChar?_of_opening? (opening?_of_opener? h))]
  have hpending : pending [] (word [(pos, .opens d)]) = some [d] := rfl
  have hopen : Open (word [(pos, .opens d)]) := open_nil.concat (not_matched_of_pending hpending)
  exact closeFrom_tells hpending hopen

theorem openFrom_eq_noOpening_iff {kind : BlockKind} {cs : List (Nat × Char)} :
    openFrom kind cs = .error .noOpening ↔ ∀ x ∈ cs, kind.opener? x.2 = none := by
  induction cs with
  | nil => simp [openFrom]
  | cons x cs ih =>
      obtain ⟨pos, c⟩ := x
      rw [List.forall_mem_cons]
      cases hc : kind.opener? c with
      | none => simp [openFrom, hc, ih]
      | some d =>
          have htells : Tells pos _ _ := openFrom_tells hc cs
          constructor
          · intro hnone
            rw [hnone] at htells
            exact htells.elim
          · rintro ⟨hnone, -⟩
            cases hnone

theorem find_eq_openFrom (t : Text) (range : Span) (kind : BlockKind) :
    find t range kind = openFrom kind
      ((Code.scan t range.start).filter (·.1 < min range.stop (Text.size t))) := by
  rw [find, Code.takeWhile_eq_filter (Code.scan_sorted t range.start)]

/-- A block opens before it closes. -/
theorem opening_lt_closing {t : Text} {range : Span} {kind : BlockKind} {b : Block}
    (h : find t range kind = .ok b) : b.opening < b.closing := by
  rw [find_eq_openFrom] at h
  have hsorted := (Code.scan_sorted t range.start).filter (·.1 < min range.stop (Text.size t))
  revert hsorted h
  generalize (Code.scan t range.start).filter (·.1 < min range.stop (Text.size t)) = cs
  intro h hsorted
  fun_induction openFrom kind cs with
  | case1 => cases h
  | case2 pos c cs d hc =>
      have htells : Tells pos _ _ := openFrom_tells hc cs
      rw [openFrom_of_opener? hc, h] at htells
      obtain ⟨c', -, hmem, -⟩ := closesIn_of_closeFrom h
      have hlt := (List.pairwise_cons.mp hsorted).1 _ hmem
      rw [htells.1]
      exact hlt
  | case3 pos c cs hc ih => exact ih h (List.pairwise_cons.mp hsorted).2

/-- **A search for a block matches delimiters.**  Let `cs` be the code characters from the start of
the range on that stand before its end.  There is no opening exactly when none of them opens a block
of the kind.  Otherwise let `opening` be the offset of the first that does, and `w` the delimiters
from there on.  The block closes at `p` exactly when the delimiters of `w` up to `p` are well matched
and no shorter beginning is.  The delimiter at `p` is mismatched exactly when those of `w` before it
are the beginning of a well-matched word that does not close the first, and it closes another kind
than the innermost that is open.  The block is unclosed exactly when all of `w` is such a
beginning. -/
theorem find_iff_nesting (t : Text) (range : Span) (kind : BlockKind) :
    let cs := (Code.scan t range.start).filter (·.1 < min range.stop (Text.size t))
    (find t range kind = .error .noOpening ↔ ∀ x ∈ cs, kind.opener? x.2 = none) ∧
    ∀ before opening c after, cs = before ++ (opening, c) :: after →
      (∀ x ∈ before, kind.opener? x.2 = none) → kind.opener? c ≠ none →
      let w := among ((opening, c) :: after)
      (∀ o p, find t range kind = .ok ⟨o, p⟩ ↔ o = opening ∧ ClosesAt w p) ∧
      (∀ o p, find t range kind = .error (.mismatched o p) ↔ o = opening ∧ ClashesAt w p) ∧
      (∀ o, find t range kind = .error (.unclosed o) ↔ o = opening ∧ Unfinished (word w)) := by
  intro cs
  rw [find_eq_openFrom]
  refine ⟨openFrom_eq_noOpening_iff, ?_⟩
  intro before opening c after hcs hbefore hc w
  obtain ⟨d, hd⟩ := Option.ne_none_iff_exists'.mp hc
  have htells : Tells opening w (openFrom kind cs) := by
    rw [hcs, openFrom_append hbefore]
    exact openFrom_tells hd after
  have hiff : ∀ r, openFrom kind cs = r ↔ Tells opening w r := by
    intro r
    constructor
    · rintro rfl
      exact htells
    · exact fun h => htells.unique h
  exact ⟨fun o p => hiff _, fun o p => hiff _, fun o => hiff _⟩

/-- In `f(")",[b)` the last delimiter is mismatched: the one in the string does not count, and the
square one is still open. -/
theorem find_iff_nesting_clash :
    let t := ['f', '(', '"', ')', '"', ',', '[', 'b', ')']
    let w := [(1, .opens .paren), (6, .opens .bracket), (8, .closes .paren)]
    find t ⟨0, 20⟩ .any = .error (.mismatched 1 8) ∧ ClashesAt w 8 := by
  intro t w
  have hfind : find t ⟨0, 20⟩ .any = .error (.mismatched 1 8) := by cbv
  have hcs : (Code.scan t 0).filter (·.1 < min 20 (Text.size t)) =
      [(0, 'f')] ++ (1, '(') :: [(5, ','), (6, '['), (7, 'b'), (8, ')')] := by cbv
  obtain ⟨-, hends⟩ := find_iff_nesting t ⟨0, 20⟩ .any
  obtain ⟨-, hclash, -⟩ := hends _ _ _ _ hcs (by decide) (by decide)
  exact ⟨hfind, ((hclash 1 8).mp hfind).2⟩

end Block

end Graft
