import Graft.Proofs.Bounds
import Graft.Proofs.Splice

/-!
# Blocks by themselves

A block that is found in the middle of a text is well matched as a text of its own, with its
delimiters and without them.  The search reads the block with all that follows in sight; a scan of the
block alone comes to the closing delimiter as well, because each string and comment before it ends in
the same place when the text is cut there (`Code.Arrives.of_append`).

* `Code.exists_cut`: each character that a scan finds cuts the text into two that are scanned by
  themselves.
* `Bracket.Matched.of_open`: a word that is well matched only at its end is one pair of delimiters
  around a well-matched word.
* `Block.find_balanced`: so a block has no balance, and neither has its interior.
-/

namespace Graft

/-! ### Cuts at code characters -/

namespace Code

/-- A scan that comes to a place comes to it as well when the text after it is cut off. -/
theorem Arrives.of_append {a b b' : Text} (h : Arrives a (b ++ b')) : Arrives a b := by
  generalize htext : b ++ b' = t at h
  induction h with
  | nil t => exact .nil b
  | @code c a t hpass _ ih =>
      subst htext
      rw [← List.append_assoc] at hpass
      exact .code (pass_of_append_none hpass) (ih rfl)
  | @past c jumped a t hpass _ ih =>
      subst htext
      have hcut : pass c (jumped ++ (a ++ b)) = some (jumped, a ++ b) :=
        pass_of_append (by simpa using hpass)
      exact .past (by simpa using hcut) (ih rfl)

/-- **A code character cuts a scan**: what is found before it is found in the text before it, and what
is found after it in the text after it. -/
theorem exists_cut {pos p : Nat} {c : Char} {t : Text} {before after : List (Nat × Char)}
    (h : scanFrom pos t = before ++ (p, c) :: after) :
    ∃ u v, t = u ++ c :: v ∧ p = pos + Text.size u ∧ Arrives u (c :: v) ∧
      scanFrom pos u = before ∧ scanFrom (p + c.utf8Size) v = after := by
  fun_induction scanFrom pos t generalizing before with
  | case1 => simp at h
  | case2 pos x t hpass ih =>
      cases before with
      | nil =>
          obtain ⟨heq, rfl⟩ := List.cons.inj h
          cases heq
          exact ⟨[], t, rfl, rfl, .nil _, by rw [scanFrom], rfl⟩
      | cons y before =>
          obtain ⟨rfl, hrest⟩ := List.cons.inj h
          obtain ⟨u, v, rfl, rfl, harrives, rfl, rfl⟩ := ih hrest
          exact ⟨x :: u, v, rfl, (Text.add_size_cons _ _ _).symm, .code hpass harrives,
            scanFrom_of_none (pass_of_append_none hpass), rfl⟩
  | case3 pos x t jumped rest hpass _ ih =>
      obtain ⟨u, v, rfl, rfl, harrives, rfl, rfl⟩ := ih h
      obtain rfl := append_of_pass hpass
      rw [← List.append_assoc] at hpass
      refine ⟨x :: (jumped ++ u), v, by simp, ?_, .past hpass harrives,
        scanFrom_of_some (pass_of_append hpass), rfl⟩
      rw [Text.add_size_cons, Text.size_append, Nat.add_assoc]

end Code

/-! ### Pairs of delimiters -/

namespace Bracket

/-- A word that is well matched, and no beginning of it is, is a pair of delimiters around a
well-matched word. -/
theorem Matched.of_open {u : List Bracket} {b : Bracket} (h : Matched (u ++ [b])) (hopen : Open u) :
    ∃ d x, u = .opens d :: x ∧ b = .closes d ∧ Matched x := by
  generalize hword : u ++ [b] = w at h
  cases h with
  | nil => simp at hword
  | @wrap d x y hx hy =>
      rcases List.eq_nil_or_concat y with rfl | ⟨y, b', rfl⟩
      · obtain ⟨rfl, hb⟩ := List.append_inj' hword rfl
        exact ⟨d, x, rfl, by simpa using hb, hx⟩
      · -- the first pair is closed before the end
        have hu : u = (.opens d :: x ++ [.closes d]) ++ y := by
          have hlast : u ++ [b] = (.opens d :: x ++ [.closes d] ++ y) ++ [b'] := by
            rw [hword]
            simp
          exact (List.append_inj' hlast rfl).1
        have hpair : Matched (.opens d :: x ++ [.closes d]) := .wrap d hx .nil
        exact absurd hpair (hopen _ ⟨y, hu.symm⟩ (by simp))

theorem among_append (xs ys : List (Nat × Char)) : among (xs ++ ys) = among xs ++ among ys :=
  List.filterMap_append

/-- A delimiter stands among code characters as one of them. -/
theorem exists_of_among {cs : List (Nat × Char)} {u post : List (Nat × Bracket)} {p : Nat}
    {b : Bracket} (h : among cs = u ++ (p, b) :: post) :
    ∃ before c after, cs = before ++ (p, c) :: after ∧ ofChar? c = some b ∧ among before = u := by
  obtain ⟨before, rest, rfl, rfl, hrest⟩ := List.filterMap_eq_append_iff.mp h
  obtain ⟨skipped, ⟨q, c⟩, after, rfl, hskipped, hc, -⟩ := List.filterMap_eq_cons_iff.mp hrest
  obtain ⟨b', hb, heq⟩ := Option.map_eq_some_iff.mp hc
  cases heq
  refine ⟨before ++ skipped, c, after, by simp, hb, ?_⟩
  have hnone : among skipped = [] := List.filterMap_eq_nil_iff.mpr hskipped
  rw [among_append, hnone, List.append_nil]
  rfl

theorem closing?_of_ofChar? {c : Char} {d : Delimiter} (h : ofChar? c = some (.closes d)) :
    Delimiter.closing? c = some d := by
  rw [← char_of_ofChar? h]
  cases d <;> rfl

/-- The word that closes an opening delimiter is well matched between the two. -/
theorem ClosesAt.exists_pair {o p : Nat} {d : Delimiter} {w : List (Nat × Bracket)}
    (h : ClosesAt ((o, .opens d) :: w) p) :
    ∃ u post, w = u ++ (p, .closes d) :: post ∧ Matched (word u) := by
  obtain ⟨v, b, ⟨post, hw⟩, hmatched, hopen⟩ := h
  rw [word_append] at hmatched
  obtain ⟨d', x, hv, hb, hx⟩ := hmatched.of_open hopen
  cases v with
  | nil => cases hv
  | cons y u =>
      obtain ⟨rfl, rfl⟩ := List.cons.inj hw
      obtain ⟨hd, rfl⟩ := List.cons.inj hv
      cases hd
      cases hb
      exact ⟨u, post, by simp, hx⟩

end Bracket

/-! ### The text of a block -/

namespace Block

open Graft.Bracket (Matched ClosesAt among word)

variable {t : Text} {range : Span} {kind : BlockKind} {b : Block}

/-- A search that succeeds has read an opening delimiter, a well-matched word, and the delimiter that
closes the first. -/
theorem exists_of_openFrom {cs : List (Nat × Char)} (h : openFrom kind cs = .ok b) :
    ∃ before o mid c after d, cs = before ++ (b.opening, o) :: (mid ++ (b.closing, c) :: after) ∧
      kind.opener? o = some d ∧ Bracket.ofChar? c = some (.closes d) ∧ Matched (word (among mid)) := by
  fun_induction openFrom kind cs with
  | case1 => cases h
  | case2 pos o cs d ho =>
      have htells : Tells pos _ _ := openFrom_tells ho cs
      rw [openFrom_of_opener? ho, h,
        among_cons_of_some (Bracket.ofChar?_of_opening? (opening?_of_opener? ho))] at htells
      obtain ⟨rfl, hcloses⟩ := htells
      obtain ⟨u, post, hw, hmatched⟩ := hcloses.exists_pair
      obtain ⟨mid, c, after, rfl, hc, rfl⟩ := Bracket.exists_of_among hw
      exact ⟨[], o, mid, c, after, d, rfl, ho, hc, hmatched⟩
  | case3 pos x cs hx ih =>
      obtain ⟨before, o, mid, c, after, d, rfl, ho, hc, hmatched⟩ := ih h
      exact ⟨(pos, x) :: before, o, mid, c, after, d, rfl, ho, hc, hmatched⟩

/-- Delimiters are code wherever a scan comes to them. -/
theorem pass_of_ofChar? {c : Char} {x : Bracket} (h : Bracket.ofChar? c = some x) (t : Text) :
    Code.pass c t = none := by
  obtain rfl := Bracket.char_of_ofChar? h
  rw [Code.pass_eq_none_iff]
  rcases x with (_ | _ | _) | (_ | _ | _) <;> exact ⟨rfl, by simp [Bracket.char]⟩

/-- **A block cuts the text** into what is before it, its interior between two delimiters of one kind,
and what is after it.  A scan of the interior comes to its end, and finds a well-matched word. -/
theorem find_cut (h : find t range kind = .ok b) :
    ∃ d pre o inner c post, t = pre ++ o :: (inner ++ c :: post) ∧
      range.start ≤ b.opening ∧ Text.size pre = b.opening ∧
      b.opening + 1 + Text.size inner = b.closing ∧ b.closing < min range.stop (Text.size t) ∧
      kind.opener? o = some d ∧ Bracket.ofChar? c = some (.closes d) ∧
      Code.Arrives inner [c] ∧ Matched (Code.brackets inner) := by
  rw [find] at h
  obtain ⟨before, o, mid, c, after, d, hcs, ho, hc, hmatched⟩ := exists_of_openFrom h
  have hstop : b.closing < min range.stop (Text.size t) := by
    have hmem : (b.closing, c) ∈
        (Code.scan t range.start).takeWhile (·.1 < min range.stop (Text.size t)) := by
      rw [hcs]
      simp
    simpa using List.mem_takeWhile_imp hmem
  obtain ⟨more, hscan⟩ := List.takeWhile_prefix (l := Code.scan t range.start)
    (·.1 < min range.stop (Text.size t))
  rw [hcs, List.append_assoc, List.cons_append, List.append_assoc, List.cons_append] at hscan
  rcases Code.scan_cases t range.start with ⟨pre, rest, rfl, hpre, hfrom⟩ | ⟨-, hnil⟩
  · rw [hfrom] at hscan
    obtain ⟨u, v, rfl, hopening, -, -, hv⟩ := Code.exists_cut hscan.symm
    obtain ⟨inner, post, rfl, hclosing, harrives, rfl, -⟩ := Code.exists_cut hv
    have hsize : o.utf8Size = 1 :=
      Bracket.utf8Size_of_ofChar? (by simp [Bracket.ofChar?_of_opening? (opening?_of_opener? ho)])
    rw [Code.word_among_scanFrom, ← Code.brackets_eq] at hmatched
    have hinner : Code.Arrives inner ([c] ++ post) := harrives
    refine ⟨d, pre ++ u, o, inner, c, post, by simp, by omega, ?_, by omega, hstop, ho, hc,
      hinner.of_append, hmatched⟩
    rw [Text.size_append, hpre, hopening]
  · rw [hnil] at hscan
    simp at hscan

/-- The delimiters of a block that is scanned by itself. -/
theorem brackets_block {o c : Char} {x y : Bracket} {inner : Text} (ho : Bracket.ofChar? o = some x)
    (hc : Bracket.ofChar? c = some y) (h : Code.Arrives inner [c]) :
    Code.brackets (o :: (inner ++ [c])) = x :: (Code.brackets inner ++ [y]) := by
  have hend : ∀ pos, Code.scanFrom pos [c] = [(pos, c)] := by
    intro pos
    rw [Code.scanFrom_of_none (pass_of_ofChar? hc []), Code.scanFrom]
  rw [Code.brackets_eq inner, Code.brackets, Code.scan_zero,
    Code.scanFrom_of_none (pass_of_ofChar? ho _), h.scanFrom_append, hend, Code.word_among_cons, ho,
    Bracket.among_append, Bracket.word_append, Code.word_among_scanFrom, Code.word_among_cons, hc]
  rfl

/-- **A block is balanced by itself.**  It is inside the range, its first and last characters are
delimiters of one kind, the first one of the kind that is looked for, and neither the text of the
block nor the text between the two has a balance when it is scanned by itself. -/
theorem find_balanced (h : find t range kind = .ok b) :
    range.start ≤ b.opening ∧ b.opening < b.closing ∧ b.closing < min range.stop (Text.size t) ∧
    ∃ d o inner c, kind.opener? o = some d ∧ Delimiter.opening? o = some d ∧
      Delimiter.closing? c = some d ∧
      Text.slice? t b.opening (b.closing + 1) = some (o :: (inner ++ [c])) ∧
      Text.slice? t (b.opening + 1) b.closing = some inner ∧
      Balance.of (o :: (inner ++ [c])) = 0 ∧ Balance.of inner = 0 := by
  obtain ⟨d, pre, o, inner, c, post, rfl, hstart, hopening, hclosing, hstop, ho, hc, harrives,
    hmatched⟩ := find_cut h
  have hd : Delimiter.opening? o = some d := opening?_of_opener? ho
  have hod : Bracket.ofChar? o = some (.opens d) := Bracket.ofChar?_of_opening? hd
  have hosize : o.utf8Size = 1 := Bracket.utf8Size_of_ofChar? (by simp [hod])
  have hcsize : c.utf8Size = 1 := Bracket.utf8Size_of_ofChar? (by simp [hc])
  have hwhole : Matched (Code.brackets (o :: (inner ++ [c]))) := by
    rw [brackets_block hod hc harrives]
    exact .wrap d hmatched .nil
  refine ⟨hstart, by omega, hstop, d, o, inner, c, ho, hd, Bracket.closing?_of_ofChar? hc, ?_, ?_, ?_, ?_⟩
  · refine Text.slice?_eq_some_iff.mpr ⟨pre, post, by simp, hopening, ?_⟩
    rw [Text.size, Text.size_append, Text.size, Text.size, hosize, hcsize]
    omega
  · refine Text.slice?_eq_some_iff.mpr ⟨pre ++ [o], c :: post, by simp, ?_, hclosing⟩
    rw [Text.size_append, Text.size, Text.size, hosize, hopening]
  · rw [Balance.of_eq_net, hwhole.net_eq]
  · rw [Balance.of_eq_net, hmatched.net_eq]

/-- In `f('(` + line feed + `//]` + line feed + `[é])}` the string and the comment end with their
lines, in the whole text as in the block. -/
theorem find_balanced_lines :
    let t := ['f', '(', '\'', '(', '\n', '/', '/', ']', '\n', '[', 'é', ']', ')', '\x7d']
    let inner := ['\'', '(', '\n', '/', '/', ']', '\n', '[', 'é', ']']
    find t ⟨0, 99⟩ .any = .ok ⟨1, 13⟩ ∧ Text.slice? t 2 13 = some inner ∧
      Balance.of ('(' :: (inner ++ [')'])) = 0 ∧ Balance.of inner = 0 := by
  intro t inner
  have hfind : find t ⟨0, 99⟩ .any = .ok ⟨1, 13⟩ := by cbv
  have hwhole : Text.slice? t 1 14 = some ('(' :: (inner ++ [')'])) := by cbv
  have hinner : Text.slice? t 2 13 = some inner := by cbv
  obtain ⟨-, -, -, d, o, x, c, -, -, -, htext, hbetween, hzero, hzero'⟩ := find_balanced hfind
  have heq : o :: (x ++ [c]) = '(' :: (inner ++ [')']) := Option.some.inj (htext.symm.trans hwhole)
  have heq' : x = inner := Option.some.inj (hbetween.symm.trans hinner)
  exact ⟨hfind, hinner, heq ▸ hzero, heq' ▸ hzero'⟩

end Block

end Graft
