import Graft.Proofs.Mode

/-!
# Splices

What putting one text for another does to the delimiters of the code around it.

A fragment is checked by itself before the whole document is, and the check by itself is no more than
a guess.  The balance of a document is that of the text before the splice, of the new text *as it is
read there*, and of the rest *as it is read after it* (`Balance.of_splice`).  So a mismatch of the
fragments is final exactly where the text before ends in code and the reader is in the same mode after
either fragment (`Balance.reject_certain_iff`); inside a string it refuses harmless replacements
(`Balance.quoted_refused`).

Balances are counts, and counts do not see the order.  An attempt keeps the counts of a well-nested
document and may yet undo its nesting (`Rule.attempt_unnests`).  It keeps the nesting exactly when the
new text leaves the same delimiters open as the old one (`Rule.attempt_nesting`).
-/

namespace Graft

/-! ### Counts of delimiters -/

namespace Balance

@[simp] theorem add_parens (a b : Balance) : (a + b).parens = a.parens + b.parens := rfl

@[simp] theorem add_brackets (a b : Balance) : (a + b).brackets = a.brackets + b.brackets := rfl

@[simp] theorem add_braces (a b : Balance) : (a + b).braces = a.braces + b.braces := rfl

theorem single_add (d : Delimiter) (m n : Int) : single d (m + n) = single d m + single d n := by
  cases d <;> rfl

end Balance

namespace Bracket

/-- What a delimiter adds to a balance. -/
def balance : Bracket → Balance
  | .opens d  => .single d 1
  | .closes d => .single d (-1)

/-- The balance of a word of delimiters. -/
def net (w : List Bracket) : Balance := (w.map balance).sum

theorem net_cons (b : Bracket) (w : List Bracket) : net (b :: w) = b.balance + net w := rfl

theorem net_append (u v : List Bracket) : net (u ++ v) = net u + net v := by
  rw [net, List.map_append, List.sum_append]
  rfl

/-- Well-matched words have as many openings as closings of each kind. -/
theorem Matched.net_eq {w : List Bracket} (h : Matched w) : net w = 0 := by
  induction h with
  | nil => rfl
  | wrap d _ _ ihu ihv =>
      have hpair : Balance.single d 1 + Balance.single d (-1) = 0 := by cases d <;> rfl
      rw [List.cons_append, net_cons, net_append, net_cons, ihu, ihv, zero_add, add_zero]
      exact hpair

theorem exists_net_single (d : Delimiter) (n : Int) : ∃ w, net w = .single d n := by
  induction n using Int.induction_on with
  | zero => exact ⟨[], by cases d <;> rfl⟩
  | succ n ih =>
      obtain ⟨w, hw⟩ := ih
      exact ⟨.opens d :: w, by rw [net_cons, hw, add_comm, Balance.single_add]; rfl⟩
  | pred n ih =>
      obtain ⟨w, hw⟩ := ih
      exact ⟨.closes d :: w, by rw [net_cons, hw, add_comm, sub_eq_add_neg, Balance.single_add]; rfl⟩

/-- Delimiters can make up for any difference of balances. -/
theorem exists_add_net (b b' : Balance) : ∃ w, b + net w = b' := by
  obtain ⟨u, hu⟩ := exists_net_single .paren (b'.parens - b.parens)
  obtain ⟨v, hv⟩ := exists_net_single .bracket (b'.brackets - b.brackets)
  obtain ⟨w, hw⟩ := exists_net_single .brace (b'.braces - b.braces)
  refine ⟨u ++ v ++ w, ?_⟩
  rw [net_append, net_append, hu, hv, hw]
  ext <;> simp [Balance.single]

end Bracket

namespace Code

open Graft.Bracket (Matched net pending)

/-! ### Balances, part by part -/

/-- The mode at the end of a text. -/
def mode (t : Text) : Mode := Mode.code.after t

namespace Mode

/-- The balance of the code of a text that is read from this mode on. -/
def balance (m : Mode) (t : Text) : Balance := net (m.brackets t)

theorem balance_append (m : Mode) (a b : Text) :
    m.balance (a ++ b) = m.balance a + (m.after a).balance b := by
  rw [balance, brackets_append, Bracket.net_append]
  rfl

/-- Delimiters are code or not, one like the other. -/
theorem isCode_next_char (m : Mode) (b : Bracket) : (m.next b.char).isCode = m.isCode := by
  rcases m with _ | _ | (_ | _ | _) | (_ | _ | _) | _ | _ | _ <;>
    rcases b with (_ | _ | _) | (_ | _ | _) <;> rfl

/-- Outside code a delimiter changes the mode no more than a letter does. -/
theorem next_eq_of_not_isCode {m : Mode} (h : m.isCode = false) : m.next '(' = m.next 'x' := by
  have hall : ∀ m ∈ all, m.isCode = false → m.next '(' = m.next 'x' := by decide
  exact hall m m.mem_all h

theorem brackets_map_char (m : Mode) (w : List Bracket) :
    m.brackets (w.map Bracket.char) = if m.isCode then w else [] := by
  induction w generalizing m with
  | nil => cases m.isCode <;> rfl
  | cons b w ih =>
      rw [List.map_cons, brackets, ih, isCode_next_char, Bracket.ofChar?_char]
      cases m.isCode <;> rfl

/-- After different modes, some text makes up for any difference of balances. -/
theorem exists_balance {m m' : Mode} (h : m ≠ m') (b b' : Balance) :
    ∃ t, b + m.balance t = b' + m'.balance t := by
  obtain ⟨probe, hmem, hcode⟩ := exists_probe h
  have hbalance : ∀ (n : Mode) (w : List Bracket), n.balance (probe ++ w.map Bracket.char) =
      if (n.after probe).isCode then net w else 0 := by
    intro n w
    rw [balance, brackets_append, brackets_probe hmem, List.nil_append, brackets_map_char]
    cases (n.after probe).isCode <;> rfl
  -- one of the two is in code after the probe, and only there delimiters count
  cases hm : (m.after probe).isCode with
  | true =>
      have hm' : (m'.after probe).isCode = false := by simpa [hm] using hcode
      obtain ⟨w, hw⟩ := Bracket.exists_add_net b b'
      exact ⟨probe ++ w.map Bracket.char, by simp [hbalance, hm, hm', hw]⟩
  | false =>
      have hm' : (m'.after probe).isCode = true := by simpa [hm] using hcode
      obtain ⟨w, hw⟩ := Bracket.exists_add_net b' b
      exact ⟨probe ++ w.map Bracket.char, by simp [hbalance, hm, hm', hw]⟩

end Mode

theorem mode_append (a b : Text) : mode (a ++ b) = (mode a).after b := Mode.after_append _ a b

theorem brackets_append (a b : Text) : brackets (a ++ b) = brackets a ++ (mode a).brackets b := by
  rw [brackets_eq, brackets_eq, Mode.brackets_append]
  rfl

end Code

namespace Balance

open Graft.Code (mode)

theorem ofChar_eq_net (c : Char) : ofChar c = Bracket.net (Bracket.ofChar? c).toList := by
  unfold ofChar Bracket.ofChar?
  cases Delimiter.opening? c with
  | some d => exact (add_zero _).symm
  | none =>
      cases Delimiter.closing? c with
      | some d => exact (add_zero _).symm
      | none => rfl

theorem ofCode_eq_net (cs : List (Nat × Char)) :
    ofCode cs = Bracket.net (Bracket.word (Bracket.among cs)) := by
  induction cs with
  | nil => rfl
  | cons x cs ih => rw [ofCode, Code.word_among_cons, Bracket.net_append, ih, ofChar_eq_net]

/-- The balance of a text counts the delimiters of its code. -/
theorem of_eq_net (t : Text) : of t = Bracket.net (Code.brackets t) := ofCode_eq_net _

theorem of_eq_balance (t : Text) : of t = Code.Mode.code.balance t := by
  rw [of_eq_net, Code.brackets_eq]
  rfl

/-- **The balance around a splice**: that of the text before it, of the new text as it is read there,
and of the rest as it is read after it. -/
theorem of_splice (before new after : Text) :
    of (before ++ new ++ after) =
      of before + (mode before).balance new + (mode (before ++ new)).balance after := by
  rw [of_eq_balance, Code.Mode.balance_append, Code.Mode.balance_append, ← of_eq_balance]
  rfl

/-- Nothing that follows makes up for a splice exactly when the reader is in the same mode after the
new text as after the old one, and the two differ in balance as they are read there. -/
theorem of_splice_ne_iff (before old new : Text) :
    (∀ after, of (before ++ new ++ after) ≠ of (before ++ old ++ after)) ↔
      mode (before ++ new) = mode (before ++ old) ∧
        (mode before).balance new ≠ (mode before).balance old := by
  simp only [of_splice, ne_eq]
  constructor
  · intro h
    have hmode : mode (before ++ new) = mode (before ++ old) := by
      by_contra hne
      obtain ⟨after, hafter⟩ := Code.Mode.exists_balance hne
        (of before + (mode before).balance new) (of before + (mode before).balance old)
      exact h after hafter
    refine ⟨hmode, fun hbalance => h [] ?_⟩
    rw [hmode, hbalance]
  · rintro ⟨hmode, hbalance⟩ after heq
    rw [hmode, add_left_inj, add_right_inj] at heq
    exact hbalance heq

theorem agrees_iff {old new : Text} : agrees old new = true ↔ of new = of old := by
  rw [agrees, beq_iff_eq, eq_comm]

/-- **When a mismatch of fragments is final.**  Let `old` stand after `before`, and let its balance,
scanned by itself, differ from that of `new`.  Then no text that follows makes the replacement
balanced exactly when the reader is in the same mode after either of them, and they also differ in
balance as they are read after `before`.  So the check of fragments is exact where `before` ends in
code and the modes after the fragments are the same; and after any text that ends inside a string or a
comment, it refuses a replacement that keeps the balance of every document. -/
theorem reject_certain_iff (before : Text) :
    (∀ old new, agrees old new = false →
      ((∀ after, of (before ++ new ++ after) ≠ of (before ++ old ++ after)) ↔
        mode (before ++ new) = mode (before ++ old) ∧
          (mode before).balance new ≠ (mode before).balance old)) ∧
    (mode before = .code → ∀ old new, mode (before ++ new) = mode (before ++ old) → ∀ after,
      (agrees old new = true ↔ of (before ++ new ++ after) = of (before ++ old ++ after))) ∧
    ((mode before).isCode = false → ∃ old new, agrees old new = false ∧
      ∀ after, of (before ++ new ++ after) = of (before ++ old ++ after)) := by
  refine ⟨fun old new _ => of_splice_ne_iff before old new, ?_, ?_⟩
  · intro hcode old new hmode after
    rw [agrees_iff, of_splice, of_splice, hmode, hcode, ← of_eq_balance, ← of_eq_balance,
      add_left_inj, add_right_inj]
  · intro hcode
    refine ⟨['('], ['x'], by cbv, fun after => ?_⟩
    have hmode : ∀ c, mode (before ++ [c]) = (mode before).next c := fun c => Code.mode_append before [c]
    have hbalance : ∀ c, (mode before).balance [c] = 0 := fun c => by
      rw [Code.Mode.balance, Code.Mode.brackets_cons_of_not_isCode hcode]
      rfl
    rw [of_splice, of_splice, hmode, hmode, hbalance, hbalance, Code.Mode.next_eq_of_not_isCode hcode]

/-- In `f()` the closing parenthesis is missed whatever follows; inside a string none is. -/
theorem reject_certain_iff_call :
    mode ['f'] = .code ∧ agrees ['(', ')'] ['('] = false ∧
      (∀ after, of (['f'] ++ ['('] ++ after) ≠ of (['f'] ++ ['(', ')'] ++ after)) ∧
      mode ['"'] = .string .double ∧
      ∃ old new, agrees old new = false ∧
        ∀ after, of (['"'] ++ new ++ after) = of (['"'] ++ old ++ after) := by
  have hrejects : agrees ['(', ')'] ['('] = false := by cbv
  obtain ⟨hcertain, -, -⟩ := reject_certain_iff ['f']
  obtain ⟨-, -, hquoted⟩ := reject_certain_iff ['"']
  exact ⟨rfl, hrejects, (hcertain _ _ hrejects).mpr (by decide), rfl, hquoted rfl⟩

end Balance

/-- The rule that puts `new` for the literal `old`. -/
def Rule.replacing (old new : Text) (hold : old.isEmpty = false := by exact .refl false) : Rule :=
  ⟨"replace", ⟨.literal old, .other, hold⟩, 0, false, .replace new⟩

/-- **A harmless replacement is refused**: a parenthesis in a string counts in no document, and counts
by itself. -/
theorem Balance.quoted_refused :
    agrees ['('] ['x'] = false ∧
      of (['"'] ++ ['x'] ++ ['"']) = of (['"'] ++ ['('] ++ ['"']) ∧
      (Rule.replacing ['('] ['x']).attempt ⟨['"', '(', '"']⟩ = .error .unbalanced := by
  refine ⟨?_, ?_, ?_⟩ <;> cbv

/-! ### Nesting -/

namespace Code

open Graft.Bracket (Matched pending)

/-- **When a splice keeps the nesting.**  If the reader is in the same mode after the new text as after
the old one, then what follows closes the same delimiters, so these have to be open. -/
theorem matched_splice_iff {before old new after : Text}
    (h : Matched (brackets (before ++ old ++ after)))
    (hmode : mode (before ++ new) = mode (before ++ old)) :
    Matched (brackets (before ++ new ++ after)) ↔
      pending [] (brackets (before ++ new)) = pending [] (brackets (before ++ old)) := by
  rw [Bracket.matched_iff, brackets_append, Bracket.pending_append] at h
  obtain ⟨s, hold, hafter⟩ := Option.bind_eq_some_iff.mp h
  rw [Bracket.matched_iff, brackets_append, Bracket.pending_append, hmode, hold]
  constructor
  · intro hmatched
    obtain ⟨s', hnew, hafter'⟩ := Option.bind_eq_some_iff.mp hmatched
    rw [hnew, Bracket.pending_injective hafter' hafter]
  · intro hnew
    rw [hnew]
    exact hafter

/-- Text that is well matched where it stands leaves open what was open before. -/
theorem pending_of_matched {before new : Text} (h : Matched ((mode before).brackets new)) :
    pending [] (brackets (before ++ new)) = pending [] (brackets before) := by
  rw [brackets_append, Bracket.pending_append]
  cases pending [] (brackets before) with
  | none => rfl
  | some s => exact h.pending_eq s

end Code

/-- `e` puts its text for `old`, between `before` and `after`, and so makes `d'` of `d`. -/
structure Edit.Splices (e : Edit) (d d' : Document) (before old after : Text) : Prop where
  text   : d.text = before ++ old ++ after
  start  : Text.size before = e.span.start
  stop   : e.span.start + Text.size old = e.span.stop
  result : d'.text = before ++ e.new ++ after

theorem Edit.exists_splices {e : Edit} {d d' : Document} (h : e.apply d = .ok d') :
    ∃ before old after, e.Splices d d' before old after := by
  obtain ⟨before, old, after, htext, hstart, hstop, -, rfl⟩ := apply_eq_ok_iff.mp h
  exact ⟨before, old, after, htext, hstart, hstop, rfl⟩

namespace Rule

open Graft.Bracket (Matched pending)
open Graft.Code (brackets mode)

/-- **What an attempt does to the nesting.**  If the delimiters of the code are well matched, then after
the attempt there are as many openings as closings of each kind.  The edit puts new text for old; if
the reader is in the same mode after either, then the delimiters are well matched again exactly when
the new text leaves the same ones open, in the same order, as the old one did.  This is so if both are
well matched where they stand. -/
theorem attempt_nesting {r : Rule} {d d' : Document} (hd : Matched (brackets d.text))
    (h : r.attempt d = .ok d') :
    Balance.of d'.text = 0 ∧
    ∃ m e before old after, r.anchor.find d = some m ∧ r.plan d m = .ok e ∧
      e.Splices d d' before old after ∧
      (mode (before ++ e.new) = mode (before ++ old) →
        (Matched (brackets d'.text) ↔
          pending [] (brackets (before ++ e.new)) = pending [] (brackets (before ++ old))) ∧
        (Matched ((mode before).brackets old) → Matched ((mode before).brackets e.new) →
          Matched (brackets d'.text))) := by
  obtain ⟨m, e, hfind, hplan, -, happly, hbalance⟩ := Rule.attempt_eq_ok h
  obtain ⟨before, old, after, hsplices⟩ := Edit.exists_splices happly
  refine ⟨?_, m, e, before, old, after, hfind, hplan, hsplices, fun hmode => ?_⟩
  · rw [hbalance, Balance.of_eq_net, hd.net_eq]
  · rw [hsplices.text] at hd
    have hiff := Code.matched_splice_iff hd hmode
    rw [hsplices.result]
    refine ⟨hiff, fun hold hnew => hiff.mpr ?_⟩
    rw [Code.pending_of_matched hnew, Code.pending_of_matched hold]

/-- A call with one argument. -/
def call : Document := ⟨['f', '(', 'a', ')']⟩

/-- An argument that is replaced by an empty list leaves the call well matched. -/
theorem attempt_nesting_call :
    Matched (brackets call.text) ∧
      (replacing ['a'] ['[', ']']).attempt call = .ok ⟨['f', '(', '[', ']', ')']⟩ ∧
      Balance.of ['f', '(', '[', ']', ')'] = 0 ∧ Matched (brackets ['f', '(', '[', ']', ')']) := by
  have hd : Matched (brackets call.text) := by
    rw [Code.brackets_eq]
    decide
  have hattempt : (replacing ['a'] ['[', ']']).attempt call = .ok ⟨['f', '(', '[', ']', ')']⟩ := by
    cbv
  have hfound : (replacing ['a'] ['[', ']']).anchor.find call = some (.ofLiteral ['a'] 2) := by cbv
  have hplanned : (replacing ['a'] ['[', ']']).plan call (.ofLiteral ['a'] 2) =
      .ok (.replacing ⟨2, 3⟩ ['[', ']'] ['a']) := by cbv
  obtain ⟨hbalance, m, e, before, old, after, hfind, hplan, hsplices, hnesting⟩ :=
    attempt_nesting hd hattempt
  rw [hfound] at hfind
  cases hfind
  rw [hplanned] at hplan
  cases hplan
  -- the offsets of the edit say where the call is cut
  have hbefore : Text.splitAt? call.text 2 = some (before, old ++ after) :=
    Text.splitAt?_eq_some_iff.mpr ⟨by rw [← List.append_assoc]; exact hsplices.text, hsplices.start⟩
  have hold : call.spanText ⟨2, 3⟩ = .ok old := Document.spanText_eq_ok_iff.mpr
    ⟨before, after, hsplices.text, hsplices.start, hsplices.stop⟩
  have hcut : Text.splitAt? call.text 2 = some (['f', '('], ['a', ')']) := by cbv
  have hargument : call.spanText ⟨2, 3⟩ = .ok ['a'] := by cbv
  obtain ⟨rfl, -⟩ := Prod.mk.inj (Option.some.inj (hbefore.symm.trans hcut))
  cases hold.symm.trans hargument
  exact ⟨hd, hattempt, hbalance, (hnesting (by decide)).2 (by decide) (by decide)⟩

/-- Parentheses turned around are as many as before, and do not match. -/
theorem attempt_unnests :
    Matched (brackets ['(', ')']) ∧
      (replacing ['(', ')'] [')', '(']).attempt ⟨['(', ')']⟩ = .ok ⟨[')', '(']⟩ ∧
      ¬ Matched (brackets [')', '(']) := by
  refine ⟨?_, by cbv, ?_⟩
  · rw [Code.brackets_eq]
    decide
  · rw [Code.brackets_eq]
    decide

end Rule

end Graft
