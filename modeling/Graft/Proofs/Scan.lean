import Graft.Proofs.Block

/-!
# Scans in two parts

A scan looks ahead for the end of a string or a comment, and takes the end of the text for one.  Yet
a text can be cut wherever a scan of it comes to between two of its steps (`Code.Arrives`), that is,
anywhere but inside a string or a comment (`Code.arrives_iff`): whatever was passed over before the
cut ends in the same place when nothing follows (`Code.pass_of_append`), so the first part is scanned
as it is by itself, and the second as a text of its own.

* `Code.scan_append`: so are the code characters, the balance, and the places that a search for a
  block tells of.
-/

namespace Graft

namespace Code

/-! ### Strings and comments, character by character -/

theorem breakString_cons {quote c : Char} (hc : c ≠ '\\') (t : Text) :
    breakString quote (c :: t) =
      if c = '\n' && quote != '`' then ([], c :: t)
      else if c = quote then ([c], t)
      else cons c (breakString quote t) := by
  cases t <;> simp [breakString, hc]

theorem breakComment_cons {c : Char} {t : Text} (h : c = '*' → t.head? ≠ some '/') :
    breakComment (c :: t) = cons c (breakComment t) := by
  rw [breakComment.eq_def]
  split
  · next heq =>
      cases heq
      exact absurd rfl (h rfl)
  · next heq =>
      cases heq
      rfl
  · next heq => cases heq

/-- A character is code unless it is a quotation mark or starts a comment. -/
theorem pass_eq_none_iff {c : Char} {t : Text} :
    pass c t = none ↔ isQuote c = false ∧ (c = '/' → t.head? ≠ some '/' ∧ t.head? ≠ some '*') := by
  unfold pass
  split
  · simp
  · simp
  · next hline hblock =>
      cases hquote : isQuote c with
      | true => simp
      | false =>
          simp only [Bool.false_eq_true, if_false, true_and, true_iff]
          rintro rfl
          cases t with
          | nil => simp
          | cons d t =>
              refine ⟨?_, ?_⟩
              · rintro ⟨⟩
                exact hline t rfl rfl
              · rintro ⟨⟩
                exact hblock t rfl rfl

theorem pass_of_isQuote {c : Char} (h : isQuote c = true) (t : Text) :
    pass c t = some (breakString c t) := by
  unfold pass
  split
  · cases h
  · cases h
  · rw [if_pos h]

/-! ### They end alike in a part -/

variable {jumped a b : Text}

theorem breakString_of_append {quote : Char} {t : Text}
    (h : breakString quote t = (jumped, a ++ b)) : breakString quote (jumped ++ a) = (jumped, a) := by
  fun_induction breakString quote t generalizing jumped with
  | case1 | case2 =>
      obtain ⟨rfl, hnil⟩ := Prod.mk.inj h
      obtain ⟨rfl, rfl⟩ := List.append_eq_nil_iff.mp hnil.symm
      rfl
  | case3 d t ih =>
      obtain ⟨rfl, hrest⟩ := Prod.mk.inj h
      have htail := ih (Prod.ext rfl hrest)
      simp [breakString, cons, htail]
  | case4 c t hc hfeed =>
      obtain ⟨rfl, hrest⟩ := Prod.mk.inj h
      cases a with
      | nil => rfl
      | cons x a =>
          cases hrest
          rw [List.nil_append, breakString_cons hc, if_pos hfeed]
  | case5 t hc hfeed =>
      obtain ⟨rfl, rfl⟩ := Prod.mk.inj h
      rw [List.singleton_append, breakString_cons hc, if_neg hfeed, if_pos rfl]
  | case6 c t hc hfeed hquote ih =>
      obtain ⟨rfl, hrest⟩ := Prod.mk.inj h
      have htail := ih (Prod.ext rfl hrest)
      rw [List.cons_append, breakString_cons hc, if_neg hfeed, if_neg hquote, htail, cons]

theorem breakComment_of_append {t : Text} (h : breakComment t = (jumped, a ++ b)) :
    breakComment (jumped ++ a) = (jumped, a) := by
  fun_induction breakComment t generalizing jumped with
  | case1 t =>
      obtain ⟨rfl, rfl⟩ := Prod.mk.inj h
      rfl
  | case2 c t hopen ih =>
      obtain ⟨rfl, hrest⟩ := Prod.mk.inj h
      have htail := ih (Prod.ext rfl hrest)
      -- no `*/` starts here in the whole text, so none does in its part
      have hstar : c = '*' → ((breakComment t).1 ++ a).head? ≠ some '/' := by
        rintro rfl hhead
        obtain ⟨u, hu⟩ := List.head?_eq_some_iff.mp hhead
        refine hopen (u ++ b) rfl ?_
        rw [← breakComment_append t, hrest, ← List.append_assoc, hu, List.cons_append]
      rw [List.cons_append, breakComment_cons hstar, htail, cons]
  | case3 =>
      obtain ⟨rfl, hnil⟩ := Prod.mk.inj h
      obtain ⟨rfl, rfl⟩ := List.append_eq_nil_iff.mp hnil.symm
      rfl

theorem takeWhile_of_append {p : Char → Bool} {t : Text} (hjumped : t.takeWhile p = jumped)
    (hrest : t.dropWhile p = a ++ b) :
    (jumped ++ a).takeWhile p = jumped ∧ (jumped ++ a).dropWhile p = a := by
  have hall : ∀ x ∈ jumped, p x = true := fun x hx => List.mem_takeWhile_imp (hjumped ▸ hx)
  have hstop : a.takeWhile p = [] ∧ a.dropWhile p = a := by
    cases a with
    | nil => exact ⟨rfl, rfl⟩
    | cons x a =>
        have hx := List.head?_dropWhile_not p t
        rw [hrest] at hx
        simp_all
  rw [List.takeWhile_append_of_pos hall, List.dropWhile_append_of_pos hall, hstop.1, hstop.2,
    List.append_nil]
  exact ⟨rfl, rfl⟩

/-- **What is passed over** in a text is passed over in each beginning of the text that holds it. -/
theorem pass_of_append {c : Char} (h : pass c (jumped ++ a ++ b) = some (jumped, a ++ b)) :
    pass c (jumped ++ a) = some (jumped, a) := by
  unfold pass at h
  split at h
  · next t heq =>
      obtain ⟨rfl, hrest⟩ := Prod.mk.inj (Option.some.inj h)
      obtain ⟨hline, hfeed⟩ := takeWhile_of_append rfl hrest
      rw [List.cons_append, pass, hline, hfeed]
  · next t heq =>
      obtain ⟨rfl, hrest⟩ := Prod.mk.inj (Option.some.inj h)
      have hcomment := breakComment_of_append (Prod.ext rfl hrest)
      rw [List.cons_append, pass, hcomment, cons]
  · split at h
    · next hquote => rw [pass_of_isQuote hquote, breakString_of_append (Option.some.inj h)]
    · cases h

theorem pass_of_append_none {c : Char} (h : pass c (a ++ b) = none) : pass c a = none := by
  obtain ⟨hquote, hslash⟩ := pass_eq_none_iff.mp h
  refine pass_eq_none_iff.mpr ⟨hquote, fun hc => ?_⟩
  cases a with
  | nil => simp
  | cons x a => exact hslash hc

/-! ### Where a scan comes to -/

/-- A scan of `a ++ b` comes to the end of `a` between two of its steps.  Each step is taken with all
that follows it in sight. -/
inductive Arrives : Text → Text → Prop where
  | nil (b : Text) : Arrives [] b
  | code {c : Char} {a b : Text} (hpass : pass c (a ++ b) = none) (h : Arrives a b) :
      Arrives (c :: a) b
  | past {c : Char} {jumped a b : Text}
      (hpass : pass c (jumped ++ a ++ b) = some (jumped, a ++ b)) (h : Arrives a b) :
      Arrives (c :: (jumped ++ a)) b

theorem scanFrom_of_none {pos : Nat} {c : Char} {t : Text} (h : pass c t = none) :
    scanFrom pos (c :: t) = (pos, c) :: scanFrom (pos + c.utf8Size) t := by
  rw [scanFrom]
  split
  · rfl
  · simp_all

theorem scanFrom_of_some {pos : Nat} {c : Char} {t jumped rest : Text}
    (h : pass c t = some (jumped, rest)) :
    scanFrom pos (c :: t) = scanFrom (pos + c.utf8Size + Text.size jumped) rest := by
  rw [scanFrom]
  split
  · simp_all
  · simp_all

/-- **A scan goes on after a cut** as it would from there. -/
theorem Arrives.scanFrom_append {a b : Text} (h : Arrives a b) (pos : Nat) :
    scanFrom pos (a ++ b) = scanFrom pos a ++ scanFrom (pos + Text.size a) b := by
  induction h generalizing pos with
  | nil b => simp [scanFrom, Text.size]
  | @code c a b hpass _ ih =>
      rw [List.cons_append, scanFrom_of_none hpass, scanFrom_of_none (pass_of_append_none hpass), ih,
        Text.add_size_cons, List.cons_append]
  | @past c jumped a b hpass _ ih =>
      have hsize : pos + c.utf8Size + Text.size jumped + Text.size a =
          pos + Text.size (c :: (jumped ++ a)) := by
        rw [Text.add_size_cons, Text.size_append, Nat.add_assoc]
      rw [List.cons_append, scanFrom_of_some hpass, scanFrom_of_some (pass_of_append hpass), ih, hsize]

theorem scanFrom_add (pos n : Nat) (t : Text) :
    scanFrom (pos + n) t = (scanFrom pos t).map fun x => (x.1 + n, x.2) := by
  fun_induction scanFrom pos t with
  | case1 => simp [scanFrom]
  | case2 pos c t hpass ih =>
      rw [scanFrom_of_none hpass, List.map_cons, ← ih, Nat.add_right_comm]
  | case3 pos c t jumped rest hpass _ ih =>
      rw [scanFrom_of_some hpass, ← ih]
      congr 1
      omega

/-- The spans of the strings and comments that a scan of `t` passes over; `t` starts at `pos`. -/
def passedFrom (pos : Nat) : Text → List Span
  | []     => []
  | c :: t =>
      match h : pass c t with
      | none => passedFrom (pos + c.utf8Size) t
      | some (jumped, rest) =>
          have : rest.length ≤ t.length := by simp [← append_of_pass h]
          ⟨pos, pos + c.utf8Size + Text.size jumped⟩ ::
            passedFrom (pos + c.utf8Size + Text.size jumped) rest
termination_by t => t.length

/-- Neither a string nor a comment of the text goes on across the offset `n`. -/
def Between (t : Text) (n : Nat) : Prop :=
  ∀ s ∈ passedFrom 0 t, ¬ (s.start < n ∧ n < s.stop)

theorem passedFrom_of_none {pos : Nat} {c : Char} {t : Text} (h : pass c t = none) :
    passedFrom pos (c :: t) = passedFrom (pos + c.utf8Size) t := by
  rw [passedFrom]
  split
  · rfl
  · simp_all

theorem passedFrom_of_some {pos : Nat} {c : Char} {t jumped rest : Text}
    (h : pass c t = some (jumped, rest)) :
    passedFrom pos (c :: t) = ⟨pos, pos + c.utf8Size + Text.size jumped⟩ ::
      passedFrom (pos + c.utf8Size + Text.size jumped) rest := by
  rw [passedFrom]
  split
  · simp_all
  · simp_all

theorem le_start_of_mem_passedFrom {pos : Nat} {t : Text} {s : Span} (h : s ∈ passedFrom pos t) :
    pos ≤ s.start := by
  fun_induction passedFrom pos t with
  | case1 => cases h
  | case2 pos c t hpass ih => exact (Nat.le_add_right _ _).trans (ih h)
  | case3 pos c t jumped rest hpass _ ih =>
      rcases List.mem_cons.mp h with rfl | h
      · exact le_rfl
      · have := ih h
        omega

/-- **A scan comes to a place between two steps** exactly when it is inside no string and no
comment. -/
theorem arrives_iff_passedFrom {pos : Nat} {a b : Text} :
    Arrives a b ↔ ∀ s ∈ passedFrom pos (a ++ b),
      ¬ (s.start < pos + Text.size a ∧ pos + Text.size a < s.stop) := by
  constructor
  · intro h
    induction h generalizing pos with
    | nil b =>
        intro s hs hinside
        have := le_start_of_mem_passedFrom hs
        simp only [Text.size] at hinside
        omega
    | @code c a b hpass _ ih =>
        rw [List.cons_append, passedFrom_of_none hpass, Text.add_size_cons]
        exact ih
    | @past c jumped a b hpass _ ih =>
        rw [List.cons_append, passedFrom_of_some hpass, Text.add_size_cons, Text.size_append,
          ← Nat.add_assoc]
        refine List.forall_mem_cons.mpr ⟨?_, ih⟩
        simp only
        omega
  · intro h
    generalize htext : a ++ b = t at h
    fun_induction passedFrom pos t generalizing a with
    | case1 =>
        obtain ⟨rfl, rfl⟩ := List.append_eq_nil_iff.mp htext
        exact .nil []
    | case2 pos c t hpass ih =>
        cases a with
        | nil => exact .nil b
        | cons x a =>
            rw [List.cons_append, List.cons.injEq] at htext
            obtain ⟨rfl, rfl⟩ := htext
            rw [Text.add_size_cons] at h
            exact .code hpass (ih rfl h)
    | case3 pos c t jumped rest hpass _ ih =>
        cases a with
        | nil => exact .nil b
        | cons x a =>
            rw [List.cons_append, List.cons.injEq] at htext
            obtain ⟨rfl, rfl⟩ := htext
            obtain ⟨hfirst, hrest⟩ := List.forall_mem_cons.mp h
            rw [Text.add_size_cons] at hfirst hrest
            -- the string or comment that starts here ends before `b` does
            have hle : Text.size jumped ≤ Text.size a := by
              have := x.utf8Size_pos
              simp only at hfirst
              omega
            obtain ⟨a, rfl, rfl⟩ := Text.append_eq_of_size_le (append_of_pass hpass) hle
            rw [Text.size_append, ← Nat.add_assoc] at hrest
            exact .past hpass (ih rfl hrest)

theorem arrives_iff {a b : Text} : Arrives a b ↔ Between (a ++ b) (Text.size a) := by
  rw [@arrives_iff_passedFrom 0, Nat.zero_add]
  rfl

theorem scan_zero (t : Text) : scan t 0 = scanFrom 0 t := by
  rw [scan, Text.splitAt?_zero]

theorem scan_size (a b : Text) : scan (a ++ b) (Text.size a) = scanFrom (Text.size a) b := by
  rw [scan, Text.splitAt?_append]

/-- A scan reads the text after a cut, or nothing if there is no cut at its start. -/
theorem scan_cases (t : Text) (start : Nat) :
    (∃ pre rest, t = pre ++ rest ∧ Text.size pre = start ∧ scan t start = scanFrom start rest) ∨
      (Text.isBoundary t start = false ∧ scan t start = []) := by
  cases hcut : Text.splitAt? t start with
  | none => exact .inr ⟨by rw [Text.isBoundary, hcut]; rfl, by rw [scan, hcut]⟩
  | some cut =>
      obtain ⟨rfl, rfl⟩ := Text.splitAt?_eq_some_iff.mp hcut
      exact .inl ⟨cut.1, cut.2, rfl, rfl, scan_size _ _⟩

end Code

/-! ### Balances -/

attribute [ext] Balance

namespace Balance

instance : AddCancelCommMonoid Balance where
  add_assoc _ _ _ := Balance.ext (Int.add_assoc _ _ _) (Int.add_assoc _ _ _) (Int.add_assoc _ _ _)
  zero_add _ := Balance.ext (Int.zero_add _) (Int.zero_add _) (Int.zero_add _)
  add_zero _ := Balance.ext (Int.add_zero _) (Int.add_zero _) (Int.add_zero _)
  add_comm _ _ := Balance.ext (Int.add_comm _ _) (Int.add_comm _ _) (Int.add_comm _ _)
  add_left_cancel a b c h := Balance.ext
    (Int.add_left_cancel (congrArg parens h)) (Int.add_left_cancel (congrArg brackets h))
    (Int.add_left_cancel (congrArg braces h))
  nsmul := nsmulRec

theorem ofCode_append (xs ys : List (Nat × Char)) : ofCode (xs ++ ys) = ofCode xs + ofCode ys := by
  induction xs with
  | nil => exact (zero_add _).symm
  | cons x xs ih => rw [List.cons_append, ofCode, ofCode, ih, add_assoc]

/-- The balance of code does not depend on where it stands. -/
theorem ofCode_map_shift (n : Nat) (xs : List (Nat × Char)) :
    ofCode (xs.map fun x => (x.1 + n, x.2)) = ofCode xs := by
  induction xs with
  | nil => rfl
  | cons x xs ih => rw [List.map_cons, ofCode, ofCode, ih]

end Balance

/-! ### Blocks -/

namespace Block

/-- The offsets that an answer of a search tells. -/
def offsets : Except BlockError Block → List Nat
  | .ok b                        => [b.opening, b.closing]
  | .error .noOpening            => []
  | .error (.unclosed opening)   => [opening]
  | .error (.mismatched o found) => [o, found]

/-- `p` is the place of a delimiter among the code characters `cs`. -/
def Holds (cs : List (Nat × Char)) (p : Nat) : Prop := ∃ c, (p, c) ∈ cs ∧ Bracket.ofChar? c ≠ none

theorem Holds.mono {cs cs' : List (Nat × Char)} {p : Nat} (h : Holds cs p) (hle : cs ⊆ cs') :
    Holds cs' p := by
  obtain ⟨c, hmem, hc⟩ := h
  exact ⟨c, hle hmem, hc⟩

theorem Holds.head {pos : Nat} {c : Char} {b : Bracket} (h : Bracket.ofChar? c = some b)
    (cs : List (Nat × Char)) : Holds ((pos, c) :: cs) pos :=
  ⟨c, List.mem_cons_self, by simp [h]⟩

theorem holds_of_closeFrom {opening p : Nat} {inner : Delimiter} {outer : List Delimiter}
    {cs : List (Nat × Char)} (h : p ∈ offsets (closeFrom opening inner outer cs)) :
    p = opening ∨ Holds cs p := by
  have hcons : ∀ {x : Nat × Char} {cs : List (Nat × Char)}, p = opening ∨ Holds cs p →
      p = opening ∨ Holds (x :: cs) p :=
    fun h => h.imp_right fun h => h.mono (List.subset_cons_self _ _)
  have hclosing : ∀ {c : Char} {d : Delimiter}, Delimiter.opening? c = none →
      Delimiter.closing? c = some d → Bracket.ofChar? c = some (.closes d) :=
    fun hopen hclose => by rw [Bracket.ofChar?_of_closing? hopen, hclose]; rfl
  fun_induction closeFrom opening inner outer cs with
  | case1 => exact .inl (List.mem_singleton.mp h)
  | case2 inner outer pos c cs d hopen ih => exact hcons (ih h)
  | case3 inner outer pos c cs hopen hclose ih => exact hcons (ih h)
  | case4 pos c cs hopen d hclose =>
      rcases List.mem_pair.mp h with rfl | rfl
      · exact .inl rfl
      · exact .inr (.head (hclosing hopen hclose) cs)
  | case5 pos c cs hopen d hclose inner outer ih => exact hcons (ih h)
  | case6 inner outer pos c cs hopen d hclose hne =>
      rcases List.mem_pair.mp h with rfl | rfl
      · exact .inl rfl
      · exact .inr (.head (hclosing hopen hclose) cs)

theorem holds_of_openFrom {kind : BlockKind} {cs : List (Nat × Char)} {p : Nat}
    (h : p ∈ offsets (openFrom kind cs)) : Holds cs p := by
  fun_induction openFrom kind cs with
  | case1 => cases h
  | case2 pos c cs d hopen =>
      rcases holds_of_closeFrom h with rfl | hheld
      · exact .head (Bracket.ofChar?_of_opening? (opening?_of_opener? hopen)) cs
      · exact hheld.mono (List.subset_cons_self _ _)
  | case3 pos c cs hopen ih => exact (ih h).mono (List.subset_cons_self _ _)

/-- A search tells offsets of delimiters that it has read only. -/
theorem holds_of_find {t : Text} {range : Span} {kind : BlockKind} {p : Nat}
    (h : p ∈ offsets (find t range kind)) : Holds (Code.scan t range.start) p :=
  (holds_of_openFrom h).mono (List.takeWhile_subset _)

end Block

/-! ### Texts in two parts -/

namespace Code

/-- **A text can be scanned in two parts.**  A scan of `a ++ b` comes to the end of `a` between two
steps exactly when no string and no comment goes on there.  If it does, the code characters are those
of `a` and, after them, those of `b` moved by the length of `a`; the balances add up; and a search
for a block that starts there tells only of delimiters that are code in the whole text. -/
theorem scan_append (a b : Text) :
    (Arrives a b ↔ Between (a ++ b) (Text.size a)) ∧
    (Arrives a b →
      scan (a ++ b) 0 = scan a 0 ++ (scan b 0).map (fun x => (x.1 + Text.size a, x.2)) ∧
      Balance.of (a ++ b) = Balance.of a + Balance.of b ∧
      ∀ stop kind, ∀ p ∈ Block.offsets (Block.find (a ++ b) ⟨Text.size a, stop⟩ kind),
        Block.Holds (scan (a ++ b) 0) p) := by
  refine ⟨arrives_iff, fun h => ?_⟩
  have hparts : scan (a ++ b) 0 = scan a 0 ++ scan (a ++ b) (Text.size a) := by
    rw [scan_zero, scan_zero, scan_size, h.scanFrom_append, Nat.zero_add]
  have hshift : scan (a ++ b) (Text.size a) = (scan b 0).map fun x => (x.1 + Text.size a, x.2) := by
    rw [scan_size, scan_zero, ← scanFrom_add, Nat.zero_add]
  refine ⟨by rw [hparts, hshift], ?_, fun stop kind p hp => ?_⟩
  · rw [Balance.of, hparts, hshift, Balance.ofCode_append, Balance.ofCode_map_shift]
    rfl
  · rw [hparts]
    exact (Block.holds_of_find hp).mono (List.subset_append_right _ _)

/-- The string in `("[` is not closed, and ends where the line does. -/
theorem scan_append_unclosed :
    let a := ['(', '"', '[']
    let b := ['\n', '[', ')']
    Arrives a b ∧ Between (a ++ b) 3 ∧
      scan (a ++ b) 0 = [(0, '(')] ++ [(3, '\n'), (4, '['), (5, ')')] ∧
      Balance.of (a ++ b) = ⟨1, 0, 0⟩ + ⟨-1, 1, 0⟩ ∧
      Block.find (a ++ b) ⟨3, 9⟩ .any = .error (.mismatched 4 5) ∧
      ∀ p ∈ [4, 5], Block.Holds (scan (a ++ b) 0) p := by
  intro a b
  have harrives : Arrives a b := .code (by decide) (@Arrives.past _ ['['] _ _ (by decide) (.nil b))
  have hfind : Block.find (a ++ b) ⟨3, 9⟩ .any = .error (.mismatched 4 5) := by cbv
  obtain ⟨hbetween, hparts⟩ := scan_append a b
  obtain ⟨hscan, hbalance, hblocks⟩ := hparts harrives
  have hoffsets := hblocks 9 .any
  rw [show Text.size a = 3 from rfl, hfind] at hoffsets
  exact ⟨harrives, hbetween.mp harrives, hscan.trans (by cbv), hbalance.trans (by cbv), hfind, hoffsets⟩

end Code

end Graft
