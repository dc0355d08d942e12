import Graft.Proofs.Bounds

/-!
# Wider windows

The more lines of context, the more of the document they cover (`Document.contextWindow_mono`).  A
block that closes inside a window closes in the same place inside any wider one, since the search reads
the same characters up to there (`Block.find_widen`); only a search that has run out of window can end
otherwise.

* `Rule.attempt_widen`: so a rule that lands does the same with more lines of context, and one that
  misses for any reason but the end of its window still misses for that reason.
-/

namespace Graft

/-! ### Windows of lines -/

namespace Document

/-- Lines start one after another. -/
theorem startsAfter_sorted (pos : Nat) (t : Text) :
    (startsAfter pos t).Pairwise (· < ·) ∧ ∀ x ∈ startsAfter pos t, pos < x := by
  induction t generalizing pos with
  | nil => simp [startsAfter]
  | cons c t ih =>
      obtain ⟨hsorted, hafter⟩ := ih (pos + c.utf8Size)
      have hpos : pos < pos + c.utf8Size := Nat.lt_add_of_pos_right c.utf8Size_pos
      have hlater : ∀ x ∈ startsAfter (pos + c.utf8Size) t, pos < x :=
        fun x hx => hpos.trans (hafter x hx)
      simp only [startsAfter]
      split
      · exact ⟨List.pairwise_cons.mpr ⟨hafter, hsorted⟩,
          List.forall_mem_cons.mpr ⟨hpos, hlater⟩⟩
      · exact ⟨hsorted, hlater⟩

/-- In a sorted list, those up to `x` come first. -/
theorem lt_countP_iff {l : List Nat} (h : l.Pairwise (· < ·)) {x n : Nat} :
    n < l.countP (· ≤ x) ↔ ∃ y, l[n]? = some y ∧ y ≤ x := by
  induction l generalizing n with
  | nil => simp
  | cons a l ih =>
      obtain ⟨hafter, hl⟩ := List.pairwise_cons.mp h
      by_cases ha : a ≤ x
      · rw [List.countP_cons_of_pos (by simpa using ha)]
        cases n with
        | zero => simp [ha]
        | succ n => rw [Nat.succ_lt_succ_iff, ih hl, List.getElem?_cons_succ]
      · -- whatever follows is larger still
        have hnone : ∀ y ∈ a :: l, ¬ y ≤ x := by
          refine List.forall_mem_cons.mpr ⟨ha, fun y hy => ?_⟩
          have := hafter y hy
          omega
        rw [List.countP_eq_zero.mpr fun y hy => by simpa using hnone y hy]
        constructor
        · intro hlt
          cases hlt
        · rintro ⟨y, hy, hle⟩
          exact absurd hle (hnone y (List.mem_of_getElem? hy))

/-- **Line numbers and the starts of lines** tell the same: an offset is at or after the start of a
line exactly when its own line is that one or a later one, -/
theorem lineStart_le_iff {d : Document} {n : Nat} (hn : n < d.lineCount) {x : Nat} :
    d.lineStart n ≤ x ↔ n ≤ d.lineIndex x := by
  rw [lineStart_eq hn, lineIndex_eq, lineStarts]
  cases n with
  | zero => simp
  | succ n =>
      have hstart : n < (startsAfter 0 d.text).length := Nat.lt_of_succ_lt_succ hn
      rw [Nat.succ_le_iff, lt_countP_iff (startsAfter_sorted 0 d.text).1, List.getD_cons_succ,
        List.getD_eq_getElem _ _ hstart]
      simp [List.getElem?_eq_getElem hstart]

/-- and before the end of a line exactly when its own line is that one or an earlier one. -/
theorem lt_lineStop_iff {d : Document} {x : Nat} (hx : x < d.size) {n : Nat} :
    x < (d.lineSpan n).stop ↔ d.lineIndex x ≤ n := by
  rw [lineSpan_stop, lineIndex_eq, ← Nat.not_lt, lt_countP_iff (startsAfter_sorted 0 d.text).1]
  rcases Nat.lt_or_ge n (startsAfter 0 d.text).length with hn | hn
  · rw [List.getD_eq_getElem _ _ hn]
    simp [List.getElem?_eq_getElem hn]
  · -- the last line goes on to the end of the text
    rw [List.getD_eq_default _ _ hn, List.getElem?_eq_none hn]
    simpa using hx

theorem lineStart_mono (d : Document) {a b : Nat} (h : a ≤ b) : d.lineStart a ≤ d.lineStart b := by
  have hpos := d.lineIndex_lt 0
  have hclip : ∀ n, d.lineStart n = d.lineStart (min n (d.lineCount - 1)) := fun n =>
    congrArg Span.start (d.lineSpan_min n)
  rw [hclip a, hclip b, lineStart_le_iff (by omega)]
  have hself : min b (d.lineCount - 1) ≤ d.lineIndex (d.lineStart (min b (d.lineCount - 1))) :=
    (lineStart_le_iff (by omega)).mp le_rfl
  omega

theorem lineStop_mono (d : Document) {a b : Nat} (h : a ≤ b) :
    (d.lineSpan a).stop ≤ (d.lineSpan b).stop := by
  by_contra hlt
  rw [not_le] at hlt
  have hsize : (d.lineSpan b).stop < d.size := hlt.trans_le (d.lineStop_le a)
  have hline := (lt_lineStop_iff hsize).mp hlt
  exact absurd ((lt_lineStop_iff hsize).mpr (hline.trans h)) (lt_irrefl _)

/-- **More context covers more of the document**, on either side. -/
theorem contextWindow_mono (d : Document) (s : Span) {context context' : Nat}
    (h : context ≤ context') :
    (d.contextWindow s context').start ≤ (d.contextWindow s context).start ∧
      (d.contextWindow s context).stop ≤ (d.contextWindow s context').stop := by
  rw [contextWindow_eq, contextWindow_eq]
  exact ⟨d.lineStart_mono (by omega), d.lineStop_mono (by omega)⟩

end Document

/-! ### Blocks in a wider range -/

namespace Block

/-- A search that ends at a delimiter does not see what comes later. -/
theorem closeFrom_more (opening : Nat) (inner : Delimiter) (outer : List Delimiter)
    (cs more : List (Nat × Char)) :
    closeFrom opening inner outer cs = .error (.unclosed opening) ∨
      closeFrom opening inner outer (cs ++ more) = closeFrom opening inner outer cs := by
  fun_induction closeFrom opening inner outer cs with
  | case1 => exact .inl rfl
  | case2 inner outer pos c cs d hopen ih =>
      simpa only [List.cons_append, closeFrom, hopen] using ih
  | case3 inner outer pos c cs hopen hclose ih =>
      simpa only [List.cons_append, closeFrom, hopen, hclose] using ih
  | case4 pos c cs hopen d hclose =>
      exact .inr (by simp only [List.cons_append, closeFrom, hopen, hclose, if_true])
  | case5 pos c cs hopen d hclose inner outer ih =>
      simpa only [List.cons_append, closeFrom, hopen, hclose, if_true] using ih
  | case6 inner outer pos c cs hopen d hclose hne =>
      exact .inr (by simp only [List.cons_append, closeFrom, hopen, hclose, hne, if_false])

/-- Whether a search has come to the end of its range. -/
def ranOut : Except BlockError Block → Bool
  | .error .noOpening | .error (.unclosed _) => true
  | _                                        => false

theorem openFrom_more (kind : BlockKind) (cs more : List (Nat × Char)) :
    ranOut (openFrom kind cs) = true ∨ openFrom kind (cs ++ more) = openFrom kind cs := by
  fun_induction openFrom kind cs with
  | case1 => exact .inl rfl
  | case2 pos c cs d hopen =>
      rcases closeFrom_more pos d [] cs more with hout | hsame
      · exact .inl (by rw [hout]; rfl)
      · exact .inr (by simpa only [List.cons_append, openFrom, hopen] using hsame)
  | case3 pos c cs hopen ih => simpa only [List.cons_append, openFrom, hopen] using ih

/-- **A block in a range is the block in any range that goes further**, unless the search has come to
the end of the first one. -/
theorem find_widen (t : Text) (kind : BlockKind) (start : Nat) {stop stop' : Nat} (h : stop ≤ stop') :
    ranOut (find t ⟨start, stop⟩ kind) = true ∨
      find t ⟨start, stop'⟩ kind = find t ⟨start, stop⟩ kind := by
  -- the characters before the nearer end come first among those before the further one
  have hprefix : (Code.scan t start).takeWhile (·.1 < min stop (Text.size t)) <+:
      (Code.scan t start).takeWhile (·.1 < min stop' (Text.size t)) := by
    have hboth : (Code.scan t start).takeWhile (·.1 < min stop (Text.size t)) =
        ((Code.scan t start).takeWhile (·.1 < min stop' (Text.size t))).takeWhile
          (·.1 < min stop (Text.size t)) := by
      rw [List.takeWhile_takeWhile]
      congr 1
      funext x
      simp only [decide_eq_decide, decide_eq_true_eq]
      omega
    rw [hboth]
    exact List.takeWhile_prefix _
  obtain ⟨more, hmore⟩ := hprefix
  have hends := openFrom_more kind ((Code.scan t start).takeWhile (·.1 < min stop (Text.size t))) more
  rwa [hmore] at hends

end Block

/-! ### Rules with more context -/

/-- Whether a miss is about the end of the window. -/
def Miss.wantsWindow : Miss → Bool
  | .noBlock | .blockOutsideWindow => true
  | _                              => false

namespace Transform

theorem findBlock_widen (d : Document) (kind : BlockKind) (start : Nat) {stop stop' : Nat} (h : stop ≤ stop') :
    (∃ why, findBlock d ⟨start, stop⟩ kind = .error why ∧ why.wantsWindow = true) ∨
      findBlock d ⟨start, stop'⟩ kind = findBlock d ⟨start, stop⟩ kind := by
  unfold findBlock
  rcases Block.find_widen d.text kind start h with hout | hsame
  · revert hout
    rcases Block.find d.text ⟨start, stop⟩ kind with (_ | _ | _) | b
    · exact fun _ => .inl ⟨_, rfl, rfl⟩
    · exact fun _ => .inl ⟨_, rfl, rfl⟩
    · exact fun hout => Bool.noConfusion hout
    · exact fun hout => Bool.noConfusion hout
  · exact .inr (by rw [hsame])

theorem bind_findBlock_widen (d : Document) {kind : BlockKind} {start stop stop' : Nat}
    (h : stop ≤ stop') (f : Block → Except Miss Edit) :
    (∃ why, (findBlock d ⟨start, stop⟩ kind >>= f) = .error why ∧ why.wantsWindow = true) ∨
      (findBlock d ⟨start, stop'⟩ kind >>= f) = (findBlock d ⟨start, stop⟩ kind >>= f) := by
  rcases findBlock_widen d kind start h with ⟨why, hmiss, hwants⟩ | hsame
  · exact .inl ⟨why, by rw [hmiss]; rfl, hwants⟩
  · exact .inr (by rw [hsame])

/-- **A plan in a wider window** is the same, unless the window was too narrow for a block. -/
theorem plan_widen (t : Transform) (d : Document) (m : Match) {window window' : Span}
    (matchIndent : Bool) (h : window.stop ≤ window'.stop) :
    (∃ why, t.plan d m window matchIndent = .error why ∧ why.wantsWindow = true) ∨
      t.plan d m window' matchIndent = t.plan d m window matchIndent := by
  cases t with
  | replace text | replaceCapture name text | insertBefore text | insertAfter text => exact .inr rfl
  | insertAfterBlock text kind | insertIntoBlock text kind => exact bind_findBlock_widen d h _

end Transform

namespace Rule

theorem attempt_widen_cases (r : Rule) (d : Document) {lines : Nat} (h : r.contextLines ≤ lines) :
    (∃ why, r.attempt d = .error why ∧ why.wantsWindow = true) ∨
      { r with contextLines := lines }.attempt d = r.attempt d := by
  unfold attempt
  cases r.anchor.find d with
  | none => exact .inr rfl
  | some m =>
      have hwindow := (d.contextWindow_mono m.span h).2
      rcases r.transform.plan_widen d m r.matchIndent hwindow with ⟨why, hmiss, hwants⟩ | hsame
      · exact .inl ⟨why, by simp only [plan, hmiss, Except.bind], hwants⟩
      · exact .inr (by simp only [plan, hsame])

/-- **More context never changes a rewrite that lands.**  With more lines of context a rule gives the
same document, and it misses for the same reason, unless it has found no block, or none that closes, in
the lines it could see. -/
theorem attempt_widen (r : Rule) (d : Document) {lines : Nat} (h : r.contextLines ≤ lines) :
    (∀ d', r.attempt d = .ok d' → { r with contextLines := lines }.attempt d = .ok d') ∧
      (∀ why, r.attempt d = .error why → why ≠ .noBlock → why ≠ .blockOutsideWindow →
        { r with contextLines := lines }.attempt d = .error why) := by
  rcases attempt_widen_cases r d h with ⟨why, hmiss, hwants⟩ | hsame
  · refine ⟨fun d' hland => ?_, fun why' hmiss' hblock hclosing => ?_⟩
    · rw [hmiss] at hland
      cases hland
    · cases hmiss.symm.trans hmiss'
      unfold Miss.wantsWindow at hwants
      split at hwants
      · exact absurd rfl hblock
      · exact absurd rfl hclosing
      · cases hwants
  · rw [hsame]
    exact ⟨fun _ hland => hland, fun _ hmiss _ _ => hmiss⟩

/-- The block after `é` closes two lines below it, so that no context is too little, and any more than
two lines is as good as two. -/
theorem attempt_widen_accented :
    { blockInserting with contextLines := 0 }.attempt accented = .error .blockOutsideWindow ∧
      blockInserting.attempt accented = .ok ⟨"é(\n ß\n ü\n)".toList⟩ ∧
      { blockInserting with contextLines := largestIndex }.attempt accented =
        .ok ⟨"é(\n ß\n ü\n)".toList⟩ := by
  have hland : blockInserting.attempt accented = .ok ⟨"é(\n ß\n ü\n)".toList⟩ := by cbv
  have hle : blockInserting.contextLines ≤ largestIndex := by decide
  exact ⟨by cbv, hland, (attempt_widen blockInserting accented hle).1 _ hland⟩

end Rule

end Graft
