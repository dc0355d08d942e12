import Graft.Proofs.Lines

/-!
# Lines as pieces

The lines of a document are the pieces of its text between line feeds, each without the carriage
returns at its end (`Document.lines_eq`).  Line numbers and byte offsets lead to the same pieces: line
`k` starts where the pieces before it end (`Document.lineSpan_of_pieces`).

All pieces but the last end in a line feed (`Text.pieces_cases`), and texts made of such pieces can
be put one after another (`Text.pieces_lines`).
-/

namespace Graft

namespace Text

/-! ### Pieces -/

/-- A piece with the line feed that ended it. -/
def row (p : Text × Bool) : Text := if p.2 then p.1 ++ ['\n'] else p.1

/-- The piece ended in a line feed, and holds no other. -/
def IsLine (p : Text × Bool) : Prop := p.2 = true ∧ '\n' ∉ p.1

theorem row_of_isLine {p : Text × Bool} (h : IsLine p) : row p = p.1 ++ ['\n'] := if_pos h.1

theorem row_cons (c : Char) (p : Text × Bool) : row (c :: p.1, p.2) = c :: row p := by
  cases hended : p.2 <;> simp [row, hended]

/-- A character that is no line feed starts the first piece, -/
theorem pieces_cons_of_nil {c : Char} (hc : c ≠ '\n') {t : Text} (h : pieces t = []) :
    pieces (c :: t) = [([c], false)] := by
  simp [pieces, hc, h]

/-- or belongs to the one that is there. -/
theorem pieces_cons_of_cons {c : Char} (hc : c ≠ '\n') {t : Text} {p : Text × Bool}
    {ps : List (Text × Bool)} (h : pieces t = p :: ps) :
    pieces (c :: t) = (c :: p.1, p.2) :: ps := by
  simp [pieces, hc, h]

/-- A line in front of a text is the first of its pieces. -/
theorem pieces_line {l : Text} (hl : '\n' ∉ l) (t : Text) :
    pieces (l ++ '\n' :: t) = (l, true) :: pieces t := by
  induction l with
  | nil => simp [pieces]
  | cons c l ih =>
      have hc : c ≠ '\n' := (List.ne_of_not_mem_cons hl).symm
      exact pieces_cons_of_cons hc (ih (List.not_mem_of_not_mem_cons hl))

theorem pieces_of_not_mem {l : Text} (hl : '\n' ∉ l) (hne : l ≠ []) : pieces l = [(l, false)] := by
  induction l with
  | nil => exact absurd rfl hne
  | cons c l ih =>
      have hc : c ≠ '\n' := (List.ne_of_not_mem_cons hl).symm
      cases l with
      | nil => exact pieces_cons_of_nil hc rfl
      | cons a l =>
          exact pieces_cons_of_cons hc (ih (List.not_mem_of_not_mem_cons hl) (List.cons_ne_nil _ _))

/-- **Lines in front of a text** are the first of its pieces. -/
theorem pieces_lines {ps : List (Text × Bool)} (hps : ∀ p ∈ ps, IsLine p) (t : Text) :
    pieces (ps.flatMap row ++ t) = ps ++ pieces t := by
  induction ps with
  | nil => rfl
  | cons p ps ih =>
      obtain ⟨hp, hps⟩ := List.forall_mem_cons.mp hps
      rw [List.flatMap_cons, row_of_isLine hp, List.append_assoc, List.append_assoc,
        List.singleton_append, pieces_line hp.2, ih hps, List.cons_append]
      exact congrArg₂ List.cons (Prod.ext rfl hp.1.symm) rfl

/-- Nothing is lost between the pieces. -/
theorem flatMap_row_pieces (t : Text) : (pieces t).flatMap row = t := by
  induction t with
  | nil => rfl
  | cons c t ih =>
      by_cases hc : c = '\n'
      · simp [pieces, hc, row, ih]
      · cases hps : pieces t with
        | nil =>
            rw [hps] at ih
            rw [pieces_cons_of_nil hc hps, ← ih]
            rfl
        | cons p ps =>
            rw [hps, List.flatMap_cons] at ih
            rw [pieces_cons_of_cons hc hps, List.flatMap_cons, row_cons, List.cons_append, ih]

theorem pieces_eq_nil_iff {t : Text} : pieces t = [] ↔ t = [] := by
  constructor
  · intro h
    simpa [h] using (flatMap_row_pieces t).symm
  · rintro rfl
    rfl

/-- **All pieces but the last are lines**; the last may be one, or has no line feed and is not
empty. -/
theorem pieces_cases (t : Text) :
    (∀ p ∈ pieces t, IsLine p) ∨
      ∃ ps l, pieces t = ps ++ [(l, false)] ∧ (∀ p ∈ ps, IsLine p) ∧ '\n' ∉ l ∧ l ≠ [] := by
  induction t with
  | nil => exact .inl nofun
  | cons c t ih =>
      by_cases hc : c = '\n'
      · have hfirst : IsLine ([], true) := ⟨rfl, List.not_mem_nil⟩
        simp only [pieces, hc, if_true]
        rcases ih with hall | ⟨ps, l, heq, hps, hl⟩
        · exact .inl (List.forall_mem_cons.mpr ⟨hfirst, hall⟩)
        · exact .inr ⟨([], true) :: ps, l, by rw [heq]; rfl,
            List.forall_mem_cons.mpr ⟨hfirst, hps⟩, hl⟩
      · -- the character goes to the first piece, if there is one
        have hgrow : ∀ {p : Text × Bool}, IsLine p → IsLine (c :: p.1, p.2) := fun h =>
          ⟨h.1, List.not_mem_cons_of_ne_of_not_mem (Ne.symm hc) h.2⟩
        rcases ih with hall | ⟨ps, l, heq, hps, hl, hne⟩
        · cases hps : pieces t with
          | nil =>
              exact .inr ⟨[], [c], pieces_cons_of_nil hc hps, nofun, by simpa using Ne.symm hc,
                List.cons_ne_nil _ _⟩
          | cons p ps =>
              rw [pieces_cons_of_cons hc hps]
              rw [hps] at hall
              obtain ⟨hp, hps⟩ := List.forall_mem_cons.mp hall
              exact .inl (List.forall_mem_cons.mpr ⟨hgrow hp, hps⟩)
        · cases ps with
          | nil =>
              exact .inr ⟨[], c :: l, pieces_cons_of_cons hc heq, nofun,
                List.not_mem_cons_of_ne_of_not_mem (Ne.symm hc) hl, List.cons_ne_nil _ _⟩
          | cons p ps =>
              obtain ⟨hp, hps⟩ := List.forall_mem_cons.mp hps
              exact .inr ⟨(c :: p.1, p.2) :: ps, l, pieces_cons_of_cons hc heq,
                List.forall_mem_cons.mpr ⟨hgrow hp, hps⟩, hl, hne⟩

theorem not_mem_of_mem_pieces {t : Text} {p : Text × Bool} (h : p ∈ pieces t) : '\n' ∉ p.1 := by
  rcases pieces_cases t with hall | ⟨ps, l, heq, hps, hl, -⟩
  · exact (hall p h).2
  · rw [heq] at h
    rcases List.mem_append.mp h with h | h
    · exact (hps p h).2
    · rw [List.mem_singleton.mp h]
      exact hl

/-- A piece that something follows is a line. -/
theorem isLine_of_pieces {t : Text} {pre post : List (Text × Bool)} (h : pieces t = pre ++ post)
    (hpost : post ≠ []) : ∀ p ∈ pre, IsLine p := by
  intro p hp
  rcases pieces_cases t with hall | ⟨ps, l, heq, hps, -⟩
  · exact hall p (by rw [h]; exact List.mem_append_left _ hp)
  · rw [h] at heq
    have hpre : pre <+: ps := by
      rcases List.prefix_concat_iff.mp (heq ▸ List.prefix_append pre post) with hfull | hlt
      · rw [hfull] at heq
        exact absurd (List.append_right_eq_self.mp heq) hpost
      · exact hlt
    exact hps p (hpre.subset hp)

theorem isLine_of_cons {t : Text} {pre post : List (Text × Bool)} {p : Text × Bool}
    (h : pieces t = pre ++ p :: post) (hpost : post ≠ []) : IsLine p := by
  have hnext : pieces t = (pre ++ [p]) ++ post := by rw [h, List.append_assoc]; rfl
  exact isLine_of_pieces hnext hpost p (by simp)

/-- The rest of the pieces are the pieces of the rest. -/
theorem pieces_rest {t : Text} {pre post : List (Text × Bool)} (h : pieces t = pre ++ post)
    (hpre : ∀ p ∈ pre, IsLine p) : pieces (post.flatMap row) = post := by
  have ht : t = pre.flatMap row ++ post.flatMap row := by
    rw [← List.flatMap_append, ← h, flatMap_row_pieces]
  rw [ht, pieces_lines hpre] at h
  exact List.append_cancel_left h

/-! ### Ends of pieces -/

theorem trimEnd_of_getLast? {c : Char} {t : Text} (h : t.getLast? ≠ some c) : trimEnd c t = t := by
  induction t using List.reverseRecOn with
  | nil => rfl
  | append_singleton t a _ =>
      have ha : (a == c) = false := by simpa using h
      simp [trimEnd, ha]

theorem trimEnd_concat (c : Char) (t : Text) : trimEnd c (t ++ [c]) = trimEnd c t := by
  simp [trimEnd]

theorem getLast?_ne_of_not_mem {c : Char} {t : Text} (h : c ∉ t) : t.getLast? ≠ some c :=
  fun hlast => h (List.mem_of_getLast? hlast)

theorem trimEnd_row {p : Text × Bool} (h : '\n' ∉ p.1) : trimEnd '\n' (row p) = p.1 := by
  have hbare := trimEnd_of_getLast? (getLast?_ne_of_not_mem h)
  obtain ⟨l, ended⟩ := p
  cases ended with
  | false => exact hbare
  | true => exact (trimEnd_concat '\n' l).trans hbare

end Text

namespace Document

open Text

/-! ### Where lines start -/

/-- Where pieces start, the first one at `pos`. -/
def offsets (pos : Nat) : List (Text × Bool) → List Nat
  | []      => []
  | p :: ps => pos :: offsets (pos + Text.size (row p)) ps

theorem length_offsets (pos : Nat) (ps : List (Text × Bool)) : (offsets pos ps).length = ps.length := by
  induction ps generalizing pos with
  | nil => rfl
  | cons p ps ih => simp [offsets, ih]

theorem offsets_append (pos : Nat) (ps qs : List (Text × Bool)) :
    offsets pos (ps ++ qs) = offsets pos ps ++ offsets (pos + Text.size (ps.flatMap row)) qs := by
  induction ps generalizing pos with
  | nil => rfl
  | cons p ps ih => simp [offsets, ih, Nat.add_assoc]

/-- **Lines start where pieces do.** -/
theorem cons_startsAfter (pos : Nat) {t : Text} (ht : t ≠ []) :
    pos :: startsAfter pos t = offsets pos (pieces t) := by
  induction t generalizing pos with
  | nil => exact absurd rfl ht
  | cons c t ih =>
      by_cases hc : c = '\n'
      · subst hc
        -- a line feed at the very end starts no line, and is the end of the last piece
        cases t with
        | nil => rfl
        | cons a t =>
            have hrest := ih (pos + 1) (List.cons_ne_nil a t)
            have hstarts : startsAfter pos ('\n' :: a :: t) = (pos + 1) :: startsAfter (pos + 1) (a :: t) :=
              rfl
            have hpieces : pieces ('\n' :: a :: t) = ([], true) :: pieces (a :: t) :=
              pieces_line List.not_mem_nil (a :: t)
            rw [hstarts, hrest, hpieces]
            rfl
      · have hstarts : startsAfter pos (c :: t) = startsAfter (pos + c.utf8Size) t := by
          simp [startsAfter, hc]
        cases hps : pieces t with
        | nil =>
            rw [pieces_cons_of_nil hc hps, hstarts, pieces_eq_nil_iff.mp hps]
            rfl
        | cons p ps =>
            have ht' : t ≠ [] := fun h => by simp [h, pieces] at hps
            have hrest := ih (pos + c.utf8Size) ht'
            rw [hps, offsets, List.cons.injEq] at hrest
            rw [pieces_cons_of_cons hc hps, hstarts, hrest.2, offsets, row_cons, Text.add_size_cons]

variable {d : Document}

theorem lineStarts_of_pieces (h : d.text ≠ []) : d.lineStarts = offsets 0 (pieces d.text) :=
  cons_startsAfter 0 h

theorem lineCount_of_pieces (h : d.text ≠ []) : d.lineCount = (pieces d.text).length := by
  rw [lineCount, lineStarts_of_pieces h, length_offsets]

section

variable {pre post : List (Text × Bool)} {p : Text × Bool} (h : pieces d.text = pre ++ p :: post)

include h

theorem text_of_pieces : d.text = pre.flatMap row ++ row p ++ post.flatMap row := by
  rw [← flatMap_row_pieces d.text, h, List.flatMap_append, List.flatMap_cons, List.append_assoc]

theorem text_ne_nil_of_pieces : d.text ≠ [] := by
  intro hnil
  rw [hnil] at h
  simp [pieces] at h

theorem feed_not_mem_of_pieces : '\n' ∉ p.1 := not_mem_of_mem_pieces (t := d.text) (by simp [h])

/-- **Where a line stands**: after the pieces before it. -/
theorem lineSpan_of_pieces : d.lineSpan pre.length =
    ⟨Text.size (pre.flatMap row), Text.size (pre.flatMap row) + Text.size (row p)⟩ := by
  have hne := text_ne_nil_of_pieces h
  have hmin : min pre.length (d.lineCount - 1) = pre.length := by
    rw [lineCount_of_pieces hne, h, List.length_append, List.length_cons]
    omega
  have hstarts : d.lineStarts = offsets 0 pre ++
      offsets (Text.size (pre.flatMap row)) (p :: post) := by
    rw [lineStarts_of_pieces hne, h, offsets_append, Nat.zero_add]
  have hskip : ∀ n x, d.lineStarts.getD (pre.length + n) x =
      (offsets (Text.size (pre.flatMap row)) (p :: post)).getD n x := by
    intro n x
    rw [hstarts, List.getD_append_right _ _ _ _ (by rw [length_offsets]; omega), length_offsets,
      Nat.add_sub_cancel_left]
  rw [lineSpan, lineStart, hmin, hskip 1, ← Nat.add_zero pre.length, hskip 0]
  refine congrArg₂ Span.mk rfl ?_
  cases post with
  | nil =>
      rw [Document.size, text_of_pieces h]
      simp [offsets]
  | cons q post => rfl

theorem textAt_of_pieces : d.textAt (d.lineSpan pre.length) = row p := by
  have hslice : Text.slice? d.text (d.lineSpan pre.length).start (d.lineSpan pre.length).stop =
      some (row p) := by
    rw [lineSpan_of_pieces h]
    exact Text.slice?_eq_some_iff.mpr ⟨_, _, text_of_pieces h, rfl, rfl⟩
  rw [textAt, hslice]
  rfl

theorem line_of_pieces : d.line pre.length = trimEnd '\r' p.1 := by
  rw [line, textAt_of_pieces h, trimEnd_row (feed_not_mem_of_pieces h)]

theorem lineTerminated_of_pieces : d.lineTerminated pre.length = p.2 := by
  rw [lineTerminated, textAt_of_pieces h]
  cases hended : p.2 with
  | true => simp [row, hended]
  | false => simpa [row, hended] using getLast?_ne_of_not_mem (feed_not_mem_of_pieces h)

end

/-- Every line is one of the pieces. -/
theorem exists_pieces (h : d.text ≠ []) {n : Nat} (hn : n < d.lineCount) :
    ∃ pre p post, pieces d.text = pre ++ p :: post ∧ pre.length = n := by
  rw [lineCount_of_pieces h] at hn
  refine ⟨(pieces d.text).take n, (pieces d.text)[n], (pieces d.text).drop (n + 1), ?_,
    List.length_take_of_le hn.le⟩
  rw [List.getElem_cons_drop, List.take_append_drop]

/-- **The lines of a document** are the pieces of its text, without the carriage returns at their
ends. -/
theorem lines_eq (h : d.text ≠ []) : d.lines = (pieces d.text).map fun p => trimEnd '\r' p.1 := by
  refine List.ext_getElem (by simp [lines, lineCount_of_pieces h]) fun n hn _ => ?_
  obtain ⟨pre, p, post, hpieces, rfl⟩ := exists_pieces h (by simpa [lines] using hn)
  simp only [lines, List.getElem_map, List.getElem_range, hpieces, line_of_pieces hpieces,
    List.getElem_append_right le_rfl, Nat.sub_self, List.getElem_cons_zero]

end Document

end Graft
