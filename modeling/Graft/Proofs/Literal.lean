import Graft.Proofs.Bytes
import Graft.Proofs.EmptyMatch

/-!
# Searches for a literal

A search for a literal walks over characters, and one for all occurrences counts the characters that it
still has to pass over.  Both are told here by the bytes of the document.

* `Text.occurrencesFrom_of_indexOf?`: all occurrences are the first one, and all in what follows it.
* `Anchor.foundInTurn_iff`: so to search for all is to search for one after the other.
* `Anchor.literal_search_exact`: a search comes to the leftmost place in its range where the bytes of
  the literal stand, and what it gives back is that place.
-/

namespace Graft

/-! ### The first occurrence and the others -/

namespace Text

variable {needle t : Text}

theorem indexOf?_of_starts (h : needle <+: t) : indexOf? needle t = some 0 := by
  cases t with
  | nil => simp [indexOf?, List.prefix_nil.mp h]
  | cons c t => rw [indexOf?, if_pos (List.isPrefixOf_iff_prefix.mpr h)]

/-- **No occurrence is further left than the first one.** -/
theorem indexOf?_le {i : Nat} (h : indexOf? needle t = some i) {u v : Text}
    (htext : t = u ++ needle ++ v) : i ≤ size u := by
  subst htext
  induction u generalizing i with
  | nil =>
      rw [List.nil_append, indexOf?_of_starts (List.prefix_append _ _)] at h
      cases h
      exact Nat.zero_le _
  | cons c u ih =>
      rw [List.cons_append, List.cons_append, indexOf?] at h
      split at h
      · cases h
        exact Nat.zero_le _
      · obtain ⟨j, hj, rfl⟩ := Option.map_eq_some_iff.mp h
        have hle := ih hj
        rw [size]
        omega

theorem indexOf?_eq_none_iff : indexOf? needle t = none ↔ ¬ needle <:+: t := by
  rw [← contains_iff, contains, Bool.not_eq_true, Option.isSome_eq_false_iff, Option.isNone_iff_eq_none]

theorem occurrencesFrom_add (k pos skip : Nat) (t : Text) :
    occurrencesFrom needle (pos + k) skip t = (occurrencesFrom needle pos skip t).map (· + k) := by
  induction t generalizing pos skip with
  | nil => rfl
  | cons c t ih =>
      have hpos : pos + k + c.utf8Size = pos + c.utf8Size + k := by omega
      cases skip with
      | succ skip => rw [occurrencesFrom, occurrencesFrom, hpos, ih]
      | zero =>
          rw [occurrencesFrom, occurrencesFrom, hpos, ih, ih]
          split <;> rfl

/-- The characters of an occurrence are passed over. -/
theorem occurrencesFrom_skip (pos : Nat) (x v : Text) :
    occurrencesFrom needle pos x.length (x ++ v) = occurrencesFrom needle (pos + size x) 0 v := by
  induction x generalizing pos with
  | nil => rfl
  | cons c x ih => rw [List.cons_append, List.length_cons, occurrencesFrom, ih, add_size_cons]

theorem occurrencesFrom_of_none (h : indexOf? needle t = none) (pos : Nat) :
    occurrencesFrom needle pos 0 t = [] := by
  induction t generalizing pos with
  | nil => rfl
  | cons c t ih =>
      rw [indexOf?] at h
      split at h
      · cases h
      · next hhere =>
          rw [occurrencesFrom, if_neg hhere]
          exact ih (Option.map_eq_none_iff.mp h) _

/-- **All occurrences** are the first one, and all in what follows it. -/
theorem occurrencesFrom_of_indexOf? (hne : needle ≠ []) {u v : Text}
    (h : indexOf? needle (u ++ needle ++ v) = some (size u)) (pos : Nat) :
    occurrencesFrom needle pos 0 (u ++ needle ++ v) =
      (pos + size u) :: occurrencesFrom needle (pos + size u + size needle) 0 v := by
  induction u generalizing pos with
  | nil =>
      obtain ⟨c, rest, rfl⟩ := List.exists_cons_of_ne_nil hne
      have hhere : (c :: rest).isPrefixOf (c :: (rest ++ v)) = true :=
        List.isPrefixOf_iff_prefix.mpr (List.prefix_append (c :: rest) v)
      rw [List.nil_append, List.cons_append, occurrencesFrom, if_pos hhere, List.length_cons,
        Nat.add_sub_cancel, occurrencesFrom_skip, ← add_size_cons]
      rfl
  | cons c u ih =>
      rw [List.cons_append, List.cons_append] at h ⊢
      rw [indexOf?] at h
      split at h
      · -- the first occurrence is further on than here
        have hpos := c.utf8Size_pos
        have hzero := Option.some.inj h
        rw [size] at hzero
        omega
      · next hhere =>
          obtain ⟨j, hj, hsize⟩ := Option.map_eq_some_iff.mp h
          have hfirst : j = size u := by
            rw [size] at hsize
            omega
          rw [hfirst] at hj
          rw [occurrencesFrom, if_neg hhere, ih hj, add_size_cons]

end Text

/-! ### Ranges -/

namespace Document

/-- A range, cut to the document's end. -/
def clamp (d : Document) (range : Span) : Span := ⟨range.start, min range.stop d.size⟩

variable {d : Document} {range : Span}

theorem clip_eq_some_iff {start : Nat} {t : Text} :
    d.clip range = some (start, t) ↔ start = range.start ∧ d.spanText (d.clamp range) = .ok t := by
  rw [clip, spanText_eq_ok_iff_slice?, Option.map_eq_some_iff]
  constructor
  · rintro ⟨t, hslice, heq⟩
    cases heq
    exact ⟨rfl, hslice⟩
  · rintro ⟨rfl, hslice⟩
    exact ⟨t, hslice, rfl⟩

theorem clip_eq_none_iff : d.clip range = none ↔ ¬ d.Contains (d.clamp range) := by
  rw [contains_iff, Option.eq_none_iff_forall_ne_some, not_exists]
  constructor
  · intro h t ht
    exact h _ (clip_eq_some_iff.mpr ⟨rfl, ht⟩)
  · rintro h ⟨start, t⟩ hclip
    exact h t (clip_eq_some_iff.mp hclip).2

/-- What is left of a range after a piece of it. -/
theorem spanText_clamp_rest {u x v : Text} (h : d.spanText (d.clamp range) = .ok (u ++ x ++ v)) :
    d.spanText (d.clamp ⟨range.start + Text.size u + Text.size x, range.stop⟩) = .ok v := by
  obtain ⟨pre, post, htext, hstart, hstop⟩ := spanText_eq_ok_iff.mp h
  have hstart : Text.size pre = range.start := hstart
  have hstop : range.start + Text.size (u ++ x ++ v) = min range.stop d.size := hstop
  refine spanText_eq_ok_iff.mpr ⟨pre ++ u ++ x, post, by simp [htext], ?_, ?_⟩
  · show _ = range.start + Text.size u + Text.size x
    rw [Text.size_append, Text.size_append, hstart]
  · show range.start + Text.size u + Text.size x + Text.size v = min range.stop d.size
    rw [← hstop, Text.size_append, Text.size_append]
    omega

end Document

/-! ### Matches -/

/-- The match is a span of the document, with the text there, and its group 0 is that span. -/
structure Match.Located (m : Match) (d : Document) : Prop where
  contains : d.Contains m.span
  text     : Text.bytes m.text = d.text.bytesAt m.span
  whole    : m.groups[0]? = some (some m.span)

namespace Anchor

variable {a : Anchor} {needle : Text} {d : Document} {range : Span} {m : Match}

/-- **What a search for a literal finds**: in the text of its range, the first occurrence. -/
theorem findIn_literal_eq_some_iff (ha : a.pattern = .literal needle) :
    a.findIn d range = some m ↔ ∃ u v, d.spanText (d.clamp range) = .ok (u ++ needle ++ v) ∧
      Text.indexOf? needle (u ++ needle ++ v) = some (Text.size u) ∧
      m = .ofLiteral needle (range.start + Text.size u) := by
  unfold findIn Pattern.findIn
  rw [ha]
  constructor
  · intro h
    obtain ⟨⟨start, t⟩, hclip, h⟩ := Option.bind_eq_some_iff.mp h
    obtain ⟨i, hi, hm⟩ := Option.bind_eq_some_iff.mp h
    obtain ⟨rfl, hspan⟩ := Document.clip_eq_some_iff.mp hclip
    obtain ⟨u, v, rfl, rfl⟩ := Text.exists_of_indexOf? hi
    cases hm
    exact ⟨u, v, hspan, hi, by rw [Nat.add_comm]⟩
  · rintro ⟨u, v, hspan, hi, rfl⟩
    rw [Document.clip_eq_some_iff.mpr ⟨rfl, hspan⟩, Option.bind_eq_bind, Option.bind_some]
    simp only [hi, Option.bind_eq_bind, Option.bind_some, Nat.add_comm]
    rfl

theorem findIn_literal_eq_none_iff (ha : a.pattern = .literal needle) :
    a.findIn d range = none ↔
      ∀ t, d.spanText (d.clamp range) = .ok t → Text.indexOf? needle t = none := by
  rw [← Option.not_isSome_iff_eq_none, isSome_findIn_literal ha]
  simp only [Document.spanText_eq_ok_iff_slice?, Document.clamp, Text.indexOf?_eq_none_iff, not_exists,
    not_and]

theorem findAllIn_of_none (ha : a.pattern = .literal needle) (h : a.findIn d range = none) :
    a.findAllIn d range = [] := by
  unfold findAllIn Pattern.findAllIn
  cases hclip : d.clip range with
  | none => rfl
  | some cut =>
      obtain ⟨start, t⟩ := cut
      have hnone := (findIn_literal_eq_none_iff ha).mp h t (Document.clip_eq_some_iff.mp hclip).2
      simp only [ha, Text.occurrences, Text.occurrencesFrom_of_none hnone, List.map_nil]

/-- **All matches** are the first one, and all in what it leaves of the range. -/
theorem findAllIn_of_some (ha : a.pattern = .literal needle) (hne : needle ≠ [])
    (h : a.findIn d range = some m) :
    a.findAllIn d range = m :: a.findAllIn d ⟨m.span.stop, range.stop⟩ := by
  obtain ⟨u, v, hspan, hi, rfl⟩ := (findIn_literal_eq_some_iff ha).mp h
  have hclip := Document.clip_eq_some_iff.mpr ⟨rfl, hspan⟩
  have hrest : d.clip ⟨(Match.ofLiteral needle (range.start + Text.size u)).span.stop, range.stop⟩ =
      some (range.start + Text.size u + Text.size needle, v) :=
    Document.clip_eq_some_iff.mpr ⟨rfl, Document.spanText_clamp_rest hspan⟩
  have hlater : Text.occurrencesFrom needle (0 + Text.size u + Text.size needle) 0 v =
      (Text.occurrencesFrom needle 0 0 v).map (· + (Text.size u + Text.size needle)) := by
    rw [Nat.add_assoc, Text.occurrencesFrom_add]
  have hshift : ∀ i, i + (Text.size u + Text.size needle) + range.start =
      i + (range.start + Text.size u + Text.size needle) := fun i => by omega
  simp only [findAllIn, Pattern.findAllIn, hclip, hrest, ha, Text.occurrences]
  rw [Text.occurrencesFrom_of_indexOf? hne hi, hlater, List.map_cons, List.map_map, Nat.zero_add,
    Nat.add_comm (Text.size u)]
  simp only [Function.comp_def, hshift]

/-- The matches that one comes to by searching for one after the other, each in what the one before
leaves of the range. -/
inductive FoundInTurn (a : Anchor) (d : Document) : Span → List Match → Prop where
  | stop {range : Span} (h : a.findIn d range = none) : FoundInTurn a d range []
  | next {range : Span} {m : Match} {ms : List Match} (h : a.findIn d range = some m)
      (hrest : FoundInTurn a d ⟨m.span.stop, range.stop⟩ ms) : FoundInTurn a d range (m :: ms)

/-- **To search for all is to search for one after the other.** -/
theorem foundInTurn_iff (ha : a.pattern = .literal needle) (hne : needle ≠ []) {ms : List Match} :
    a.FoundInTurn d range ms ↔ a.findAllIn d range = ms := by
  constructor
  · intro h
    induction h with
    | stop h => exact findAllIn_of_none ha h
    | next h _ ih => rw [findAllIn_of_some ha hne h, ih]
  · intro h
    induction ms generalizing range with
    | nil =>
        cases hfind : a.findIn d range with
        | none => exact .stop hfind
        | some m =>
            rw [findAllIn_of_some ha hne hfind] at h
            cases h
    | cons m ms ih =>
        cases hfind : a.findIn d range with
        | none =>
            rw [findAllIn_of_none ha hfind] at h
            cases h
        | some found =>
            rw [findAllIn_of_some ha hne hfind] at h
            cases h
            exact .next hfind (ih rfl)

/-- The first match starts in the range, and the others after it. -/
theorem start_le_of_findIn (ha : a.pattern = .literal needle) (h : a.findIn d range = some m) :
    range.start ≤ m.span.start ∧ m.span.start ≤ m.span.stop := by
  obtain ⟨u, v, -, -, rfl⟩ := (findIn_literal_eq_some_iff ha).mp h
  exact ⟨Nat.le_add_right _ _, Nat.le_add_right _ _⟩

theorem FoundInTurn.start_le (ha : a.pattern = .literal needle) {ms : List Match}
    (h : a.FoundInTurn d range ms) : ∀ m ∈ ms, range.start ≤ m.span.start := by
  induction h with
  | stop h => simp
  | next h _ ih =>
      obtain ⟨hstart, hstop⟩ := start_le_of_findIn ha h
      exact List.forall_mem_cons.mpr ⟨hstart, fun m hm => (hstart.trans hstop).trans (ih m hm)⟩

theorem FoundInTurn.pairwise (ha : a.pattern = .literal needle) {ms : List Match}
    (h : a.FoundInTurn d range ms) : ms.Pairwise fun m m' => m.span.stop ≤ m'.span.start := by
  induction h with
  | stop h => exact .nil
  | next h hrest ih => exact .cons (hrest.start_le ha) ih

theorem FoundInTurn.head? {ms : List Match} (h : a.FoundInTurn d range ms) :
    ms.head? = a.findIn d range := by
  cases h with
  | stop h => rw [h]; rfl
  | next h _ => rw [h]; rfl

/-- Each of all matches is the first one of some range, which starts no earlier and ends where the whole
range does. -/
theorem FoundInTurn.exists_findIn (ha : a.pattern = .literal needle) {ms : List Match}
    (h : a.FoundInTurn d range ms) : ∀ m ∈ ms, ∃ start, range.start ≤ start ∧
      a.findIn d ⟨start, range.stop⟩ = some m := by
  induction h with
  | stop h => simp
  | next h _ ih =>
      obtain ⟨hstart, hstop⟩ := start_le_of_findIn ha h
      refine List.forall_mem_cons.mpr ⟨⟨_, le_rfl, h⟩, fun m hm => ?_⟩
      obtain ⟨start, hle, hfind⟩ := ih m hm
      exact ⟨start, (hstart.trans hstop).trans hle, hfind⟩

/-! ### Where the matches stand -/

theorem spanText_of_findIn_literal (ha : a.pattern = .literal needle) (h : a.findIn d range = some m) :
    m = .ofLiteral needle m.span.start ∧ d.spanText m.span = .ok needle := by
  obtain ⟨u, v, hspan, -, rfl⟩ := (findIn_literal_eq_some_iff ha).mp h
  obtain ⟨pre, post, htext, hstart, -⟩ := Document.spanText_eq_ok_iff.mp hspan
  refine ⟨rfl, Document.spanText_eq_ok_iff.mpr ⟨pre ++ u, v ++ post, by simp [htext], ?_, rfl⟩⟩
  rw [Text.size_append, hstart]
  rfl

/-- **The first match is the leftmost place** in the range where the bytes of the literal stand. -/
theorem isLeast_of_findIn (ha : a.pattern = .literal needle) (hne : needle ≠ [])
    (h : a.findIn d range = some m) :
    IsLeast {pos | needle.SpelledIn d.text (d.clamp range) pos} m.span.start := by
  obtain ⟨u, v, hspan, hi, rfl⟩ := (findIn_literal_eq_some_iff ha).mp h
  constructor
  · exact (Text.spelledIn_iff hne).mpr ((Marker.occursIn_iff hspan).mpr ⟨u, v, rfl, rfl⟩)
  · intro pos hpos
    obtain ⟨u', v', htext, rfl⟩ := (Marker.occursIn_iff hspan).mp ((Text.spelledIn_iff hne).mp hpos)
    exact Nat.add_le_add_left (Text.indexOf?_le hi htext) _

theorem findIn_eq_none_iff (ha : a.pattern = .literal needle) (hne : needle ≠ [])
    (hrange : d.Contains (d.clamp range)) :
    a.findIn d range = none ↔ ∀ pos, ¬ needle.SpelledIn d.text (d.clamp range) pos := by
  obtain ⟨t, hspan⟩ := Document.contains_iff.mp hrange
  rw [findIn_literal_eq_none_iff ha]
  constructor
  · intro h pos hpos
    obtain ⟨u, v, rfl, -⟩ := (Marker.occursIn_iff hspan).mp ((Text.spelledIn_iff hne).mp hpos)
    exact Text.indexOf?_eq_none_iff.mp (h _ hspan) ⟨u, v, rfl⟩
  · intro h t' hspan'
    cases hspan.symm.trans hspan'
    rw [Text.indexOf?_eq_none_iff]
    rintro ⟨u, v, rfl⟩
    exact h _ ((Text.spelledIn_iff hne).mpr ((Marker.occursIn_iff hspan).mpr ⟨u, v, rfl, rfl⟩))

/-- Whatever a search for a literal comes to is the literal, where it stands. -/
theorem Finds.located (ha : a.pattern = .literal needle) (hne : needle ≠ []) (h : a.Finds d range m) :
    m = .ofLiteral needle m.span.start ∧ m.Located d := by
  obtain ⟨range', hfind⟩ : ∃ range', a.findIn d range' = some m := by
    rcases h with h | h
    · exact ⟨range, h⟩
    · obtain ⟨start, -, hfind⟩ := ((foundInTurn_iff ha hne).mpr rfl).exists_findIn ha m h
      exact ⟨_, hfind⟩
  obtain ⟨hm, hspan⟩ := spanText_of_findIn_literal ha hfind
  obtain ⟨hcontains, hbytes⟩ := Document.spanText_eq_ok_iff_bytes.mp hspan
  refine ⟨hm, hcontains, ?_, ?_⟩
  · rw [← hbytes, hm]
    rfl
  · rw [hm]
    rfl

/-- **Literal searches are exact.**  Nothing is found in a range that is no span of the document once it
is cut to the document's end.  In any other range a search for one comes to the leftmost of all offsets
at which the bytes of the literal stand inside the range, if there is one.  A search for all comes to
what one finds by searching in turn, each time in what the last match leaves of the range; so the
matches are in order, do not overlap, and the first one is that of the search for one.  All of them are
the literal, at a span of the document. -/
theorem literal_search_exact {a : Anchor} {needle : Text} {role : Role}
    (ha : Anchor.literal needle role = .ok a) (d : Document) (range : Span) :
    (¬ d.Contains (d.clamp range) → a.findIn d range = none ∧ a.findAllIn d range = []) ∧
    (d.Contains (d.clamp range) →
      (∀ m, a.findIn d range = some m ↔ m = .ofLiteral needle m.span.start ∧
        IsLeast {pos | needle.SpelledIn d.text (d.clamp range) pos} m.span.start) ∧
      (a.findIn d range = none ↔ ∀ pos, ¬ needle.SpelledIn d.text (d.clamp range) pos)) ∧
    (∀ ms, a.FoundInTurn d range ms ↔ a.findAllIn d range = ms) ∧
    ((a.findAllIn d range).Pairwise fun m m' => m.span.stop ≤ m'.span.start) ∧
    (a.findAllIn d range).head? = a.findIn d range ∧
    ∀ m, a.Finds d range m → m.text = needle ∧ m.Located d := by
  obtain ⟨hne, hpattern⟩ := of_literal ha
  have hturn : a.FoundInTurn d range (a.findAllIn d range) := (foundInTurn_iff hpattern hne).mpr rfl
  refine ⟨fun hrange => ?_,
    fun hrange => ⟨fun m => ⟨fun h => ?_, ?_⟩, findIn_eq_none_iff hpattern hne hrange⟩,
    fun ms => foundInTurn_iff hpattern hne, hturn.pairwise hpattern, hturn.head?, fun m h => ?_⟩
  · have hclip := Document.clip_eq_none_iff.mpr hrange
    simp [findIn, findAllIn, Pattern.findIn, Pattern.findAllIn, hclip]
  · exact ⟨(spanText_of_findIn_literal hpattern h).1, isLeast_of_findIn hpattern hne h⟩
  · rintro ⟨hm, hleast⟩
    -- a least offset is one, so there is a match, and there is only one least offset
    cases hfind : a.findIn d range with
    | none => exact absurd hleast.1 ((findIn_eq_none_iff hpattern hne hrange).mp hfind _)
    | some found =>
        have hsame := (isLeast_of_findIn hpattern hne hfind).unique hleast
        rw [(spanText_of_findIn_literal hpattern hfind).1, hsame, ← hm]
  · obtain ⟨hm, hlocated⟩ := h.located hpattern hne
    exact ⟨by rw [hm]; rfl, hlocated⟩

/-- A literal that can overlap itself. -/
def mirrored : Text := ['é', 'a', 'é']

/-- It stands at 0, 3 and 6 here. -/
def overlapping : Document := ⟨['é', 'a', 'é', 'a', 'é', 'a', 'é']⟩

/-- From 1 on, inside a character, nothing is found, and from 2 on the occurrence at 3.  In the whole
document the one at 3 overlaps the first one, and so the one at 6 comes next. -/
theorem literal_search_exact_overlapping : ∃ a, Anchor.literal mirrored .other = .ok a ∧
    a.findIn overlapping ⟨1, 99⟩ = none ∧
    IsLeast {pos | mirrored.SpelledIn overlapping.text ⟨2, 11⟩ pos} 3 ∧
    a.FoundInTurn overlapping ⟨0, 99⟩ [.ofLiteral mirrored 0, .ofLiteral mirrored 6] ∧
    (Match.ofLiteral mirrored 6).Located overlapping := by
  have ha : Anchor.literal mirrored .other = .ok ⟨.literal mirrored, .other, .refl false⟩ := rfl
  have hinside : ¬ overlapping.Contains (overlapping.clamp ⟨1, 99⟩) := fun h =>
    absurd (Text.isBoundary_iff_boundary.mpr h.first) (by decide)
  have hlater : overlapping.Contains (overlapping.clamp ⟨2, 99⟩) :=
    Document.contains_iff.mpr ⟨['a', 'é', 'a', 'é', 'a', 'é'], by cbv⟩
  have hall : Anchor.findAllIn ⟨.literal mirrored, .other, .refl false⟩ overlapping ⟨0, 99⟩ =
      [.ofLiteral mirrored 0, .ofLiteral mirrored 6] := by cbv
  have hlast : .ofLiteral mirrored 6 ∈
      Anchor.findAllIn ⟨.literal mirrored, .other, .refl false⟩ overlapping ⟨0, 99⟩ := by simp [hall]
  obtain ⟨hnone, -⟩ := literal_search_exact ha overlapping ⟨1, 99⟩
  obtain ⟨-, hsome, -⟩ := literal_search_exact ha overlapping ⟨2, 99⟩
  obtain ⟨-, -, hturn, -, -, hlocated⟩ := literal_search_exact ha overlapping ⟨0, 99⟩
  have hleast := (((hsome hlater).1 (.ofLiteral mirrored 3)).mp (by cbv)).2
  exact ⟨_, ha, (hnone hinside).1, hleast, (hturn _).mpr hall, (hlocated _ (.inr hlast)).2⟩

end Anchor

end Graft
