import Graft.Marker
import Graft.Proofs.Lines
import Graft.Proofs.Regex

/-!
# Scopes

A marker with a scope sees its block and nothing else.  A block that is found is a piece of the
document that ends in its closing delimiter (`Block.find_piece`).  A search inside the piece is the
search in the piece alone, moved to where the piece stands (`Document.Piece.map_span_findAllIn`), and so
are the lines around an occurrence (`Document.Piece.contextWindow_eq`).

The verdict of the marker is therefore the verdict of the marker without its scope on the text of the
block (`Marker.evaluate_scoped`), whatever stands around the block.
-/

namespace Graft

/-! ### Blocks as pieces -/

/-- A closing delimiter is one byte, and no line feed. -/
theorem Delimiter.of_closing? {c : Char} {d : Delimiter} (h : closing? c = some d) :
    c.utf8Size = 1 ∧ c ≠ '\n' := by
  unfold closing? at h
  split at h
  · decide
  · decide
  · decide
  · cases h

namespace Code

/-- A code character stands at its offset. -/
theorem exists_of_mem_scanFrom {pos p : Nat} {c : Char} {t : Text} (h : (p, c) ∈ scanFrom pos t) :
    ∃ u v, t = u ++ c :: v ∧ p = pos + Text.size u := by
  fun_induction scanFrom pos t with
  | case1 => cases h
  | case2 pos a t hpass ih =>
      rcases List.mem_cons.mp h with heq | h
      · cases heq
        exact ⟨[], t, rfl, rfl⟩
      · obtain ⟨u, v, rfl, rfl⟩ := ih h
        exact ⟨a :: u, v, rfl, (Text.add_size_cons _ _ _).symm⟩
  | case3 pos a t jumped rest hpass _ ih =>
      obtain ⟨u, v, hrest, rfl⟩ := ih h
      refine ⟨a :: (jumped ++ u), v, ?_, ?_⟩
      · rw [← append_of_pass hpass, hrest, List.cons_append, List.append_assoc]
      · rw [Text.add_size_cons, Text.size_append, Nat.add_assoc]

theorem exists_of_mem_scan {t : Text} {start p : Nat} {c : Char} (h : (p, c) ∈ scan t start) :
    ∃ pre u v, t = pre ++ (u ++ c :: v) ∧ Text.size pre = start ∧ p = start + Text.size u := by
  unfold scan at h
  split at h
  · next pre rest hcut =>
      obtain ⟨rfl, hpre⟩ := Text.splitAt?_eq_some_iff.mp hcut
      obtain ⟨u, v, rfl, rfl⟩ := exists_of_mem_scanFrom h
      exact ⟨pre, u, v, rfl, hpre, rfl⟩
  · cases h

end Code

namespace Block

/-- The block closes at one of the characters, and it is a closing delimiter. -/
def ClosesIn (b : Block) (cs : List (Nat × Char)) : Prop :=
  ∃ c d, (b.closing, c) ∈ cs ∧ Delimiter.closing? c = some d

theorem ClosesIn.cons {b : Block} {cs : List (Nat × Char)} (h : b.ClosesIn cs) (x : Nat × Char) :
    b.ClosesIn (x :: cs) := by
  obtain ⟨c, d, hmem, hclose⟩ := h
  exact ⟨c, d, List.mem_cons_of_mem _ hmem, hclose⟩

theorem closesIn_of_closeFrom {opening : Nat} {inner : Delimiter} {outer : List Delimiter}
    {cs : List (Nat × Char)} {b : Block} (h : closeFrom opening inner outer cs = .ok b) :
    b.ClosesIn cs := by
  fun_induction closeFrom opening inner outer cs with
  | case1 => cases h
  | case2 inner outer pos c cs d hopen ih => exact (ih h).cons _
  | case3 inner outer pos c cs hopen hclose ih => exact (ih h).cons _
  | case4 pos c cs hopen d hclose =>
      cases h
      exact ⟨c, d, List.mem_cons_self, hclose⟩
  | case5 pos c cs hopen d hclose inner outer ih => exact (ih h).cons _
  | case6 => cases h

theorem closesIn_of_openFrom {kind : BlockKind} {cs : List (Nat × Char)} {b : Block}
    (h : openFrom kind cs = .ok b) : b.ClosesIn cs := by
  fun_induction openFrom kind cs with
  | case1 => cases h
  | case2 pos c cs d hopen => exact (closesIn_of_closeFrom h).cons _
  | case3 pos c cs hopen ih => exact (ih h).cons _

/-- **A block is a piece**: from where the search starts to its closing delimiter. -/
theorem find_piece {d : Document} {range : Span} {kind : BlockKind} {b : Block}
    (h : find d.text range kind = .ok b) :
    ∃ pre mid, d.Piece pre mid ∧ Text.size pre = range.start ∧
      Text.size pre + Text.size mid = b.closing + 1 := by
  obtain ⟨c, delimiter, hmem, hclose⟩ := closesIn_of_openFrom h
  obtain ⟨hsize, hfeed⟩ := Delimiter.of_closing? hclose
  obtain ⟨pre, u, v, htext, hpre, hclosing⟩ :=
    Code.exists_of_mem_scan (List.takeWhile_subset _ hmem)
  refine ⟨pre, u ++ [c], ⟨⟨v, by simp [htext]⟩, by simp, by simpa using hfeed⟩, hpre, ?_⟩
  rw [Text.size_append, hpre, hclosing, Text.size, Text.size, hsize]
  omega

end Block

/-! ### Searches -/

namespace Text

/-- A literal stands at each of its occurrences. -/
theorem exists_of_mem_occurrencesFrom {needle t : Text} {pos skip x : Nat}
    (h : x ∈ occurrencesFrom needle pos skip t) :
    ∃ u v, t = u ++ needle ++ v ∧ x = pos + size u := by
  induction t generalizing pos skip with
  | nil => cases h
  | cons c t ih =>
      have hrest : ∀ {skip}, x ∈ occurrencesFrom needle (pos + c.utf8Size) skip t →
          ∃ u v, c :: t = u ++ needle ++ v ∧ x = pos + size u := by
        intro skip h
        obtain ⟨u, v, rfl, rfl⟩ := ih h
        exact ⟨c :: u, v, rfl, (add_size_cons _ _ _).symm⟩
      cases skip with
      | succ skip => exact hrest h
      | zero =>
          rw [occurrencesFrom] at h
          split at h
          · next hhere =>
              rcases List.mem_cons.mp h with rfl | h
              · obtain ⟨v, hv⟩ := List.isPrefixOf_iff_prefix.mp hhere
                exact ⟨[], v, hv.symm, rfl⟩
              · exact hrest h
          · exact hrest h

end Text

namespace Pattern

/-- Whether the pattern occurs in a text. -/
def occursIn (t : Text) : Pattern → Bool
  | .literal needle => Text.contains needle t
  | .regex r        => (r.find? t).isSome

/-- Where the pattern occurs in a text. -/
def spans (t : Text) : Pattern → List Span
  | .literal needle => (Text.occurrences needle t).map fun i => ⟨i, i + Text.size needle⟩
  | .regex r        => (r.findAll t).map (·.whole)

theorem bounds_of_mem_spans {p : Pattern} {t : Text} {s : Span} (h : s ∈ p.spans t) :
    s.start ≤ s.stop ∧ s.stop ≤ Text.size t := by
  cases p with
  | literal needle =>
      obtain ⟨i, hi, rfl⟩ := List.mem_map.mp h
      obtain ⟨u, v, rfl, rfl⟩ := Text.exists_of_mem_occurrencesFrom hi
      simp only [Text.size_append]
      omega
  | regex r =>
      obtain ⟨g, hg, rfl⟩ := List.mem_map.mp h
      have hwhole := (Regex.findAll_recorded hg).whole
      exact ⟨hwhole.ordered, hwhole.stop_le⟩

end Pattern

namespace Anchor

/-- A search depends on the text that it covers only. -/
theorem isSome_findIn (a : Anchor) (d : Document) (range : Span) :
    (a.findIn d range).isSome = (d.clip range).any fun cut => a.pattern.occursIn cut.2 := by
  unfold findIn Pattern.findIn
  cases d.clip range with
  | none => rfl
  | some cut =>
      cases hpattern : a.pattern with
      | literal needle => cases hfound : Text.indexOf? needle cut.2 <;>
          simp [Pattern.occursIn, Text.contains, hfound]
      | regex r => cases hfound : r.find? cut.2 <;> simp [Pattern.occursIn, hfound]

theorem map_span_findAllIn (a : Anchor) {d : Document} {range : Span} {offset : Nat} {t : Text}
    (h : d.clip range = some (offset, t)) :
    (a.findAllIn d range).map (·.span) = (a.pattern.spans t).map (·.shift offset) := by
  unfold findAllIn Pattern.findAllIn
  rw [h]
  cases hpattern : a.pattern with
  | literal needle =>
      simp only [Pattern.spans, List.map_map]
      refine List.map_congr_left fun i _ => ?_
      simp only [Function.comp_apply, Match.ofLiteral, Span.shift, Span.mk.injEq, true_and]
      omega
  | regex r => simp only [Pattern.spans, List.map_map]; rfl

end Anchor

namespace Document

theorem clip_whole (d : Document) : d.clip d.whole = some (0, d.text) := by
  have hslice : Text.slice? d.text 0 d.size = some d.text :=
    Text.slice?_eq_some_iff.mpr ⟨[], [], by simp, rfl, Nat.zero_add _⟩
  simp [clip, whole, hslice]

namespace Piece

variable {d : Document} {pre mid : Text}

theorem slice?_eq (h : d.Piece pre mid) {first last : Nat} (hlast : last ≤ Text.size mid) :
    Text.slice? d.text (first + Text.size pre) (last + Text.size pre) = Text.slice? mid first last := by
  obtain ⟨post, htext⟩ := h.text
  ext x
  rw [Text.slice?_eq_some_iff, Text.slice?_eq_some_iff]
  constructor
  · -- the slice starts at or after the piece's start and ends at or before its end
    rintro ⟨before, after, hcut, hbefore, hx⟩
    obtain ⟨u, v, rfl, rfl, -⟩ :=
      Text.exists_sides (hcut.symm.trans htext) (by omega) (by omega)
    rw [Text.size_append] at hbefore
    exact ⟨u, v, rfl, by omega, by omega⟩
  · rintro ⟨u, v, rfl, rfl, rfl⟩
    exact ⟨pre ++ u, v ++ post, by simp [htext], by rw [Text.size_append]; omega, by omega⟩

/-- A range of the piece covers the same text in the piece and in the document. -/
theorem clip_eq (h : d.Piece pre mid) {s : Span} (hstop : s.stop ≤ Text.size mid) :
    d.clip (s.shift (Text.size pre)) =
      (clip ⟨mid⟩ s).map fun cut => (cut.1 + Text.size pre, cut.2) := by
  have hsize := h.size_le
  have houter : min (s.stop + Text.size pre) d.size = s.stop + Text.size pre := by omega
  have hinner : min s.stop (size ⟨mid⟩) = s.stop := Nat.min_eq_left hstop
  simp only [clip, Span.shift, houter, hinner, h.slice?_eq hstop, Option.map_map]
  rfl

theorem isSome_findIn (h : d.Piece pre mid) (a : Anchor) {s : Span} (hstop : s.stop ≤ Text.size mid) :
    (a.findIn d (s.shift (Text.size pre))).isSome = (a.findIn ⟨mid⟩ s).isSome := by
  rw [Anchor.isSome_findIn, Anchor.isSome_findIn, h.clip_eq hstop, Option.any_map]

/-- **Searches in a piece**: an anchor has the same occurrences in the piece and in the document,
moved to where the piece stands. -/
theorem map_span_findAllIn (h : d.Piece pre mid) (a : Anchor) :
    (a.findAllIn d ((whole ⟨mid⟩).shift (Text.size pre))).map (·.span) =
      (a.pattern.spans mid).map (·.shift (Text.size pre)) := by
  refine a.map_span_findAllIn ?_
  rw [h.clip_eq le_rfl, clip_whole, Option.map_some, Nat.zero_add]

end Piece

end Document

/-! ### Markers -/

namespace Marker

variable {d : Document} {pre mid : Text}

theorem around_whole (m : Marker) (d : Document) (s : Span) :
    m.around d d.whole s = d.contextWindow s m.window := by
  simp only [around, Document.whole, Nat.max_zero, Nat.min_eq_left (d.contextWindow_stop_le s m.window)]

theorem around_piece (m : Marker) (h : d.Piece pre mid) {s : Span} (hle : s.start ≤ s.stop)
    (hstop : s.stop ≤ Text.size mid) :
    m.around d ((Document.whole ⟨mid⟩).shift (Text.size pre)) (s.shift (Text.size pre)) =
      (Document.contextWindow ⟨mid⟩ s m.window).shift (Text.size pre) := by
  rw [← h.contextWindow_eq hle hstop m.window]
  simp only [around, Document.whole, Span.shift, Document.size, Nat.zero_add,
    Nat.add_comm (Text.size mid)]

/-- Context is looked for in the piece only. -/
theorem satisfiedAt_piece (m : Marker) (h : d.Piece pre mid) {s : Span} (hle : s.start ≤ s.stop)
    (hstop : s.stop ≤ Text.size mid) :
    m.satisfiedAt d ((Document.whole ⟨mid⟩).shift (Text.size pre)) (s.shift (Text.size pre)) =
      m.satisfiedAt ⟨mid⟩ (Document.whole ⟨mid⟩) s := by
  have hwindow : (Document.contextWindow ⟨mid⟩ s m.window).stop ≤ Text.size mid :=
    Document.contextWindow_stop_le _ _ _
  simp only [satisfiedAt, around_whole, m.around_piece h hle hstop, h.isSome_findIn _ hwindow]

/-- The verdict on a piece of a document is the verdict on the piece alone. -/
theorem any_satisfiedAt_piece (m : Marker) (h : d.Piece pre mid) :
    (m.identifier.findAllIn d ((Document.whole ⟨mid⟩).shift (Text.size pre))).any
        (fun o => m.satisfiedAt d ((Document.whole ⟨mid⟩).shift (Text.size pre)) o.span) =
      (m.identifier.findAllIn ⟨mid⟩ (Document.whole ⟨mid⟩)).any
        (fun o => m.satisfiedAt ⟨mid⟩ (Document.whole ⟨mid⟩) o.span) := by
  -- only the spans of the occurrences count, and they are the same up to where the piece stands
  have hspans : ∀ (e : Document) (region : Span),
      (m.identifier.findAllIn e region).any (fun o => m.satisfiedAt e region o.span) =
        ((m.identifier.findAllIn e region).map (·.span)).any (m.satisfiedAt e region) :=
    fun e region => by rw [List.any_map]; rfl
  rw [hspans, hspans, h.map_span_findAllIn, Anchor.map_span_findAllIn _ (Document.clip_whole ⟨mid⟩),
    List.any_map, List.any_map, Bool.eq_iff_iff, List.any_eq_true, List.any_eq_true]
  refine exists_congr fun s => and_congr_right fun hs => ?_
  obtain ⟨hle, hstop⟩ := Pattern.bounds_of_mem_spans hs
  rw [Function.comp_apply, m.satisfiedAt_piece h hle hstop]
  rfl

/-- The block of a scope is there, and the marker is evaluated on it alone. -/
theorem evaluate_block {m : Marker} {a : Anchor} {o : Match} {b : Block} (hscope : m.scope = some a)
    (hfind : a.find d = some o) (hblock : Block.find d.text ⟨o.span.start, d.size⟩ .any = .ok b) :
    ∃ block, Text.slice? d.text o.span.start (b.closing + 1) = some block ∧
      m.evaluate d = { m with scope := none }.evaluate ⟨block⟩ := by
  obtain ⟨pre, block, hpiece, hpre, hstop⟩ := Block.find_piece hblock
  obtain ⟨post, htext⟩ := hpiece.text
  refine ⟨block, Text.slice?_eq_some_iff.mpr ⟨pre, post, htext, hpre, by rw [← hpre, hstop]⟩, ?_⟩
  have hspan : (⟨o.span.start, b.closing + 1⟩ : Span) =
      (Document.whole ⟨block⟩).shift (Text.size pre) := by
    simp only [Document.whole, Document.size, Span.shift, Span.mk.injEq] at hpre ⊢
    omega
  have hregion : m.region d = .ok ((Document.whole ⟨block⟩).shift (Text.size pre)) := by
    simp only [region, hscope, hfind, hblock, hspan]
  rw [evaluate, hregion]
  exact congrArg Except.ok (m.any_satisfiedAt_piece hpiece)

/-- **A scoped marker sees its block only**: where the scope's anchor is found and a block closes
after it, the verdict is that of the marker without its scope on the text from the anchor to the end
of the block, and it is the same in every document that has this text for its block. -/
theorem evaluate_scoped {m : Marker} {a : Anchor} {d : Document} {o : Match} {b : Block}
    (hscope : m.scope = some a) (hfind : a.find d = some o)
    (hblock : Block.find d.text ⟨o.span.start, d.size⟩ .any = .ok b) :
    ∃ block, Text.slice? d.text o.span.start (b.closing + 1) = some block ∧
      m.evaluate d = { m with scope := none }.evaluate ⟨block⟩ ∧
      ∀ d' o' b', a.find d' = some o' →
        Block.find d'.text ⟨o'.span.start, d'.size⟩ .any = .ok b' →
        Text.slice? d'.text o'.span.start (b'.closing + 1) = some block →
        m.evaluate d' = m.evaluate d := by
  obtain ⟨block, hslice, heval⟩ := evaluate_block hscope hfind hblock
  refine ⟨block, hslice, heval, fun d' o' b' hfind' hblock' hslice' => ?_⟩
  obtain ⟨block', hslice'', heval'⟩ := evaluate_block hscope hfind' hblock'
  cases hslice'.symm.trans hslice''
  rw [heval, heval']

/-- The call that `nearInCall` looks in. -/
def callAnchor : Anchor := ⟨.literal ['f', '('], .constructorCall, .refl false⟩

/-- `id` within two lines of `near`, inside a call. -/
def nearInCall : Marker where
  identifier := ⟨.literal ['i', 'd'], .other, .refl false⟩
  context    := [⟨.literal ['n', 'e', 'a', 'r'], .other, .refl false⟩]
  window     := 2
  scope      := some callAnchor

/-- The context stands on the lines of the call, but not inside it. -/
def nearOutside : Document := ⟨"near f(id\n) near".toList⟩

/-- Without its scope the marker holds there, and with it the marker does not. -/
theorem evaluate_scoped_nearOutside :
    (callAnchor.find nearOutside).map (·.span) = some ⟨5, 7⟩ ∧
      Block.find nearOutside.text ⟨5, nearOutside.size⟩ .any = .ok ⟨6, 10⟩ ∧
      { nearInCall with scope := none }.evaluate nearOutside = .ok true ∧
      nearInCall.evaluate nearOutside = .ok false ∧
      ∃ block, Text.slice? nearOutside.text 5 11 = some block ∧
        nearInCall.evaluate nearOutside = { nearInCall with scope := none }.evaluate ⟨block⟩ ∧
        ∀ d' o' b', callAnchor.find d' = some o' →
          Block.find d'.text ⟨o'.span.start, d'.size⟩ .any = .ok b' →
          Text.slice? d'.text o'.span.start (b'.closing + 1) = some block →
          nearInCall.evaluate d' = nearInCall.evaluate nearOutside := by
  have hfind : callAnchor.find nearOutside = some (.ofLiteral ['f', '('] 5) := by cbv
  have hblock : Block.find nearOutside.text ⟨5, nearOutside.size⟩ .any = .ok ⟨6, 10⟩ := by cbv
  exact ⟨by cbv, hblock, by cbv, by cbv, evaluate_scoped rfl hfind hblock⟩

end Marker

end Graft
