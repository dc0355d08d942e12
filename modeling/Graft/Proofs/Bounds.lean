import Graft.Proofs.Insertion
import Graft.Proofs.Scan

/-!
# Attempts stay inside the document

Offsets come from searches, from groups of a match, from line starts and from scans for delimiters.
All of them are places between two characters of the document, so whatever an attempt reads is there
(`Rule.Reads`), and the edit that it plans finds at its span what it expects (`Edit.Fits`).

* `Transform.plan_planned`: what a transform plans fits the document.
* `Rule.attempt_fits`: so an attempt is never refused for its own edit, and lines that are inserted
  always change the document.
-/

namespace Graft

/-! ### Spans -/

namespace Text

theorem exists_of_indexOf? {needle t : Text} {i : Nat} (h : indexOf? needle t = some i) :
    ∃ u v, t = u ++ needle ++ v ∧ size u = i := by
  induction t generalizing i with
  | nil =>
      rw [indexOf?] at h
      split at h
      · next hempty =>
          cases h
          exact ⟨[], [], by simpa using hempty, rfl⟩
      · cases h
  | cons c t ih =>
      rw [indexOf?] at h
      split at h
      · next hhere =>
          cases h
          obtain ⟨v, hv⟩ := List.isPrefixOf_iff_prefix.mp hhere
          exact ⟨[], v, hv.symm, rfl⟩
      · obtain ⟨j, hj, rfl⟩ := Option.map_eq_some_iff.mp h
        obtain ⟨u, v, rfl, rfl⟩ := ih hj
        exact ⟨c :: u, v, rfl, by rw [size, Nat.add_comm]⟩

theorem trimEnd_prefix (c : Char) (t : Text) : trimEnd c t <+: t := List.rdropWhile_prefix _ t

end Text

/-- A delimiter is one byte. -/
theorem Bracket.utf8Size_of_ofChar? {c : Char} (h : ofChar? c ≠ none) : c.utf8Size = 1 := by
  obtain ⟨b, hb⟩ := Option.ne_none_iff_exists'.mp h
  rw [← char_of_ofChar? hb]
  rcases b with (_ | _ | _) | (_ | _ | _) <;> rfl

namespace Document

variable {d : Document} {s : Span} {x : Text}

theorem spanText_eq_ok_iff_slice? :
    d.spanText s = .ok x ↔ Text.slice? d.text s.start s.stop = some x := by
  rw [spanText_eq_ok_iff, Text.slice?_eq_some_iff]

theorem textAt_of_spanText (h : d.spanText s = .ok x) : d.textAt s = x := by
  rw [textAt, spanText_eq_ok_iff_slice?.mp h]
  rfl

/-- A span that a search has recorded is one of the document's. -/
theorem exists_spanText (h : s.Recorded (fun n => Text.isBoundary d.text n = true) d.size) :
    ∃ x, d.spanText s = .ok x := by
  obtain ⟨x, hx⟩ := Text.slice?_of_isBoundary h.start_mem h.stop_mem h.ordered
  exact ⟨x, spanText_eq_ok_iff_slice?.mpr hx⟩

theorem isBoundary_of_spanText (h : d.spanText s = .ok x) :
    Text.isBoundary d.text s.start = true ∧ Text.isBoundary d.text s.stop = true := by
  obtain ⟨pre, post, htext, hstart, hstop⟩ := spanText_eq_ok_iff.mp h
  refine ⟨Text.isBoundary_iff.mpr ⟨pre, x ++ post, by rw [htext, List.append_assoc], hstart⟩,
    Text.isBoundary_iff.mpr ⟨pre ++ x, post, htext, ?_⟩⟩
  rw [Text.size_append, hstart, hstop]

/-- Nothing stands at an offset between two characters. -/
theorem spanText_of_isBoundary {offset : Nat} (h : Text.isBoundary d.text offset = true) :
    d.spanText ⟨offset, offset⟩ = .ok [] := by
  obtain ⟨pre, post, htext, hpre⟩ := Text.isBoundary_iff.mp h
  exact spanText_eq_ok_iff.mpr ⟨pre, post, by rw [htext, List.append_nil], hpre, rfl⟩

theorem lineSpan_min (d : Document) (n : Nat) : d.lineSpan n = d.lineSpan (min n (d.lineCount - 1)) := by
  simp [lineSpan, lineStart]

/-- **Every line is a span of the document.** -/
theorem exists_line (d : Document) (n : Nat) : ∃ x, d.spanText (d.lineSpan n) = .ok x := by
  by_cases hne : d.text = []
  · have hspan : d.lineSpan n = ⟨0, 0⟩ := by
      simp [lineSpan, lineStart, lineCount, lineStarts, startsAfter, Document.size, hne, Text.size]
    rw [hspan]
    exact ⟨[], spanText_of_isBoundary (Text.isBoundary_iff.mpr ⟨[], d.text, rfl, rfl⟩)⟩
  · have hcount : min n (d.lineCount - 1) < d.lineCount := by
      have := d.lineIndex_lt 0
      omega
    obtain ⟨pre, p, post, hpieces, hn⟩ := exists_pieces hne hcount
    rw [lineSpan_min, ← hn, lineSpan_of_pieces hpieces]
    exact ⟨_, spanText_eq_ok_iff.mpr ⟨_, _, text_of_pieces hpieces, rfl, rfl⟩⟩

theorem isBoundary_line (d : Document) (n : Nat) :
    Text.isBoundary d.text (d.lineStart n) = true ∧
      Text.isBoundary d.text (d.lineSpan n).stop = true := by
  obtain ⟨x, hx⟩ := d.exists_line n
  exact isBoundary_of_spanText hx

theorem newline_ne_nil (d : Document) : d.newline ≠ [] := by
  rw [d.newline_eq]
  exact List.append_ne_nil_of_right_ne_nil _ (List.cons_ne_nil _ _)

/-- The span of the blanks that a line starts with. -/
def indentSpan (d : Document) (n : Nat) : Span :=
  ⟨d.lineStart n, d.lineStart n + Text.size (d.indentation n)⟩

theorem spanText_indentSpan (d : Document) (n : Nat) :
    d.spanText (d.indentSpan n) = .ok (d.indentation n) := by
  obtain ⟨x, hx⟩ := d.exists_line n
  obtain ⟨pre, post, htext, hstart, -⟩ := spanText_eq_ok_iff.mp hx
  have hprefix : d.indentation n <+: x := by
    rw [indentation, line, textAt_of_spanText hx]
    exact (List.takeWhile_prefix _).trans ((Text.trimEnd_prefix _ _).trans (Text.trimEnd_prefix _ _))
  obtain ⟨rest, rfl⟩ := hprefix
  exact spanText_eq_ok_iff.mpr ⟨pre, rest ++ post, by simp [htext], hstart, rfl⟩

end Document

/-! ### Matches -/

namespace Anchor

variable {a : Anchor} {d : Document} {m : Match}

/-- **A match is a piece of the document**: of a literal the literal itself, of an expression the
groups that a search has recorded. -/
theorem find_cases (h : a.find d = some m) :
    (∃ u needle v, d.text = u ++ needle ++ v ∧ m = .ofLiteral needle (Text.size u)) ∨
      ∃ r g, r.find? d.text = some g ∧ m = .ofGroups r 0 d.text g := by
  unfold find findIn Pattern.findIn at h
  rw [d.clip_whole, Option.bind_eq_bind, Option.bind_some] at h
  cases hpattern : a.pattern with
  | literal needle =>
      rw [hpattern] at h
      obtain ⟨i, hi, hm⟩ := Option.bind_eq_some_iff.mp h
      obtain ⟨u, v, htext, rfl⟩ := Text.exists_of_indexOf? hi
      cases hm
      exact .inl ⟨u, needle, v, htext, rfl⟩
  | regex r =>
      rw [hpattern] at h
      obtain ⟨g, hg, hm⟩ := Option.bind_eq_some_iff.mp h
      cases hm
      exact .inr ⟨r, g, hg, rfl⟩

theorem spanText_of_find (h : a.find d = some m) : d.spanText m.span = .ok m.text := by
  rcases find_cases h with ⟨u, needle, v, htext, rfl⟩ | ⟨r, g, hg, rfl⟩
  · exact Document.spanText_eq_ok_iff.mpr ⟨u, v, htext, rfl, rfl⟩
  · obtain ⟨x, hx⟩ := Document.exists_spanText (Regex.find?_recorded hg).whole
    have htext := Document.textAt_of_spanText hx
    exact hx.trans (congrArg Except.ok htext.symm)

/-- So is each of its groups. -/
theorem exists_group_of_find (h : a.find d = some m) {s : Span} (hs : some s ∈ m.groups) :
    ∃ x, d.spanText s = .ok x := by
  have hwhole := spanText_of_find h
  rcases find_cases h with ⟨u, needle, v, htext, rfl⟩ | ⟨r, g, hg, rfl⟩
  · cases List.mem_singleton.mp hs
    exact ⟨_, hwhole⟩
  · obtain ⟨i, -, hi⟩ := List.mem_map.mp hs
    obtain ⟨s', hs', rfl⟩ := Option.map_eq_some_iff.mp hi
    exact Document.exists_spanText ((Regex.find?_recorded hg).get? hs')

end Anchor

namespace Match

theorem mem_groups_of_captureSpan {m : Match} {name : String} {s : Span}
    (h : m.captureSpan name = some s) : some s ∈ m.groups := by
  have hgroup : ∀ {i : Nat}, m.groups[i]?.join = some s → some s ∈ m.groups := fun hi =>
    List.mem_of_getElem? (Option.join_eq_some_iff.mp hi)
  unfold captureSpan at h
  split at h
  · exact hgroup h
  · obtain ⟨i, -, hi⟩ := Option.bind_eq_some_iff.mp h
    exact hgroup hi

end Match

/-- What a search for a block reports are characters of the document. -/
theorem Block.exists_spanText {d : Document} {range : Span} {kind : BlockKind} {p : Nat}
    (hp : p ∈ offsets (find d.text range kind)) : ∃ c, d.spanText ⟨p, p + 1⟩ = .ok [c] := by
  obtain ⟨c, hmem, hc⟩ := holds_of_find hp
  obtain ⟨pre, u, v, htext, hpre, rfl⟩ := Code.exists_of_mem_scan hmem
  refine ⟨c, Document.spanText_eq_ok_iff.mpr ⟨pre ++ u, v, by simp [htext], ?_, ?_⟩⟩
  · rw [Text.size_append, hpre]
  · simp [Text.size, Bracket.utf8Size_of_ofChar? hc]

/-! ### Edits -/

theorem Verification.accepts_ofText (t : Text) : (ofText t).accepts t = true := by
  unfold ofText
  split_ifs <;> simp [accepts]

namespace Edit

variable {d : Document}

/-- What stands at the span of the edit is what the edit expects. -/
def Fits (e : Edit) (d : Document) : Prop :=
  ∃ x, d.spanText e.span = .ok x ∧ e.expected.accepts x = true

theorem fits_replacing {s : Span} {x : Text} (h : d.spanText s = .ok x) (new : Text) :
    (replacing s new x).Fits d :=
  ⟨x, h, Verification.accepts_ofText x⟩

theorem fits_insertion {offset : Nat} (h : Text.isBoundary d.text offset = true) (new : Text) :
    (insertion offset new).Fits d :=
  fits_replacing (Document.spanText_of_isBoundary h) new

theorem Fits.apply {e : Edit} (h : e.Fits d) : ∃ d', e.apply d = .ok d' := by
  obtain ⟨x, hspan, haccepts⟩ := h
  exact ⟨d.splice e.span e.new, by simp [Edit.apply, hspan, haccepts]⟩

/-- An insertion does nothing only if there is nothing to insert. -/
theorem isNoop_insertion {offset : Nat} (h : Text.isBoundary d.text offset = true) (new : Text) :
    (insertion offset new).isNoop d = true ↔ new = [] := by
  have hspan : d.spanText (insertion offset new).span = .ok [] := Document.spanText_of_isBoundary h
  rw [isNoop_iff, hspan, Except.ok.injEq, eq_comm]
  rfl

end Edit

/-! ### Plans -/

/-- Whether it is the edit that a miss blames, which then has been planned. -/
def Miss.blamesEdit : Miss → Bool
  | .noChange | .edit _ => true
  | _                   => false

namespace Transform

variable {d : Document}

theorem fits_afterLine (d : Document) (n : Nat) (lines : Text) : (afterLine d n lines).Fits d := by
  have hstop := (d.isBoundary_line n).2
  unfold afterLine
  split_ifs
  · exact Edit.fits_insertion hstop _
  · exact Edit.fits_insertion hstop _

/-- An edit that fits, or a miss that is about no edit. -/
def Planned (d : Document) : Except Miss Edit → Prop
  | .ok e      => e.Fits d
  | .error why => why.blamesEdit = false

theorem planned_balancedFragment {text indent newline : Text} {f : Text → Except Miss Edit}
    (h : Planned d (f (fragment text indent newline))) :
    Planned d (balancedFragment text indent newline >>= f) := by
  unfold balancedFragment
  split_ifs
  · exact h
  · rfl

theorem planned_findBlock {range : Span} {kind : BlockKind} {f : Block → Except Miss Edit}
    (h : ∀ b, Planned d (f b)) : Planned d (findBlock d range kind >>= f) := by
  unfold findBlock
  rcases Block.find d.text range kind with (_ | _ | _) | b
  · rfl
  · rfl
  · rfl
  · exact h b

theorem planned_substitute {s : Span} {x : Text} (h : d.spanText s = .ok x) (old new : Text) :
    Planned d (substitute d s old new) := by
  unfold substitute
  split_ifs
  · rw [Edit.replaceIn, h]
    exact Edit.fits_replacing h new
  · rfl

/-- **What a transform plans fits the document.** -/
theorem plan_planned {a : Anchor} {m : Match} (h : a.find d = some m) (window : Span)
    (matchIndent : Bool) (t : Transform) : Planned d (t.plan d m window matchIndent) := by
  cases t with
  | replace text => exact planned_substitute (Anchor.spanText_of_find h) _ _
  | replaceCapture capture text =>
      rw [plan]
      cases hspan : m.captureSpan capture with
      | none => rfl
      | some s =>
          obtain ⟨x, hx⟩ := Anchor.exists_group_of_find h (Match.mem_groups_of_captureSpan hspan)
          exact planned_substitute hx _ _
  | insertBefore text =>
      exact planned_balancedFragment (Edit.fits_insertion (d.isBoundary_line _).1 _)
  | insertAfter text => exact planned_balancedFragment (fits_afterLine d _ _)
  | insertAfterBlock text kind =>
      exact planned_findBlock fun b => planned_balancedFragment (fits_afterLine d _ _)
  | insertIntoBlock text kind =>
      refine planned_findBlock fun b => ?_
      by_cases hsame : d.lineIndex b.opening = d.lineIndex b.closing
      · simp only [hsame, if_true]
        rfl
      · simp only [hsame, if_false]
        exact planned_balancedFragment (Edit.fits_insertion (d.isBoundary_line _).1 _)

/-! ### Lines that are inserted -/

theorem linesOf_ne_nil {text : Text} (h : Text.isBlank text = false) (indent : Text) :
    linesOf text indent ≠ [] := by
  intro hnil
  have hpieces : Text.pieces text = [] := List.map_eq_nil_iff.mp (List.map_eq_nil_iff.mp hnil)
  rw [Text.pieces_eq_nil_iff.mp hpieces] at h
  cases h

/-- Text that is not blank has a line, and a line is not empty once it is terminated. -/
theorem fragment_ne_nil {text : Text} (h : Text.isBlank text = false) (indent : Text) :
    fragment text indent d.newline ≠ [] := by
  obtain ⟨l, ls, hlines⟩ := List.exists_cons_of_ne_nil (linesOf_ne_nil h indent)
  rw [fragment_eq, hlines, List.map_cons, List.flatMap_cons, d.row_ended]
  exact List.append_ne_nil_of_left_ne_nil
    (List.append_ne_nil_of_right_ne_nil _ (d.newline_ne_nil)) _

/-- **Lines that are inserted change the document.**  After a last line without a terminator it is
the new terminator that remains in any case. -/
theorem Inserts.isNoop_eq_false {text indent : Text} {k : Nat} {e : Edit}
    (h : Inserts d k (fragment text indent d.newline) e) (htext : Text.isBlank text = false) :
    e.isNoop d = false := by
  rw [← Bool.not_eq_true]
  rcases h with ⟨-, rfl⟩ | ⟨n, -, -, rfl⟩
  · rw [Edit.isNoop_insertion (d.isBoundary_line k).1]
    exact fragment_ne_nil htext indent
  · have hstop := (d.isBoundary_line n).2
    unfold afterLine
    split_ifs
    · rw [Edit.isNoop_insertion hstop]
      exact fragment_ne_nil htext indent
    · obtain ⟨init, last, hinit⟩ :=
        (List.eq_nil_or_concat' _).resolve_left (linesOf_ne_nil htext indent)
      rw [Edit.isNoop_insertion hstop, d.dropEnding_fragment hinit, List.append_assoc]
      exact List.append_ne_nil_of_left_ne_nil (d.newline_ne_nil) _

end Transform

/-! ### Attempts -/

namespace Rule

/-- **Why an attempt fails**: its anchor is nowhere, its transform plans nothing, or the planned edit
changes nothing, is refused, or changes the balance. -/
theorem attempt_eq_error {r : Rule} {d : Document} {why : Miss} (h : r.attempt d = .error why) :
    why = .noAnchor ∨ ∃ m, r.anchor.find d = some m ∧
      (r.plan d m = .error why ∨ ∃ e, r.plan d m = .ok e ∧
        (why = .noChange ∧ e.isNoop d = true ∨
          (∃ refusal, why = .edit refusal ∧ e.apply d = .error refusal) ∨ why = .unbalanced)) := by
  unfold attempt at h
  cases hfind : r.anchor.find d with
  | none =>
      rw [hfind] at h
      cases h
      exact .inl rfl
  | some m =>
      refine .inr ⟨m, rfl, ?_⟩
      cases hplan : r.plan d m with
      | error miss =>
          simp only [hfind, hplan, Except.bind] at h
          cases h
          exact .inl rfl
      | ok e =>
          refine .inr ⟨e, rfl, ?_⟩
          simp only [hfind, hplan, Except.bind, commit] at h
          split_ifs at h with hnoop
          · cases h
            exact .inl ⟨rfl, hnoop⟩
          · cases happly : e.apply d with
            | error refusal =>
                rw [happly] at h
                cases h
                exact .inr (.inl ⟨refusal, rfl, rfl⟩)
            | ok d' =>
                simp only [happly] at h
                split_ifs at h
                cases h
                exact .inr (.inr rfl)

/-- What an attempt reads after a match: all of it stands in the document, between two characters. -/
structure Reads (r : Rule) (d : Document) (m : Match) : Prop where
  whole   : d.spanText m.span = .ok m.text
  capture : ∀ name s, m.captureSpan name = some s →
    ∃ x, d.spanText s = .ok x ∧ m.capture d.text name = some x
  line    : ∀ n, ∃ x, d.spanText (d.lineSpan n) = .ok x
  indent  : ∀ n, d.spanText (d.indentSpan n) = .ok (d.indentation n)
  /-- Where a block opens and closes, or fails to, there is one delimiter. -/
  block   : ∀ stop kind, ∀ p ∈ Block.offsets (Block.find d.text ⟨m.span.start, stop⟩ kind),
    ∃ c, d.spanText ⟨p, p + 1⟩ = .ok [c]
  edit    : ∀ e, r.plan d m = .ok e → e.Fits d

variable {d : Document} {m : Match}

theorem planned {r : Rule} (h : r.anchor.find d = some m) : Transform.Planned d (r.plan d m) :=
  Transform.plan_planned h _ _ _

theorem reads {r : Rule} (h : r.anchor.find d = some m) : r.Reads d m where
  whole := Anchor.spanText_of_find h
  capture := by
    intro name s hs
    obtain ⟨x, hx⟩ := Anchor.exists_group_of_find h (Match.mem_groups_of_captureSpan hs)
    refine ⟨x, hx, ?_⟩
    rw [Match.capture, hs, Option.bind_some, Document.spanText_eq_ok_iff_slice?.mp hx]
  line := d.exists_line
  indent := d.spanText_indentSpan
  block := fun _ _ _ hp => Block.exists_spanText hp
  edit := by
    intro e he
    have hplanned := planned h
    rwa [he] at hplanned

/-- If an attempt blames its edit, then because the edit changes nothing. -/
theorem attempt_miss {r : Rule} {why : Miss} (h : r.attempt d = .error why)
    (hblames : why.blamesEdit = true) :
    why = .noChange ∧ ∃ m e, r.plan d m = .ok e ∧ e.isNoop d = true := by
  rcases attempt_eq_error h with rfl | ⟨m, hfind, hplan | ⟨e, hplan, hcommit⟩⟩
  · cases hblames
  · have hplanned := planned hfind
    rw [hplan] at hplanned
    cases hblames.symm.trans hplanned
  · rcases hcommit with ⟨rfl, hnoop⟩ | ⟨refusal, -, hrefused⟩ | rfl
    · exact ⟨rfl, m, e, hplan, hnoop⟩
    · -- the edit fits, so it is not refused
      obtain ⟨d', happly⟩ := ((reads hfind).edit e hplan).apply
      rw [happly] at hrefused
      cases hrefused
    · cases hblames

/-- **An attempt never fails on its own edit.**  No attempt is refused for the span of its edit or for
the text there, be it compared whole or by its digest.  All that is read after a match stands in the
document (`Reads`).  And an attempt to insert text that is not blank always changes something. -/
theorem attempt_fits (r : Rule) (d : Document) :
    (∀ why, r.attempt d ≠ .error (.edit why)) ∧
      (∀ m, r.anchor.find d = some m → r.Reads d m) ∧
      (r.transform.insertsLines = true → Text.isBlank r.transform.text = false →
        r.attempt d ≠ .error .noChange) := by
  refine ⟨fun why h => ?_, fun m => reads, fun hinserts htext h => ?_⟩
  · cases (attempt_miss h rfl).1
  · obtain ⟨-, m, e, hplan, hnoop⟩ := attempt_miss h rfl
    obtain ⟨k, indent, -, -, hlines⟩ := Transform.plan_inserts hinserts hplan
    rw [hlines.isNoop_eq_false htext] at hnoop
    cases hnoop

end Rule

/-- A call over three lines, with letters of two bytes. -/
def accented : Document := ⟨"é(\n ß\n)".toList⟩

/-- A line at the end of the block after `é`, which is group 1 of the anchor. -/
def blockInserting : Rule where
  id           := "insert"
  anchor       := ⟨.regex ⟨"(é)".toList, .group 1 none (.chars (.single 'é'))⟩, .other, .refl false⟩
  contextLines := 2
  matchIndent  := true
  transform    := .insertIntoBlock ['ü'] .any

/-- The group is read whole, the block is found behind it, and the line goes in. -/
theorem Rule.attempt_fits_accented :
    blockInserting.attempt accented = .ok ⟨"é(\n ß\n ü\n)".toList⟩ ∧
      blockInserting.attempt accented ≠ .error .noChange ∧
      ∃ m, blockInserting.anchor.find accented = some m ∧ blockInserting.Reads accented m ∧
        m.capture accented.text "1" = some ['é'] ∧
        Block.find accented.text ⟨m.span.start, 9⟩ .any = .ok ⟨2, 8⟩ := by
  obtain ⟨-, hreads, hchanges⟩ := attempt_fits blockInserting accented
  have hfind : blockInserting.anchor.find accented =
      some ⟨⟨0, 2⟩, ['é'], [some ⟨0, 2⟩, some ⟨0, 2⟩], []⟩ := by cbv
  exact ⟨by cbv, hchanges rfl (by decide), _, hfind, hreads _ hfind, by cbv, by cbv⟩

end Graft
