import Graft.Proofs.Block
import Graft.Proofs.Pieces
import Graft.RuleFile.Issue

/-!
# Insertions

Inserted text is whole lines (`Transform.fragment_eq`).  In front of a line they are new pieces
between the old ones (`Document.insertsLines_of_pieces`).  After a last line that has no terminator,
they get theirs in front instead of at their end, so an empty line at their end only terminates the
line before it (`Document.insertsLines_of_unended`).

A rule that inserts therefore adds lines and alters none (`Rule.attempt_inserts_lines`).
-/

namespace Graft

open Text (pieces row IsLine trimEnd)

/-! ### Line terminators -/

theorem Text.dropEnding_append (ending t : Text) : Text.dropEnding ending (t ++ ending) = t := by
  rw [Text.dropEnding, if_pos (by simp [List.isSuffixOf_iff_suffix]), List.length_append,
    Nat.add_sub_cancel, List.take_left]

namespace Document

/-- What stands before the line feed in the line terminator of the document. -/
def carriage (d : Document) : Text := if Text.contains ['\r', '\n'] d.text then ['\r'] else []

theorem newline_eq (d : Document) : d.newline = d.carriage ++ ['\n'] := by
  unfold newline carriage
  split_ifs <;> rfl

/-- The piece of a line that ends in the line terminator of the document. -/
def ended (d : Document) (l : Text) : Text × Bool := (l ++ d.carriage, true)

theorem row_ended (d : Document) (l : Text) : row (d.ended l) = l ++ d.newline := by
  rw [newline_eq, ← List.append_assoc]
  rfl

theorem isLine_ended (d : Document) {l : Text} (hl : '\n' ∉ l) : IsLine (d.ended l) := by
  have hcarriage : '\n' ∉ d.carriage := by
    unfold carriage
    split_ifs <;> decide
  exact ⟨rfl, List.not_mem_append hl hcarriage⟩

@[simp] theorem trimEnd_ended (d : Document) (l : Text) :
    trimEnd '\r' (d.ended l).1 = trimEnd '\r' l := by
  unfold ended carriage
  split_ifs
  · exact Text.trimEnd_concat '\r' l
  · rw [List.append_nil]

end Document

/-! ### Lines to insert -/

theorem Text.feed_not_mem_lines {t l : Text} (h : l ∈ Text.lines t) : '\n' ∉ l := by
  obtain ⟨p, hp, rfl⟩ := List.mem_map.mp h
  have hfeed := Text.not_mem_of_mem_pieces hp
  split_ifs
  · unfold Text.dropReturn
    split_ifs
    · exact fun hmem => hfeed (List.mem_of_mem_dropLast hmem)
    · exact hfeed
  · exact hfeed

theorem Document.feed_not_mem_indentation (d : Document) (n : Nat) : '\n' ∉ d.indentation n := by
  intro hmem
  have hblank := List.mem_takeWhile_imp hmem
  simp at hblank

namespace Transform

theorem feed_not_mem_innerIndent (d : Document) (opening closing : Nat) :
    '\n' ∉ innerIndent d opening closing := by
  unfold innerIndent
  split_ifs
  · exact d.feed_not_mem_indentation _
  · exact List.not_mem_append (d.feed_not_mem_indentation _) (by decide)

/-- The lines of a text as they are inserted: those that are not blank start with `indent`. -/
def linesOf (text indent : Text) : List Text :=
  (Text.lines text).map fun l => (if Text.isBlank l then [] else indent) ++ l

theorem feed_not_mem_linesOf {text indent l : Text} (hindent : '\n' ∉ indent)
    (h : l ∈ linesOf text indent) : '\n' ∉ l := by
  obtain ⟨l', hl', rfl⟩ := List.mem_map.mp h
  have hfeed := Text.feed_not_mem_lines hl'
  split_ifs
  · exact hfeed
  · exact List.not_mem_append hindent hfeed

/-- The last line to insert is empty exactly when the last line of the text is. -/
theorem getLast?_linesOf (text indent : Text) :
    (linesOf text indent).getLast? = some [] ↔ (Text.lines text).getLast? = some [] := by
  rw [linesOf, List.getLast?_map]
  cases (Text.lines text).getLast? with
  | none => simp
  | some l =>
      -- a blank line gets no indentation, and any other is not empty to begin with
      by_cases hblank : Text.isBlank l = true
      · simp [hblank]
      · have hl : l ≠ [] := by
          rintro rfl
          exact hblank rfl
        simp [hblank, hl]

/-- **What is inserted are lines**, each with the terminator of the document. -/
theorem fragment_eq (d : Document) (text indent : Text) :
    fragment text indent d.newline = ((linesOf text indent).map d.ended).flatMap row := by
  simp only [fragment, linesOf, List.flatMap_map, Document.row_ended]

end Transform

/-! ### Documents with lines inserted -/

namespace Document

open Transform (linesOf fragment)

/-- The lines that are added in front of line `k`.  If they come after a last line that has no
terminator, an empty line at their end is the terminator of the line before it. -/
def added (d : Document) (k : Nat) (text indent : Text) : List Text :=
  let lines := linesOf text indent
  (if k = d.lineCount ∧ d.lineTerminated (k - 1) = false ∧ (Text.lines text).getLast? = some [] then
    lines.dropLast else lines).map (trimEnd '\r')

/-- `d'` is `d` with the lines of a text in front of its line `k`, or at its end. -/
structure InsertsLines (d d' : Document) (k : Nat) (text indent : Text) : Prop where
  le     : k ≤ d.lineCount
  /-- Nothing is taken away, and what is new stands where the line starts. -/
  splice : ∃ before new after, d.text = before ++ after ∧ d'.text = before ++ new ++ after ∧
    Text.size before = if k < d.lineCount then d.lineStart k else d.size
  lines  : d'.lines = d.lines.take k ++ d.added k text indent ++ d.lines.drop k

variable {d d' : Document} {text indent : Text} {pre post : List (Text × Bool)}

theorem isLine_of_mem_ended (hindent : '\n' ∉ indent) {ls : List Text}
    (hls : ls ⊆ linesOf text indent) : ∀ p ∈ ls.map d.ended, IsLine p := by
  intro p hp
  obtain ⟨l, hl, rfl⟩ := List.mem_map.mp hp
  exact d.isLine_ended (Transform.feed_not_mem_linesOf hindent (hls hl))

theorem cut_of_pieces (h : pieces d.text = pre ++ post) :
    d.text = pre.flatMap row ++ post.flatMap row := by
  rw [← List.flatMap_append, ← h, Text.flatMap_row_pieces]

/-- A line starts where the pieces before it end. -/
theorem size_flatMap_row (hne : d.text ≠ []) (h : pieces d.text = pre ++ post) :
    Text.size (pre.flatMap row) =
      if pre.length < d.lineCount then d.lineStart pre.length else d.size := by
  rw [lineCount_of_pieces hne, h]
  cases post with
  | nil => rw [if_neg (by simp), Document.size, cut_of_pieces h, List.flatMap_nil, List.append_nil]
  | cons p post =>
      rw [if_pos (by simp)]
      exact (congrArg Span.start (lineSpan_of_pieces h)).symm

theorem lineTerminated_last (hne : d.text ≠ []) (h : ∀ p ∈ pieces d.text, IsLine p) :
    d.lineTerminated (d.lineCount - 1) = true := by
  have hpieces : pieces d.text ≠ [] := fun hnil => hne (Text.pieces_eq_nil_iff.mp hnil)
  have hlast := lineTerminated_of_pieces (List.dropLast_append_getLast hpieces).symm
  rw [List.length_dropLast, ← lineCount_of_pieces hne] at hlast
  rw [hlast]
  exact (h _ (List.getLast_mem hpieces)).1

/-- Between lines, every line is added. -/
theorem added_of_pieces (hne : d.text ≠ []) (h : pieces d.text = pre ++ post)
    (hpre : ∀ p ∈ pre, IsLine p) :
    d.added pre.length text indent = (linesOf text indent).map (trimEnd '\r') := by
  refine congrArg _ (if_neg ?_)
  rintro ⟨hend, hopen, -⟩
  -- nothing follows, so the last line is one of those that end in a line feed
  have hpost : post = [] := by
    rwa [lineCount_of_pieces hne, h, List.length_append, Nat.left_eq_add,
      List.length_eq_zero_iff] at hend
  rw [hpost, List.append_nil] at h
  rw [hend, lineTerminated_last hne (h ▸ hpre)] at hopen
  cases hopen

/-- **Lines in front of a piece.** -/
theorem insertsLines_of_pieces (hne : d.text ≠ []) (hindent : '\n' ∉ indent)
    (h : pieces d.text = pre ++ post) (hpre : ∀ p ∈ pre, IsLine p)
    (hd' : d'.text = pre.flatMap row ++ fragment text indent d.newline ++ post.flatMap row) :
    d.InsertsLines d' pre.length text indent := by
  have hpieces : pieces d'.text = pre ++ (linesOf text indent).map d.ended ++ post := by
    rw [hd', Transform.fragment_eq, List.append_assoc, Text.pieces_lines hpre,
      Text.pieces_lines (isLine_of_mem_ended hindent (List.Subset.refl _)),
      Text.pieces_rest h hpre, List.append_assoc]
  have hne' : d'.text ≠ [] := by
    intro hnil
    rw [hd', List.append_eq_nil_iff, List.append_eq_nil_iff] at hnil
    exact hne (by rw [cut_of_pieces h, hnil.1.1, hnil.2, List.append_nil])
  refine ⟨?_, ⟨_, _, _, cut_of_pieces h, hd', size_flatMap_row hne h⟩, ?_⟩
  · rw [lineCount_of_pieces hne, h, List.length_append]
    exact Nat.le_add_right _ _
  · rw [added_of_pieces hne h hpre, lines_eq hne', lines_eq hne, hpieces, h]
    simp [Function.comp_def]

/-- What is inserted after a last line without a terminator: the terminator is in front. -/
theorem dropEnding_fragment (d : Document) {init : List Text} {last : Text}
    (h : linesOf text indent = init ++ [last]) :
    Text.dropEnding d.newline (d.newline ++ fragment text indent d.newline) =
      d.newline ++ (init.map d.ended).flatMap row ++ last := by
  have hfragment : d.newline ++ fragment text indent d.newline =
      (d.newline ++ (init.map d.ended).flatMap row ++ last) ++ d.newline := by
    rw [Transform.fragment_eq, h]
    simp [row_ended]
  rw [hfragment, Text.dropEnding_append]

/-- After a last line without a terminator, an empty last line is no piece of the text. -/
theorem added_of_unended {l : Text} (hindent : '\n' ∉ indent)
    (h : pieces d.text = pre ++ [(l, false)]) {init : List Text} {last : Text}
    (hinit : linesOf text indent = init ++ [last]) :
    d.added d.lineCount text indent =
      init.map (trimEnd '\r') ++ (pieces last).map fun p => trimEnd '\r' p.1 := by
  have hopen : d.lineTerminated (d.lineCount - 1) = false := by
    rw [lineCount_of_pieces (text_ne_nil_of_pieces h), h, List.length_append, List.length_singleton,
      Nat.add_sub_cancel, lineTerminated_of_pieces h]
  have hlast : (Text.lines text).getLast? = some [] ↔ last = [] := by
    rw [← Transform.getLast?_linesOf text indent, hinit, List.getLast?_concat, Option.some_inj]
  by_cases hnil : last = []
  · rw [added, if_pos ⟨rfl, hopen, hlast.mpr hnil⟩, hinit, List.dropLast_concat, hnil]
    simp [pieces]
  · have hmem : last ∈ linesOf text indent := by simp [hinit]
    rw [added, if_neg (fun hcond => hnil (hlast.mp hcond.2.2)), hinit,
      Text.pieces_of_not_mem (Transform.feed_not_mem_linesOf hindent hmem) hnil]
    simp

/-- **Lines after a last line that has no terminator.**  That line gets one, and the last of the new
lines has none. -/
theorem insertsLines_of_unended {l : Text} (hindent : '\n' ∉ indent)
    (h : pieces d.text = pre ++ [(l, false)]) (hchanged : d'.text ≠ d.text)
    (hd' : d'.text = d.text ++
      Text.dropEnding d.newline (d.newline ++ fragment text indent d.newline)) :
    d.InsertsLines d' d.lineCount text indent := by
  have hlines : linesOf text indent ≠ [] := by
    intro hnil
    have hnone : Text.dropEnding d.newline d.newline = [] := Text.dropEnding_append d.newline []
    refine hchanged ?_
    rw [hd', Transform.fragment_eq, hnil, List.map_nil, List.flatMap_nil, List.append_nil, hnone,
      List.append_nil]
  obtain ⟨init, last, hinit⟩ := (List.eq_nil_or_concat' _).resolve_left hlines
  have hne := text_ne_nil_of_pieces h
  have hne' : d'.text ≠ [] := by
    rw [hd']
    exact List.append_ne_nil_of_left_ne_nil hne _
  -- the pieces before the last line of the new text, all of which are lines now
  have hold : ∀ p ∈ pre ++ [d.ended l], IsLine p := List.forall_mem_append.mpr
    ⟨Text.isLine_of_pieces h (List.cons_ne_nil _ _),
      List.forall_mem_singleton.mpr (d.isLine_ended (feed_not_mem_of_pieces h))⟩
  have hnew : ∀ p ∈ init.map d.ended, IsLine p :=
    isLine_of_mem_ended hindent (hinit ▸ List.subset_append_left _ _)
  have hpieces : pieces d'.text = pre ++ [d.ended l] ++ (init.map d.ended ++ pieces last) := by
    rw [← Text.pieces_lines hnew, ← Text.pieces_lines hold, hd', dropEnding_fragment d hinit,
      cut_of_pieces h]
    simp [row_ended, show row (l, false) = l from rfl]
  have hall : d.lines.length = d.lineCount := by simp [Document.lines]
  refine ⟨le_rfl, ⟨d.text, _, [], (List.append_nil _).symm, hd'.trans (List.append_nil _).symm, ?_⟩,
    ?_⟩
  · rw [if_neg (lt_irrefl _), Document.size]
  · rw [added_of_unended hindent h hinit, List.take_of_length_le hall.le,
      List.drop_of_length_le hall.le, lines_eq hne', lines_eq hne, hpieces, h]
    simp [Function.comp_def]

end Document

/-! ### Insertions -/

namespace Edit

variable {d d' : Document}

/-- An insertion at a cut puts its text there. -/
theorem text_of_insertion {before after new : Text} (htext : d.text = before ++ after)
    (h : (insertion (Text.size before) new).apply d = .ok d') : d'.text = before ++ new ++ after := by
  obtain ⟨pre, old, post, hold, hstart, hstop, -, rfl⟩ := apply_eq_ok_iff.mp h
  have hnil : old = [] := Text.size_eq_zero_iff.mp (Nat.left_eq_add.mp hstop.symm)
  subst hnil
  rw [List.append_nil] at hold
  have hcut : Text.splitAt? d.text (Text.size before) = some (pre, post) :=
    Text.splitAt?_eq_some_iff.mpr ⟨hold, hstart⟩
  rw [Text.splitAt?_eq_some_iff.mpr ⟨htext, rfl⟩] at hcut
  cases hcut
  rfl

variable {text indent : Text} {n : Nat}

/-- Lines inserted where a line starts come in front of it. -/
theorem insertsLines_of_lineStart (hne : d.text ≠ []) (hindent : '\n' ∉ indent) (hn : n < d.lineCount)
    (h : (insertion (d.lineStart n) (Transform.fragment text indent d.newline)).apply d = .ok d') :
    d.InsertsLines d' n text indent := by
  obtain ⟨pre, p, post, hpieces, rfl⟩ := Document.exists_pieces hne hn
  have hstart : d.lineStart pre.length = Text.size (pre.flatMap row) :=
    congrArg Span.start (Document.lineSpan_of_pieces hpieces)
  rw [hstart] at h
  exact Document.insertsLines_of_pieces hne hindent hpieces
    (Text.isLine_of_pieces hpieces (List.cons_ne_nil _ _))
    (text_of_insertion (Document.cut_of_pieces hpieces) h)

/-- Lines inserted after a line come in front of the next one, or at the end. -/
theorem insertsLines_of_afterLine (hne : d.text ≠ []) (hindent : '\n' ∉ indent) (hn : n < d.lineCount)
    (hchanged : d'.text ≠ d.text)
    (h : (Transform.afterLine d n (Transform.fragment text indent d.newline)).apply d = .ok d') :
    d.InsertsLines d' (n + 1) text indent := by
  obtain ⟨pre, p, post, hpieces, rfl⟩ := Document.exists_pieces hne hn
  have hnext : pieces d.text = (pre ++ [p]) ++ post := by rw [hpieces, List.append_assoc]; rfl
  have hcut := Document.cut_of_pieces hnext
  have hstop : (d.lineSpan pre.length).stop = Text.size ((pre ++ [p]).flatMap row) := by
    rw [Document.lineSpan_of_pieces hpieces]
    simp
  rw [Transform.afterLine, hstop, Document.lineTerminated_of_pieces hpieces] at h
  cases hended : p.2 with
  | true =>
      have hp : IsLine p := ⟨hended, Document.feed_not_mem_of_pieces hpieces⟩
      have hlines : ∀ q ∈ pre ++ [p], IsLine q := List.forall_mem_append.mpr
        ⟨Text.isLine_of_pieces hpieces (List.cons_ne_nil _ _), List.forall_mem_singleton.mpr hp⟩
      rw [hended, if_pos rfl] at h
      have hinserted :=
        Document.insertsLines_of_pieces hne hindent hnext hlines (text_of_insertion hcut h)
      rwa [List.length_append] at hinserted
  | false =>
      -- only the last piece has no line feed
      have hpost : post = [] := by
        by_contra hpost
        cases hended.symm.trans (Text.isLine_of_cons hpieces hpost).1
      subst hpost
      have hlast : p = (p.1, false) := Prod.ext rfl hended
      rw [hended, if_neg Bool.false_ne_true] at h
      have hd' := text_of_insertion hcut h
      rw [List.flatMap_nil, List.append_nil] at hcut hd'
      rw [← hcut] at hd'
      rw [hlast] at hpieces
      have hinserted := Document.insertsLines_of_unended hindent hpieces hchanged hd'
      rwa [Document.lineCount_of_pieces hne, hpieces, List.length_append] at hinserted

end Edit

/-! ### Where a transform inserts -/

namespace Anchor

theorem of_literal {needle : Text} {role : Role} {a : Anchor} (h : literal needle role = .ok a) :
    needle ≠ [] ∧ a.pattern = .literal needle := by
  unfold literal ofPattern at h
  split_ifs at h with hempty
  cases h
  exact ⟨by simpa [Pattern.matchesEmpty] using hempty, rfl⟩

/-- An anchor is a literal with a character, or an expression that does not match the empty text. -/
theorem pattern_cases (a : Anchor) : (∃ needle, needle ≠ [] ∧ a.pattern = .literal needle) ∨
    ∃ r, r.isMatch [] = false ∧ a.pattern = .regex r := by
  obtain ⟨pattern, role, hproper⟩ := a
  cases pattern with
  | literal needle => exact .inl ⟨needle, by simpa [Pattern.matchesEmpty] using hproper, rfl⟩
  | regex r => exact .inr ⟨r, hproper, rfl⟩

theorem not_occursIn_nil (a : Anchor) : a.pattern.occursIn [] = false := by
  rcases a.pattern_cases with ⟨needle, hne, hpattern⟩ | ⟨r, hr, hpattern⟩
  · simp [hpattern, Pattern.occursIn, Text.contains, Text.indexOf?, hne]
  · rw [hpattern]
    exact hr

/-- An anchor stands in no empty document. -/
theorem text_ne_nil_of_find {a : Anchor} {d : Document} {m : Match} (h : a.find d = some m) :
    d.text ≠ [] := by
  intro hnil
  have hsome := a.isSome_findIn d d.whole
  rw [← Anchor.find, h, d.clip_whole, hnil] at hsome
  simp [a.not_occursIn_nil] at hsome

end Anchor

namespace Transform

/-- The line in front of which a transform inserts lines at a match, and the indentation that it
chooses for them. -/
def Site (d : Document) (m : Match) (window : Span) (k : Nat) (indent : Text) : Transform → Prop
  | .replace _ | .replaceCapture _ _ => False
  | .insertBefore _ =>
      k = d.lineIndex m.span.start ∧ indent = d.indentation (d.lineIndex m.span.start)
  | .insertAfter _ =>
      k = d.lineIndex (if m.span.start < m.span.stop then m.span.stop - 1 else m.span.start) + 1 ∧
        indent = d.indentation (d.lineIndex m.span.start)
  | .insertAfterBlock _ kind => ∃ b, Block.find d.text ⟨m.span.start, window.stop⟩ kind = .ok b ∧
      k = d.lineIndex b.closing + 1 ∧ indent = d.indentation (d.lineIndex m.span.start)
  | .insertIntoBlock _ kind => ∃ b, Block.find d.text ⟨m.span.start, window.stop⟩ kind = .ok b ∧
      k = d.lineIndex b.closing ∧ d.lineIndex b.opening < k ∧
      indent = innerIndent d (d.lineIndex b.opening) k

/-- The edit inserts lines in front of line `k`. -/
def Inserts (d : Document) (k : Nat) (lines : Text) (e : Edit) : Prop :=
  (k < d.lineCount ∧ e = .insertion (d.lineStart k) lines) ∨
    ∃ n, n < d.lineCount ∧ k = n + 1 ∧ e = afterLine d n lines

theorem bind_balancedFragment {text indent newline : Text} {f : Text → Except Miss Edit} {e : Edit}
    (h : (balancedFragment text indent newline >>= f) = .ok e) :
    f (fragment text indent newline) = .ok e := by
  unfold balancedFragment at h
  split_ifs at h
  · exact h
  · cases h

theorem bind_findBlock {d : Document} {range : Span} {kind : BlockKind} {f : Block → Except Miss Edit}
    {e : Edit} (h : (findBlock d range kind >>= f) = .ok e) :
    ∃ b, Block.find d.text range kind = .ok b ∧ f b = .ok e := by
  unfold findBlock at h
  cases hfind : Block.find d.text range kind with
  | error why => rw [hfind] at h; cases h
  | ok b => rw [hfind] at h; exact ⟨b, rfl, h⟩

/-- **What a transform that inserts plans.** -/
theorem plan_inserts {d : Document} {m : Match} {window : Span} {matchIndent : Bool} {t : Transform}
    {e : Edit} (hinserts : t.insertsLines = true) (h : t.plan d m window matchIndent = .ok e) :
    ∃ k indent, t.Site d m window k indent ∧ '\n' ∉ indent ∧
      Inserts d k (fragment t.text (if matchIndent then indent else []) d.newline) e := by
  have hindent := d.feed_not_mem_indentation (d.lineIndex m.span.start)
  cases t with
  | replace text | replaceCapture name text => cases hinserts
  | insertBefore text =>
      cases bind_balancedFragment h
      exact ⟨_, _, ⟨rfl, rfl⟩, hindent, .inl ⟨d.lineIndex_lt _, rfl⟩⟩
  | insertAfter text =>
      cases bind_balancedFragment h
      have hlast : (if m.span.start < m.span.stop then m.span.stop - 1 else m.span.start) =
          max (m.span.stop - 1) m.span.start := by
        split_ifs <;> omega
      exact ⟨_, _, ⟨rfl, rfl⟩, hindent, .inr ⟨_, d.lineIndex_lt _, rfl, by rw [hlast]; rfl⟩⟩
  | insertAfterBlock text kind =>
      obtain ⟨b, hfind, h⟩ := bind_findBlock h
      cases bind_balancedFragment h
      exact ⟨_, _, ⟨b, hfind, rfl, rfl⟩, hindent, .inr ⟨_, d.lineIndex_lt _, rfl, rfl⟩⟩
  | insertIntoBlock text kind =>
      obtain ⟨b, hfind, h⟩ := bind_findBlock h
      -- the block opens before it closes: on an earlier line, unless on the same one
      have hle := d.lineIndex_mono (Block.opening_lt_closing hfind).le
      by_cases hsame : d.lineIndex b.opening = d.lineIndex b.closing
      · simp only [hsame, if_true] at h
        cases h
      · simp only [hsame, if_false] at h
        cases bind_balancedFragment h
        exact ⟨_, _, ⟨b, hfind, rfl, lt_of_le_of_ne hle hsame, rfl⟩, feed_not_mem_innerIndent d _ _,
          .inl ⟨d.lineIndex_lt _, rfl⟩⟩

end Transform

/-- **Insertions add whole lines and alter none.**  An attempt that inserts finds its anchor and a line
`k` (`Transform.Site`): that of the match, the one after the match, the one after the block, or the
one where a block of several lines closes.  The new document has one more text, where line `k` starts
or at the end, and its lines are the old ones with those of the rule in front of line `k`
(`Document.InsertsLines`). -/
theorem Rule.attempt_inserts_lines {r : Rule} {d d' : Document}
    (hinserts : r.transform.insertsLines = true) (h : r.attempt d = .ok d') :
    ∃ m k indent, r.anchor.find d = some m ∧
      r.transform.Site d m (d.contextWindow m.span r.contextLines) k indent ∧
      d.InsertsLines d' k r.transform.text (if r.matchIndent then indent else []) := by
  obtain ⟨m, e, hfind, hplan, hnoop, happly, -⟩ := Rule.attempt_eq_ok h
  obtain ⟨k, indent, hsite, hindent, hplanned⟩ := Transform.plan_inserts hinserts hplan
  have hne := Anchor.text_ne_nil_of_find hfind
  have hchosen : '\n' ∉ if r.matchIndent then indent else [] := by
    split_ifs
    · exact hindent
    · exact List.not_mem_nil
  refine ⟨m, k, indent, hfind, hsite, ?_⟩
  rcases hplanned with ⟨hk, rfl⟩ | ⟨n, hn, rfl, rfl⟩
  · exact Edit.insertsLines_of_lineStart hne hchosen hk happly
  · -- an edit that changes nothing is refused, so there are lines to insert
    exact Edit.insertsLines_of_afterLine hne hchosen hn (Edit.text_ne_of_apply hnoop happly) happly

/-- A document whose last line has no terminator. -/
def unended : Document := ⟨"a\r\n  b".toList⟩

/-- Lines after `b`, the last of them empty. -/
def appending : Rule where
  id           := "append"
  anchor       := ⟨.literal ['b'], .other, .refl false⟩
  contextLines := 0
  matchIndent  := true
  transform    := .insertAfter "c\n\n".toList

/-- The empty line ends the line before it, and all lines end alike. -/
theorem Rule.attempt_inserts_lines_unended :
    appending.attempt unended = .ok ⟨"a\r\n  b\r\n  c\r\n".toList⟩ ∧
      unended.added 2 appending.transform.text [' ', ' '] = [[' ', ' ', 'c']] ∧
      unended.InsertsLines ⟨"a\r\n  b\r\n  c\r\n".toList⟩ 2 appending.transform.text [' ', ' '] := by
  have hattempt : appending.attempt unended = .ok ⟨"a\r\n  b\r\n  c\r\n".toList⟩ := by cbv
  have hfound : appending.anchor.find unended = some (.ofLiteral ['b'] 5) := by cbv
  obtain ⟨m, k, indent, hfind, ⟨hk, hindent⟩, hinserts⟩ :=
    Rule.attempt_inserts_lines rfl hattempt
  rw [hfound] at hfind
  cases hfind
  have hsecond : k = 2 := hk.trans (by cbv)
  have hblanks : indent = [' ', ' '] := hindent.trans (by cbv)
  rw [hsecond, hblanks] at hinserts
  exact ⟨hattempt, by cbv, hinserts⟩

end Graft
