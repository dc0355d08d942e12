import Graft.Proofs.Bounds

/-!
# Empty matches

An expression matches at a place without taking a character if the conditions in it allow that
(`Regex.Node.nullable`), and only there can a match be empty.  An anchor is refused if its expression
does so in the empty text, where all conditions hold but those on the edges of words
(`Regex.Look.holds_nowhere`).

* `Anchor.empty_match_at_word_edge`: so a match of an anchor takes a character, or stands at the edge
  of a word where a condition of its expression asks for one.  For patterns without such conditions,
  being accepted as an anchor and never matching emptily are the same.
* `Anchor.boundary_matches_emptily`: the edge of a word is an anchor that is accepted, and its matches
  are empty.
-/

namespace Graft

namespace Regex

/-! ### Conditions -/

namespace Look

/-- Whether a condition asks for a word on exactly one side. -/
def isWordEdge : Look → Bool
  | .wordBoundary _ | .wordStart _ | .wordEnd _ => true
  | _                                           => false

/-- In the empty text all conditions hold but those on the edges of words. -/
theorem holds_nowhere (l : Look) : l.holds none none = !l.isWordEdge := by
  cases l with
  | lineStart crlf | lineEnd crlf => cases crlf <;> rfl
  | _ => rfl

theorem isWord_ne_of_holds {l : Look} {before after : Option Char} (hedge : l.isWordEdge = true)
    (h : l.holds before after = true) : ∃ ascii, isWord ascii before ≠ isWord ascii after := by
  cases l with
  | wordBoundary ascii => exact ⟨ascii, by simpa [holds] using h⟩
  | wordStart ascii | wordEnd ascii =>
      rw [holds, Bool.and_eq_true, Bool.not_eq_true'] at h
      exact ⟨ascii, by simp [h.1, h.2]⟩
  | _ => cases hedge

end Look

namespace Node

/-- Whether an expression matches without taking a character, where `holds` tells which conditions
hold. -/
def nullable (holds : Look → Bool) : Node → Bool
  | .empty | .loop _ _ | .upTo _ _ _ => true
  | .chars _                         => false
  | .look l                          => holds l
  | .cat a b                         => a.nullable holds && b.nullable holds
  | .alt a b                         => a.nullable holds || b.nullable holds
  | .plus _ r | .group _ _ r         => r.nullable holds
  | .times n r                       => n == 0 || r.nullable holds

/-- The conditions of an expression, as they stand in it. -/
def looks : Node → List Look
  | .empty | .chars _                                               => []
  | .look l                                                         => [l]
  | .cat a b | .alt a b                                             => a.looks ++ b.looks
  | .plus _ r | .loop _ r | .times _ r | .upTo _ _ r | .group _ _ r => r.looks

/-- Where more of its conditions hold, an expression matches emptily all the more. -/
theorem nullable_mono {holds holds' : Look → Bool} {r : Node}
    (h : ∀ l ∈ r.looks, holds l = true → holds' l = true) (hr : r.nullable holds = true) :
    r.nullable holds' = true := by
  induction r with
  | empty | loop greedy r | upTo n greedy r => rfl
  | chars s => cases hr
  | look l => exact h l List.mem_cons_self hr
  | cat a b iha ihb =>
      obtain ⟨ha, hb⟩ := List.forall_mem_append.mp h
      rw [nullable, Bool.and_eq_true] at hr ⊢
      exact ⟨iha ha hr.1, ihb hb hr.2⟩
  | alt a b iha ihb =>
      obtain ⟨ha, hb⟩ := List.forall_mem_append.mp h
      rw [nullable, Bool.or_eq_true] at hr ⊢
      exact hr.imp (iha ha) (ihb hb)
  | plus greedy r ih | group index name r ih => exact ih h hr
  | times n r ih =>
      rw [nullable, Bool.or_eq_true] at hr ⊢
      exact hr.imp_right (ih h)

end Node

/-! ### Moves that are done -/

namespace Move

/-- Whether one of the moves is done. -/
def anyDone (ms : List Move) : Bool := ms.any fun m => !m.isEat

theorem anyDone_iff {ms : List Move} : anyDone ms = true ↔ ∃ g, .done g ∈ ms := by
  simp only [anyDone, List.any_eq_true]
  constructor
  · rintro ⟨m, hm, hdone⟩
    cases m with
    | eat s rest g => cases hdone
    | done g => exact ⟨g, hm⟩
  · rintro ⟨g, hg⟩
    exact ⟨_, hg, rfl⟩

@[simp] theorem anyDone_append (ms ms' : List Move) :
    anyDone (ms ++ ms') = (anyDone ms || anyDone ms') := List.any_append

theorem anyDone_filter_isEat (ms : List Move) : anyDone (ms.filter isEat) = false := by
  simp [anyDone]

theorem anyDone_andThen {next : Groups → List Move} {b : Bool} (h : ∀ g, anyDone (next g) = b)
    (ms : List Move) : anyDone (andThen ms next) = (anyDone ms && b) := by
  induction ms with
  | nil => rfl
  | cons m ms ih =>
      cases m with
      | eat s rest g => exact ih
      | done g => rw [andThen, anyDone_append, h, anyDone_filter_isEat, Bool.or_false]; rfl

variable {body : List Item → Groups → List Move} {b : Bool}

theorem anyDone_times (h : ∀ k g, anyDone (body k g) = b) (r : Node) (n : Nat) (k : List Item)
    (g : Groups) : anyDone (times body r n k g) = (n == 0 || b) := by
  induction n generalizing g with
  | zero => rfl
  | succ n ih =>
      rw [times, anyDone_andThen ih, h]
      cases b <;> simp

theorem anyDone_upTo (body : List Item → Groups → List Move) (greedy : Bool) (r : Node) (n : Nat)
    (k : List Item) (g : Groups) : anyDone (upTo body greedy r n k g) = true := by
  cases n with
  | zero => rfl
  | succ n =>
      rw [upTo]
      split
      · rw [anyDone_append, Bool.or_eq_true]
        exact .inr rfl
      · rfl

end Move

/-- **An expression is done at a place** exactly when the conditions that hold there allow it to match
without taking a character. -/
theorem Node.anyDone_moves (p : Place) (r : Node) (k : List Item) (g : Groups) :
    Move.anyDone (r.moves p k g) = r.nullable (Look.holds p.before p.after) := by
  induction r generalizing k g with
  | empty | chars s => rfl
  | look l =>
      rw [Node.moves, nullable]
      cases l.holds p.before p.after <;> rfl
  | cat a b iha ihb => rw [Node.moves, Move.anyDone_andThen (ihb k), iha]; rfl
  | alt a b iha ihb => rw [Node.moves, Move.anyDone_append, iha, ihb]; rfl
  | plus greedy r ih => exact ih _ g
  | loop greedy r ih =>
      rw [Node.moves]
      split
      · rw [Move.anyDone_append, Move.anyDone_filter_isEat]; rfl
      · rfl
  | times n r ih => exact Move.anyDone_times ih r n k g
  | upTo n greedy r ih => exact Move.anyDone_upTo _ greedy r n k g
  | group index name r ih =>
      have hclosing : ∀ m : Move, (m.closing index p.pos).isEat = m.isEat := fun m => by
        cases m <;> rfl
      rw [Node.moves, Move.anyDone, List.any_map]
      simp only [Function.comp_def, hclosing]
      exact ih _ g

/-! ### Expressions -/

theorem Thread.isSome_done? (ms : List Move) : (done? ms).isSome = Move.anyDone ms := by
  rw [done?, List.isSome_findSome?, Move.anyDone]
  congr 1
  funext m
  cases m <;> rfl

/-- **An expression matches the empty text** exactly when it can match without taking a character where
there is nothing on either side. -/
theorem isMatch_nil (r : Regex) : r.isMatch [] = r.root.nullable (Look.holds none none) := by
  have hstart : Thread.moves (.group 0 none r.root) [] none ⟨0, none, none⟩ =
      Item.moves ⟨0, none, none⟩ [.run (.group 0 none r.root)] [] := by
    simp [Thread.moves]
  have hdone : ∀ g, Move.anyDone (Item.moves ⟨0, none, none⟩ [] g) = true := fun _ => rfl
  calc r.isMatch []
      = (Thread.done? (Thread.moves (.group 0 none r.root) [] none ⟨0, none, none⟩)).isSome := by
        simp [isMatch, find?, Cursor.find?, Cursor.ofText, search]
    _ = Move.anyDone ((Node.group 0 none r.root).moves ⟨0, none, none⟩ [] []) := by
        rw [Thread.isSome_done?, hstart, Item.moves, Move.anyDone_andThen hdone, Bool.and_true]
    _ = r.root.nullable (Look.holds none none) := Node.anyDone_moves _ _ _ _

/-- **Where a match is empty**: an expression that does not match the empty text has a condition on the
edge of a word there. -/
theorem Groups.Advanced.cases {r : Regex} (hr : r.isMatch [] = false) {t : Text} {g : Groups}
    (h : g.Advanced (Place.In t) r.root) : g.whole.start < g.whole.stop ∨
      ∃ u v, t = u ++ v ∧ g.whole = ⟨Text.size u, Text.size u⟩ ∧
        ∃ l ∈ r.root.looks, l.isWordEdge = true ∧ l.holds u.getLast? v.head? = true := by
  rcases h with htook | ⟨p, ⟨u, v, htext, rfl⟩, hwhole, hdone⟩
  · exact .inl htook
  · have hnull : r.root.nullable (Look.holds u.getLast? v.head?) = true := by
      rw [← Move.anyDone_iff, Node.anyDone_moves] at hdone
      exact hdone
    refine .inr ⟨u, v, htext, hwhole, ?_⟩
    by_contra hnone
    -- the conditions that hold at the place hold in the empty text as well, which `r` does not match
    have hempty : ∀ l ∈ r.root.looks, l.holds u.getLast? v.head? = true → l.holds none none = true := by
      intro l hl hholds
      rw [Look.holds_nowhere, Bool.not_eq_true', ← Bool.not_eq_true]
      exact fun hedge => hnone ⟨l, hl, hedge, hholds⟩
    have hmatch := Node.nullable_mono hempty hnull
    rw [← isMatch_nil, hr] at hmatch
    cases hmatch

end Regex

/-! ### Anchors -/

/-- The conditions of a pattern.  A literal has none. -/
def Pattern.looks : Pattern → List Regex.Look
  | .literal _ => []
  | .regex r   => r.root.looks

namespace Pattern

variable {p : Pattern} {d : Document} {range : Span} {m : Match}

/-- A search for the pattern in a range of the document comes to the match. -/
def Finds (p : Pattern) (d : Document) (range : Span) (m : Match) : Prop :=
  p.findIn d range = some m ∨ m ∈ p.findAllIn d range

/-- **What a search comes to**: the literal, or what the expression matches from some place of the
range. -/
theorem Finds.cases (h : p.Finds d range m) : ∃ start t, d.clip range = some (start, t) ∧
    ((∃ needle i, p = .literal needle ∧ m = .ofLiteral needle (i + start)) ∨
      ∃ r c g, p = .regex r ∧ Regex.Cursor.In t c ∧ c.find? r.root = some g ∧
        m = .ofGroups r start t g) := by
  rcases h with h | h
  · unfold findIn at h
    obtain ⟨⟨start, t⟩, hclip, h⟩ := Option.bind_eq_some_iff.mp h
    refine ⟨start, t, hclip, ?_⟩
    cases p with
    | literal needle =>
        obtain ⟨i, -, hm⟩ := Option.bind_eq_some_iff.mp h
        cases hm
        exact .inl ⟨needle, i, rfl, rfl⟩
    | regex r =>
        obtain ⟨g, hg, hm⟩ := Option.bind_eq_some_iff.mp h
        cases hm
        exact .inr ⟨r, _, g, rfl, Regex.Cursor.in_ofText t, hg, rfl⟩
  · unfold findAllIn at h
    cases hclip : d.clip range with
    | none => rw [hclip] at h; cases h
    | some clip =>
        obtain ⟨start, t⟩ := clip
        refine ⟨start, t, rfl, ?_⟩
        cases p with
        | literal needle =>
            simp only [hclip] at h
            obtain ⟨i, -, rfl⟩ := List.mem_map.mp h
            exact .inl ⟨needle, i, rfl, rfl⟩
        | regex r =>
            simp only [hclip] at h
            obtain ⟨g, hg, rfl⟩ := List.mem_map.mp h
            obtain ⟨c, hc, hfind⟩ := (Regex.Cursor.in_ofText t).exists_find? hg
            exact .inr ⟨r, c, g, rfl, hc, hfind, rfl⟩

/-- A pattern that matches the empty text has an empty match in the empty document. -/
theorem exists_empty_match (h : p.matchesEmpty = true) :
    ∃ m, p.Finds ⟨[]⟩ ⟨0, 0⟩ m ∧ m.span = ⟨0, 0⟩ := by
  have hclip : Document.clip ⟨[]⟩ ⟨0, 0⟩ = some (0, []) := rfl
  cases p with
  | literal needle =>
      obtain rfl := List.isEmpty_iff.mp h
      exact ⟨.ofLiteral [] 0, .inl rfl, rfl⟩
  | regex r =>
      obtain ⟨g, hg⟩ := Option.isSome_iff_exists.mp h
      have hwhole := (Regex.find?_recorded hg).whole
      have hstop : g.whole.stop = 0 := Nat.le_zero.mp hwhole.stop_le
      have hstart : g.whole.start = 0 := Nat.le_zero.mp (hstop ▸ hwhole.ordered)
      refine ⟨.ofGroups r 0 [] g, .inl ?_, congrArg₂ Span.mk hstart hstop⟩
      simp only [findIn, hclip, Option.bind_eq_bind, Option.bind_some, hg]
      rfl

end Pattern

namespace Anchor

variable {a : Anchor} {d : Document} {range : Span} {m : Match}

/-- A search for the anchor in a range of the document comes to the match. -/
def Finds (a : Anchor) (d : Document) (range : Span) (m : Match) : Prop := a.pattern.Finds d range m

/-- The match is empty and stands at the edge of a word, where one of the conditions of the anchor asks
for one. -/
def EmptyAtEdge (a : Anchor) (d : Document) (range : Span) (m : Match) : Prop :=
  ∃ start u v, d.clip range = some (start, u ++ v) ∧
    m.span = ⟨start + Text.size u, start + Text.size u⟩ ∧
    ∃ l ∈ a.pattern.looks, l.isWordEdge = true ∧ l.holds u.getLast? v.head? = true ∧
      ∃ ascii, Regex.Look.isWord ascii u.getLast? ≠ Regex.Look.isWord ascii v.head?

/-- A pattern has an anchor exactly when it does not match the empty text. -/
theorem exists_ofPattern_iff {p : Pattern} {role : Role} :
    (∃ a, ofPattern p role = .ok a) ↔ p.matchesEmpty = false := by
  rw [ofPattern]
  split_ifs with hempty
  · simp [hempty]
  · simpa using hempty

theorem Finds.match_cases (h : a.Finds d range m) :
    m.span.start < m.span.stop ∨ a.EmptyAtEdge d range m := by
  obtain ⟨start, t, hclip, ⟨needle, i, hpattern, rfl⟩ | ⟨r, c, g, hpattern, hc, hg, rfl⟩⟩ :=
    Pattern.Finds.cases h
  · rcases a.pattern_cases with ⟨needle', hne, hpattern'⟩ | ⟨r, -, hpattern'⟩
    · cases hpattern.symm.trans hpattern'
      have hsize : Text.size needle ≠ 0 := fun hzero => hne (Text.size_eq_zero_iff.mp hzero)
      exact .inl (Nat.lt_add_of_pos_right (Nat.pos_of_ne_zero hsize))
    · cases hpattern.symm.trans hpattern'
  · rcases a.pattern_cases with ⟨needle', -, hpattern'⟩ | ⟨r', hr, hpattern'⟩
    · cases hpattern.symm.trans hpattern'
    · cases hpattern.symm.trans hpattern'
      rcases (hc.find?_advanced hg).2.cases hr with htook | ⟨u, v, rfl, hwhole, l, hl, hedge, hholds⟩
      · exact .inl (Nat.add_lt_add_right htook start)
      · refine .inr ⟨start, u, v, hclip, ?_, l, by rwa [hpattern], hedge, hholds,
          Regex.Look.isWord_ne_of_holds hedge hholds⟩
        rw [Nat.add_comm start]
        exact congrArg (Span.shift · start) hwhole

/-- **Anchors match emptily only at the edges of words.**  A match of an anchor, in any range of any
document, takes at least a byte, or it stands at the edge of a word and the anchor has a condition
that asks for one (`EmptyAtEdge`).  A pattern without such conditions is accepted as an anchor exactly
if none of its matches is ever empty. -/
theorem empty_match_at_word_edge (a : Anchor) (p : Pattern) (role : Role) :
    (∀ d range m, a.Finds d range m → m.span.start < m.span.stop ∨ a.EmptyAtEdge d range m) ∧
    ((∀ l ∈ p.looks, l.isWordEdge = false) →
      ((∃ a', ofPattern p role = .ok a') ↔
        ∀ d range m, p.Finds d range m → m.span.start < m.span.stop)) := by
  refine ⟨fun d range m hm => hm.match_cases, fun hlooks => ?_⟩
  rw [exists_ofPattern_iff]
  constructor
  · intro hproper d range m hm
    have hfinds : Finds ⟨p, role, hproper⟩ d range m := hm
    rcases hfinds.match_cases with htook | ⟨start, u, v, -, -, l, hl, hedge, -⟩
    · exact htook
    · cases (hlooks l hl).symm.trans hedge
  · intro hfull
    by_contra hempty
    obtain ⟨m, hm, hspan⟩ := Pattern.exists_empty_match (Bool.not_eq_false _ ▸ hempty)
    have htook := hfull _ _ m hm
    rw [hspan] at htook
    cases htook

/-- The edge of a word. -/
def boundary : Anchor := ⟨.regex ⟨['\\', 'b'], .look (.wordBoundary false)⟩, .other, .refl false⟩

/-- The edge of a word is accepted as an anchor, and it matches emptily in front of a letter. -/
theorem boundary_matches_emptily :
    Anchor.regex ['\\', 'b'] .other = .ok boundary ∧
      boundary.find ⟨['a']⟩ = some ⟨⟨0, 0⟩, [], [some ⟨0, 0⟩], []⟩ ∧
      ¬ ∀ (source : Text) (role : Role) (a : Anchor) (d : Document) (m : Match),
        Anchor.regex source role = .ok a → a.find d = some m → m.span.start < m.span.stop := by
  have haccepted : Anchor.regex ['\\', 'b'] .other = .ok boundary := by cbv
  have hfind : boundary.find ⟨['a']⟩ = some ⟨⟨0, 0⟩, [], [some ⟨0, 0⟩], []⟩ := by cbv
  exact ⟨haccepted, hfind, fun hfull => absurd (hfull _ _ _ _ _ haccepted hfind) (lt_irrefl 0)⟩

/-- A letter at the start of a line. -/
def lineLetter : Anchor :=
  ⟨.regex ⟨['^', 'a'], .cat (.look (.lineStart true)) (.chars (.single 'a'))⟩, .other, .refl false⟩

/-- The empty match of the edge of a word is at one.  The start of a line is a condition as well, but a
letter that has to stand there is never empty. -/
theorem empty_match_at_word_edge_both :
    Anchor.regex ['\\', 'b'] .other = .ok boundary ∧
      boundary.EmptyAtEdge ⟨['a']⟩ ⟨0, 1⟩ ⟨⟨0, 0⟩, [], [some ⟨0, 0⟩], []⟩ ∧
      lineLetter.findIn ⟨['b', '\n', 'a']⟩ ⟨0, 3⟩ = some ⟨⟨2, 3⟩, ['a'], [some ⟨2, 3⟩], []⟩ ∧
      ∀ d range m, lineLetter.Finds d range m → m.span.start < m.span.stop := by
  have haccepted : Anchor.regex ['\\', 'b'] .other = .ok boundary := by cbv
  have hfind : boundary.findIn ⟨['a']⟩ ⟨0, 1⟩ = some ⟨⟨0, 0⟩, [], [some ⟨0, 0⟩], []⟩ := by cbv
  have hletter : ofPattern lineLetter.pattern .other = .ok lineLetter := by cbv
  obtain ⟨hmatches, hexact⟩ := empty_match_at_word_edge boundary lineLetter.pattern .other
  refine ⟨haccepted, ?_, by cbv, (hexact (by decide)).mp ⟨lineLetter, hletter⟩⟩
  exact (hmatches _ _ _ (.inl hfind)).resolve_left (lt_irrefl 0)

end Anchor

end Graft
