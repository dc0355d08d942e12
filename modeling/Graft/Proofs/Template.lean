import Graft.Proofs.Literal

/-!
# How templates are read

A template is read from left to right, and every part of it is one of five (`Template.Reads`): a
character that is no dollar sign, two dollar signs, a reference to a group by a name in braces, one by
the longest run of name characters, and a dollar sign that is none of these.

* `Template.reads_iff`: there is exactly one way to read a template, and expansion takes it.
* `Template.expand_follows_grammar`: so expansion puts the values of the parts one after the other.  A
  template is read before any match is looked at, hence what a group has matched is never read itself.
-/

namespace Graft

namespace Template

/-! ### References -/

/-- A letter, a digit or the underscore. -/
def IsNameChar (c : Char) : Prop :=
  ('a' ≤ c ∧ c ≤ 'z') ∨ ('A' ≤ c ∧ c ≤ 'Z') ∨ ('0' ≤ c ∧ c ≤ '9') ∨ c = '_'

theorem isNameChar_iff {c : Char} : isNameChar c = true ↔ IsNameChar c := by
  simp only [isNameChar, IsNameChar, Char.isAlphanum, Char.isAlpha, Char.isUpper, Char.isLower,
    Char.isDigit, Char.le_def, Bool.or_eq_true, Bool.and_eq_true, decide_eq_true_eq, beq_iff_eq, ge_iff_le]
  tauto

/-- What follows a dollar sign is the name of a group, and then the rest: a name in braces, which ends
at the first closing one, or a run of name characters, which no other follows. -/
inductive Refers : Text → Text → Text → Prop where
  | braced {name rest : Text} (hne : name ≠ []) (hclose : '\x7d' ∉ name) :
      Refers ('\x7b' :: (name ++ '\x7d' :: rest)) name rest
  | run {name rest : Text} (hne : name ≠ []) (hname : ∀ c ∈ name, IsNameChar c)
      (hlongest : ∀ c ∈ rest.head?, ¬ IsNameChar c) : Refers (name ++ rest) name rest

/-- A list is cut where a predicate first fails. -/
theorem takeWhile_dropWhile_iff {α : Type} {p : α → Bool} {t a b : List α} :
    t.takeWhile p = a ∧ t.dropWhile p = b ↔
      t = a ++ b ∧ (∀ c ∈ a, p c = true) ∧ ∀ c ∈ b.head?, p c = false := by
  constructor
  · rintro ⟨rfl, rfl⟩
    refine ⟨List.takeWhile_append_dropWhile.symm, fun c hc => List.mem_takeWhile_imp hc, fun c hc => ?_⟩
    have hhead := List.head?_dropWhile_not p t
    rw [Option.mem_def.mp hc] at hhead
    exact hhead
  · rintro ⟨rfl, ha, hb⟩
    rw [List.takeWhile_append_of_pos ha, List.dropWhile_append_of_pos ha]
    cases b with
    | nil => simp
    | cons c b => simp [hb c rfl]

theorem reference?_eq_some_iff {t name rest : Text} :
    reference? t = some (name, rest) ↔ Refers t name rest := by
  constructor
  · intro h
    unfold reference? at h
    split at h
    · next t =>
        split_ifs at h with hnone
        simp only [Bool.or_eq_true, List.isEmpty_iff, not_or] at hnone
        cases h
        obtain ⟨hcut, hname, hclose⟩ := takeWhile_dropWhile_iff.mp
          ⟨(rfl : t.takeWhile (· != '\x7d') = _), (rfl : t.dropWhile (· != '\x7d') = _)⟩
        obtain ⟨c, rest, hrest⟩ := List.exists_cons_of_ne_nil hnone.2
        rw [hrest] at hcut hclose ⊢
        have hc : c = '\x7d' := by simpa using hclose c rfl
        have hrefers : Refers ('\x7b' :: (t.takeWhile (· != '\x7d') ++ '\x7d' :: rest)) _ rest :=
          .braced hnone.1 fun hmem => by simpa using hname _ hmem
        rw [hc] at hcut
        rwa [← hcut] at hrefers
    · split_ifs at h with hnone
      rw [List.isEmpty_iff] at hnone
      cases h
      obtain ⟨hcut, hname, hlongest⟩ := takeWhile_dropWhile_iff.mp
        ⟨(rfl : t.takeWhile isNameChar = _), (rfl : t.dropWhile isNameChar = _)⟩
      have hrefers : Refers (t.takeWhile isNameChar ++ t.dropWhile isNameChar) _ _ :=
        .run hnone (fun c hc => isNameChar_iff.mp (hname c hc)) fun c hc => by
          rw [← isNameChar_iff, hlongest c hc]
          exact Bool.false_ne_true
      rwa [← hcut] at hrefers
  · intro h
    cases h with
    | braced hne hclose =>
        have hopen : ∀ c ∈ name, (c != '\x7d') = true := fun c hc =>
          bne_iff_ne.mpr fun heq => hclose (heq ▸ hc)
        obtain ⟨htake, hdrop⟩ := takeWhile_dropWhile_iff.mpr
          ⟨(rfl : name ++ '\x7d' :: rest = _), hopen, fun c hc => by cases hc; rfl⟩
        simp [reference?, htake, hdrop, hne]
    | run hne hname hlongest =>
        obtain ⟨htake, hdrop⟩ := takeWhile_dropWhile_iff.mpr
          ⟨(rfl : name ++ rest = _), fun c hc => isNameChar_iff.mpr (hname c hc), fun c hc =>
            Bool.eq_false_iff.mpr fun hc' => hlongest c hc (isNameChar_iff.mp hc')⟩
        unfold reference?
        split
        · next t heq =>
            -- an opening brace is no name character
            obtain ⟨c, name, rfl⟩ := List.exists_cons_of_ne_nil hne
            cases heq
            exact absurd (isNameChar_iff.mpr (hname _ List.mem_cons_self)) (by decide)
        · rw [htake, hdrop, if_neg (by simpa using hne)]

/-! ### Readings -/

/-- How a template is read. -/
inductive Reads : Text → List Token → Prop where
  | nil : Reads [] []
  | char {c : Char} {t : Text} {ts : List Token} (hc : c ≠ '$') (h : Reads t ts) :
      Reads (c :: t) (.char c :: ts)
  | doubled {t : Text} {ts : List Token} (h : Reads t ts) : Reads ('$' :: '$' :: t) (.char '$' :: ts)
  | reference {t name rest : Text} {ts : List Token} (hrefers : Refers t name rest)
      (h : Reads rest ts) : Reads ('$' :: t) (.group name :: ts)
  | lone {t : Text} {ts : List Token} (hsingle : t.head? ≠ some '$')
      (hnone : ∀ name rest, ¬ Refers t name rest) (h : Reads t ts) : Reads ('$' :: t) (.char '$' :: ts)

theorem reference?_dollar (t : Text) : reference? ('$' :: t) = none := by
  unfold reference?
  split
  · next h => cases h
  · rw [List.takeWhile_cons_of_neg (by decide)]
    rfl

theorem Refers.head?_ne {t name rest : Text} (h : Refers t name rest) : t.head? ≠ some '$' := by
  intro hhead
  obtain ⟨t, rfl⟩ := List.head?_eq_some_iff.mp hhead
  have hsome := reference?_eq_some_iff.mpr h
  rw [reference?_dollar] at hsome
  cases hsome

theorem reads_tokens (t : Text) : Reads t (tokens t) := by
  fun_induction tokens t with
  | case1 => exact .nil
  | case2 c t hc ih => exact .char (by simpa using hc) ih
  | case3 c hc t ih =>
      cases (by simpa using hc : c = '$')
      exact .doubled ih
  | case4 c hc t hsingle name rest href _ ih =>
      cases (by simpa using hc : c = '$')
      exact .reference (reference?_eq_some_iff.mp href) ih
  | case5 c hc t hsingle hnone ih =>
      cases (by simpa using hc : c = '$')
      refine .lone (fun hhead => ?_) (fun name rest hrefers => ?_) ih
      · obtain ⟨t', ht⟩ := List.head?_eq_some_iff.mp hhead
        exact hsingle t' ht
      · rw [reference?_eq_some_iff.mpr hrefers] at hnone
        cases hnone

theorem Refers.unique {t name rest name' rest' : Text} (h : Refers t name rest)
    (h' : Refers t name' rest') : name = name' ∧ rest = rest' := by
  have hsame := (reference?_eq_some_iff.mpr h).symm.trans (reference?_eq_some_iff.mpr h')
  simpa using hsame

/-- **There is only one way to read a template.** -/
theorem Reads.unique {t : Text} {ts ts' : List Token} (h : Reads t ts) (h' : Reads t ts') : ts = ts' := by
  induction h generalizing ts' with
  | nil =>
      cases h'
      rfl
  | char hc h ih =>
      cases h' with
      | char _ h' => rw [ih h']
      | doubled | reference | lone => exact absurd rfl hc
  | doubled h ih =>
      cases h' with
      | char hc _ => exact absurd rfl hc
      | doubled h' => rw [ih h']
      | reference hrefers _ => exact absurd rfl hrefers.head?_ne
      | lone hsingle _ _ => exact absurd rfl hsingle
  | reference hrefers h ih =>
      cases h' with
      | char hc _ => exact absurd rfl hc
      | doubled _ => exact absurd rfl hrefers.head?_ne
      | reference hrefers' h' =>
          obtain ⟨rfl, rfl⟩ := hrefers.unique hrefers'
          rw [ih h']
      | lone _ hnone _ => exact absurd hrefers (hnone _ _)
  | lone hsingle hnone h ih =>
      cases h' with
      | char hc _ => exact absurd rfl hc
      | doubled _ => exact absurd rfl hsingle
      | reference hrefers _ => exact absurd hrefers (hnone _ _)
      | lone _ _ h' => rw [ih h']

theorem reads_iff {t : Text} {ts : List Token} : Reads t ts ↔ ts = tokens t :=
  ⟨fun h => h.unique (reads_tokens t), fun h => h ▸ reads_tokens t⟩

/-! ### Values -/

/-- What a part stands for: a character for itself, and a group for its text in `source`, or for nothing
if there is no such group or it took no part. -/
inductive Token.Yields (m : Match) (source : Text) : Token → Text → Prop where
  | char (c : Char) : Yields m source (.char c) [c]
  | group {name x : Text} {s : Span} (hs : m.captureSpan (String.ofList name) = some s)
      (hx : Text.slice? source s.start s.stop = some x) : Yields m source (.group name) x
  | absent {name : Text} (h : m.captureSpan (String.ofList name) = none) :
      Yields m source (.group name) []

theorem Token.Yields.value_eq {m : Match} {source x : Text} {token : Token}
    (h : token.Yields m source x) : token.value m source = x := by
  cases h with
  | char c => rfl
  | group hs hx => rw [Token.value, Match.capture, hs, Option.bind_some, hx, Option.getD_some]
  | absent h => rw [Token.value, Match.capture, h, Option.bind_none, Option.getD_none]

theorem flatMap_value {m : Match} {source : Text} {ts : List Token} {xs : List Text}
    (h : List.Forall₂ (Token.Yields m source) ts xs) :
    ts.flatMap (Token.value m source) = xs.flatten := by
  induction h with
  | nil => rfl
  | cons hx _ ih => rw [List.flatMap_cons, List.flatten_cons, hx.value_eq, ih]

/-- A text with each dollar sign doubled. -/
def doubleDollars (t : Text) : Text := t.flatMap fun c => if c = '$' then ['$', '$'] else [c]

theorem reads_doubleDollars (t : Text) : Reads (doubleDollars t) (t.map .char) := by
  induction t with
  | nil => exact .nil
  | cons c t ih =>
      by_cases hc : c = '$'
      · subst hc
        exact .doubled ih
      · rw [doubleDollars, List.flatMap_cons, if_neg hc]
        exact .char hc ih

end Template

/-! ### Groups of a match -/

/-- What stands at a span of a piece stands in the document, as far on as the piece does. -/
theorem Document.spanText_shift {d : Document} {piece s : Span} {t x : Text}
    (h : d.spanText piece = .ok t) (hx : Text.slice? t s.start s.stop = some x) :
    d.spanText (s.shift piece.start) = .ok x := by
  obtain ⟨pre, post, htext, hstart, -⟩ := spanText_eq_ok_iff.mp h
  obtain ⟨u, v, rfl, hu, hstop⟩ := Text.slice?_eq_some_iff.mp hx
  refine spanText_eq_ok_iff.mpr ⟨pre ++ u, v ++ post, by simp [htext], ?_, ?_⟩
  · rw [Text.size_append, hstart, hu, Nat.add_comm]
    rfl
  · simp only [Span.shift]
    omega

/-- **A group that took part has a text.** -/
theorem Anchor.Finds.exists_group {a : Anchor} {d : Document} {range : Span} {m : Match}
    (h : a.Finds d range m) {s : Span} (hs : some s ∈ m.groups) : ∃ x, d.spanText s = .ok x := by
  rcases a.pattern_cases with ⟨needle, hne, hpattern⟩ | ⟨r, -, hpattern⟩
  · obtain ⟨hm, hlocated⟩ := h.located hpattern hne
    rw [hm] at hs
    cases List.mem_singleton.mp hs
    rw [hm] at hlocated
    exact Document.contains_iff.mp hlocated.contains
  · obtain ⟨start, t, hclip, ⟨needle, i, hpattern', -⟩ | ⟨r', c, g, -, hc, hg, rfl⟩⟩ := h.cases
    · cases hpattern.symm.trans hpattern'
    · obtain ⟨rfl, hspan⟩ := Document.clip_eq_some_iff.mp hclip
      obtain ⟨i, -, hi⟩ := List.mem_map.mp hs
      obtain ⟨s', hs', rfl⟩ := Option.map_eq_some_iff.mp hi
      have hrecorded := (hc.find?_recorded hg).get? hs'
      obtain ⟨x, hx⟩ :=
        Text.slice?_of_isBoundary hrecorded.start_mem hrecorded.stop_mem hrecorded.ordered
      have hgroup : d.spanText (s'.shift (d.clamp range).start) = .ok x :=
        Document.spanText_shift hspan hx
      exact ⟨x, hgroup⟩

namespace Template

/-- So each part of a template stands for something in a match that was found. -/
theorem exists_yields {a : Anchor} {d : Document} {range : Span} {m : Match}
    (h : a.Finds d range m) (ts : List Token) :
    ∃ xs, List.Forall₂ (Token.Yields m d.text) ts xs := by
  have hyields : ∀ token : Token, ∃ x, token.Yields m d.text x := by
    intro token
    cases token with
    | char c => exact ⟨[c], .char c⟩
    | group name =>
        cases hs : m.captureSpan (String.ofList name) with
        | none => exact ⟨[], .absent hs⟩
        | some s =>
            obtain ⟨x, hx⟩ := h.exists_group (Match.mem_groups_of_captureSpan hs)
            exact ⟨x, .group hs (Document.spanText_eq_ok_iff_slice?.mp hx)⟩
  choose value hvalue using hyields
  exact ⟨ts.map value, List.forall₂_map_right_iff.mpr (List.forall₂_same.mpr fun x _ => hvalue x)⟩

/-- **Expansion follows the grammar of templates.**  A template can be read in exactly one way
(`Reads`), which depends on nothing else.  In any match its expansion is what its parts stand for
(`Token.Yields`), one after the other, so what a group has matched is put in as it is.  All parts stand
for something in a match that a search has come to.  A text whose dollar signs are doubled expands to
itself. -/
theorem expand_follows_grammar (template : Text) : ∃ ts, Reads template ts ∧
    (∀ ts', Reads template ts' → ts' = ts) ∧
    (∀ m source xs, List.Forall₂ (Token.Yields m source) ts xs →
      Match.expand m source template = xs.flatten) ∧
    (∀ (a : Anchor) d range m, a.Finds d range m →
      ∃ xs, List.Forall₂ (Token.Yields m d.text) ts xs) ∧
    ∀ m source, Match.expand m source (doubleDollars template) = template := by
  refine ⟨tokens template, reads_tokens template, fun ts' => reads_iff.mp,
    fun m source xs hxs => flatMap_value hxs, fun a d range m hm => exists_yields hm _,
    fun m source => ?_⟩
  have hexpand : m.expand source (doubleDollars template) =
      (template.map Token.char).flatMap (Token.value m source) := by
    rw [Match.expand, ← reads_iff.mp (reads_doubleDollars template)]
  rw [hexpand, List.flatMap_map]
  exact List.flatMap_singleton' template

/-- A dollar sign and a digit between two letters, as the group `é`. -/
def betweenLetters : Anchor :=
  ⟨.regex ⟨"a(?<é>[$]1)b".toList, .cat (.chars (.single 'a'))
    (.cat (.group 1 (some "é") (.cat (.chars (.single '$')) (.chars (.single '1'))))
      (.chars (.single 'b')))⟩, .other, .refl false⟩

def reference : Document := ⟨['a', '$', '1', 'b']⟩

def referenceMatch : Match := ⟨⟨0, 4⟩, reference.text, [some ⟨0, 4⟩, some ⟨1, 3⟩], [("é", 1)]⟩

/-- Two dollar signs, the group by its name, by a name that no group has, and by its number, and then
dollar signs that refer to nothing. -/
def everyPart : Text :=
  ['$', '$', '$', '\x7b', 'é', '\x7d', '$', '1', '_', '$', '1', 'é', '$', '\x7b', '\x7d', '$', '\x7b', '$']

/-- The text of the group looks like a reference itself, and it is put in as it is. -/
theorem expand_follows_grammar_everyPart :
    betweenLetters.find reference = some referenceMatch ∧
      Reads everyPart [.char '$', .group ['é'], .group ['1', '_'], .group ['1'], .char 'é', .char '$',
        .char '\x7b', .char '\x7d', .char '$', .char '\x7b', .char '$'] ∧
      referenceMatch.expand reference.text everyPart =
        ['$', '$', '1', '$', '1', 'é', '$', '\x7b', '\x7d', '$', '\x7b', '$'] ∧
      referenceMatch.expand reference.text (doubleDollars everyPart) = everyPart := by
  have htokens : tokens everyPart = [.char '$', .group ['é'], .group ['1', '_'], .group ['1'],
    .char 'é', .char '$', .char '\x7b', .char '\x7d', .char '$', .char '\x7b', .char '$'] := by cbv
  have hname : referenceMatch.captureSpan (String.ofList ['é']) = some ⟨1, 3⟩ := by cbv
  have hnumber : referenceMatch.captureSpan (String.ofList ['1']) = some ⟨1, 3⟩ := by cbv
  have hunknown : referenceMatch.captureSpan (String.ofList ['1', '_']) = none := by cbv
  have htext : Text.slice? reference.text 1 3 = some ['$', '1'] := by cbv
  obtain ⟨ts, hreads, -, hexpand, -, hdoubled⟩ := expand_follows_grammar everyPart
  cases (reads_iff.mp hreads).trans htokens
  have hvalue := hexpand referenceMatch reference.text _ <| .cons (.char _) <|
    .cons (.group hname htext) <| .cons (.absent hunknown) <| .cons (.group hnumber htext) <|
    .cons (.char _) <| .cons (.char _) <| .cons (.char _) <| .cons (.char _) <| .cons (.char _) <|
    .cons (.char _) <| .cons (.char _) .nil
  exact ⟨by cbv, hreads, hvalue, hdoubled _ _⟩

end Template

end Graft
