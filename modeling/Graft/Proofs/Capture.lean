import Graft.Proofs.EmptyMatch
import Graft.Proofs.Reader

/-!
# Groups by name and by number

A rule that replaces a group is checked when its change is built: the anchor must have the group
(`Anchor.requireCapture`).  Where the group stands is looked up in the match, when the rule is attempted
(`Match.captureSpan`).  A name never looks like a number, so both come to the same group
(`Regex.groupIndex?`).

* `Anchor.capture_check_agrees`: a name that passes the check stands for one group, and the lookup in any
  match gives that group.  A name that does not pass gives nothing, unless it stands for the whole match.
-/

namespace Graft

/-! ### Numbers -/

/-- Decimal digits, with a value that an index can have. -/
structure Valued (digits : Text) (i : Nat) : Prop where
  nonempty : digits ≠ []
  decimal  : ∀ c ∈ digits, c.isDigit = true
  value    : Nat.ofDigits 10 (digits.reverse.map fun c => c.toNat - 48) = i
  fits     : i < 2 ^ 64

/-- The name is a number: digits, with a plus sign in front or none. -/
def Spells (name : String) (i : Nat) : Prop :=
  ∃ digits, Valued digits i ∧ (name.toList = digits ∨ name.toList = '+' :: digits)

theorem ofDigits_reverse (digits : Text) :
    Nat.ofDigits 10 (digits.reverse.map fun c => c.toNat - 48) =
      digits.foldl (fun n d => n * 10 + (d.toNat - 48)) 0 := by
  rw [Nat.ofDigits_eq_foldr, List.foldr_map, List.foldl_eq_foldr_reverse]
  congr 1
  funext c n
  simp only [Nat.cast_id]
  omega

theorem valued_iff {digits : Text} {i : Nat} : Valued digits i ↔
    (if !digits.isEmpty && digits.all Char.isDigit &&
        digits.foldl (fun n d => n * 10 + (d.toNat - 48)) 0 ≤ largestIndex
      then some (digits.foldl (fun n d => n * 10 + (d.toNat - 48)) 0) else none) = some i := by
  have hfits : ∀ n, n ≤ largestIndex ↔ n < 2 ^ 64 := fun n => Nat.lt_succ_iff.symm
  simp only [Option.ite_none_right_eq_some, Bool.and_eq_true, Bool.not_eq_true', List.isEmpty_eq_false_iff,
    List.all_eq_true, decide_eq_true_eq, hfits, Option.some.injEq, ← ofDigits_reverse]
  constructor
  · rintro ⟨hne, hdecimal, rfl, hfits⟩
    exact ⟨⟨⟨hne, hdecimal⟩, hfits⟩, rfl⟩
  · rintro ⟨⟨⟨hne, hdecimal⟩, hfits⟩, rfl⟩
    exact ⟨hne, hdecimal, rfl, hfits⟩

/-- What is read as a number is one that the name spells. -/
theorem numeral?_eq_some_iff {name : String} {i : Nat} : numeral? name = some i ↔ Spells name i := by
  have hplus : ∀ {digits}, Valued ('+' :: digits) i → False := fun h =>
    absurd (h.decimal '+' List.mem_cons_self) (by decide)
  unfold numeral? Spells
  simp only
  split
  · next digits htext =>
      rw [← valued_iff]
      constructor
      · intro h
        exact ⟨digits, h, .inr htext⟩
      · rintro ⟨digits', h, h' | h'⟩
        · exact (hplus (htext ▸ h' ▸ h)).elim
        · cases htext.symm.trans h'
          exact h
  · next hsign =>
      rw [← valued_iff]
      constructor
      · intro h
        exact ⟨_, h, .inl rfl⟩
      · rintro ⟨digits, h, h' | h'⟩
        · exact h' ▸ h
        · exact (hsign _ h').elim

/-- A name of a group is no number. -/
theorem Regex.IsGroupName.numeral?_eq_none {name : String} (h : IsGroupName name) :
    numeral? name = none := by
  obtain ⟨c, cs, rfl, hc⟩ := h
  refine Option.eq_none_iff_forall_ne_some.mpr fun i hi => ?_
  obtain ⟨digits, hvalued, hname | hname⟩ := numeral?_eq_some_iff.mp hi
  · rw [String.toList_ofList] at hname
    have hdigit := hvalued.decimal c (hname ▸ List.mem_cons_self)
    rw [Reader.isNameStart_of_isDigit hdigit] at hc
    cases hc
  · rw [String.toList_ofList] at hname
    cases hname
    cases hc

namespace Regex

/-- The name stands for the group: it is its number, or the group has that name. -/
def Denotes (r : Regex) (name : String) (i : Nat) : Prop :=
  Spells name i ∨ (i, some name) ∈ r.root.groups

/-- The number of the group that a name stands for. -/
def groupIndex? (r : Regex) (name : String) : Option Nat :=
  (numeral? name).or (r.names.lookup name)

variable {r : Regex} {name : String} {i : Nat}

theorem mem_names_iff : (name, i) ∈ r.names ↔ (i, some name) ∈ r.root.groups := by
  simp [names, List.mem_filterMap]

theorem le_foldl_max {ls : List Label} {n k : Nat} (h : k ≤ n ∨ ∃ l ∈ ls, k ≤ l.1) :
    k ≤ ls.foldl (fun n l => max n l.1) n := by
  induction ls generalizing n with
  | nil => simpa using h
  | cons first ls ih =>
      refine ih ?_
      rcases h with hk | ⟨l, hl, hk⟩
      · exact .inl (hk.trans (le_max_left _ _))
      · rcases List.mem_cons.mp hl with rfl | hl
        · exact .inl (hk.trans (le_max_right _ _))
        · exact .inr ⟨l, hl, hk⟩

theorem lt_groupCount {l : Label} (h : l ∈ r.root.groups) : l.1 < r.groupCount :=
  Nat.lt_succ_of_le (le_foldl_max (.inr ⟨l, h, le_rfl⟩))

theorem lookup_names_iff (hr : Labelled (· ∈ r.root.groups)) :
    r.names.lookup name = some i ↔ (i, some name) ∈ r.root.groups := by
  have hmem : ∀ {j}, r.names.lookup name = some j → (j, some name) ∈ r.root.groups := by
    intro j hj
    obtain ⟨before, after, hsplit, -⟩ := List.lookup_eq_some_iff.mp hj
    exact mem_names_iff.mp (hsplit ▸ List.mem_append_right _ List.mem_cons_self)
  refine ⟨hmem, fun hi => ?_⟩
  have hsome : (r.names.lookup name).isSome = true :=
    List.lookup_isSome_iff.mpr ⟨(name, i), mem_names_iff.mpr hi, beq_self_eq_true name⟩
  obtain ⟨j, hj⟩ := Option.isSome_iff_exists.mp hsome
  -- a repetition can write a group out twice, so the first entry may be another one than that of `hi`
  rw [hj, hr.unique j i name (hmem hj) hi]

/-- The lookup of a name by its digits, or else among the names, goes by what it stands for. -/
theorem groupIndex?_eq_some_iff (hr : Labelled (· ∈ r.root.groups)) :
    r.groupIndex? name = some i ↔ r.Denotes name i := by
  unfold groupIndex? Denotes
  cases hnumeral : numeral? name with
  | none =>
      have hspells : ¬ Spells name i := by
        rw [← numeral?_eq_some_iff, hnumeral]
        exact (Option.some_ne_none i).symm
      rw [Option.none_or, lookup_names_iff hr, or_iff_right hspells]
  | some j =>
      have hname : (i, some name) ∉ r.root.groups := fun h => by
        rw [(hr.proper i name h).numeral?_eq_none] at hnumeral
        cases hnumeral
      rw [Option.some_or, ← hnumeral, numeral?_eq_some_iff, or_iff_left hname]

end Regex

namespace Match

variable {r : Regex} {offset : Nat} {slice : Text} {g : Regex.Groups} {name : String}

theorem captureSpan_ofGroups : (ofGroups r offset slice g).captureSpan name =
    (r.groupIndex? name).bind fun i => (ofGroups r offset slice g).groups[i]?.join := by
  unfold captureSpan Regex.groupIndex?
  cases numeral? name <;> rfl

theorem length_groups_ofGroups : (ofGroups r offset slice g).groups.length = r.groupCount := by
  rw [ofGroups, List.length_map, List.length_range]

end Match

namespace Anchor

variable {a : Anchor} {r : Regex} {name : String} {d : Document} {range : Span} {m : Match} {i : Nat}

theorem requireCapture_eq_ok_iff (ha : a.pattern = .regex r) (hr : Regex.Labelled (· ∈ r.root.groups)) :
    a.requireCapture name = .ok () ↔ ∃ i, r.groupIndex? name = some i ∧ 1 ≤ i ∧ i < r.groupCount := by
  unfold requireCapture Regex.groupIndex?
  simp only [ha]
  cases numeral? name with
  | some j => simp [Nat.one_le_iff_ne_zero, Nat.pos_iff_ne_zero]
  | none =>
      have hnames : r.names.any (·.1 == name) = true ↔ ∃ i, (name, i) ∈ r.names := by simp
      simp only [ite_eq_left_iff, reduceCtorEq, imp_false, not_not, hnames, Option.none_or,
        Regex.lookup_names_iff hr, Regex.mem_names_iff]
      exact ⟨fun ⟨i, hi⟩ => ⟨i, hi, hr.pos _ hi, Regex.lt_groupCount hi⟩, fun ⟨i, hi, _⟩ => ⟨i, hi⟩⟩

/-- **The lookup in a match** gives the group that the name stands for. -/
theorem Finds.captureSpan (ha : a.pattern = .regex r) (h : a.Finds d range m) (name : String) :
    m.groups.length = r.groupCount ∧
      m.captureSpan name = (r.groupIndex? name).bind fun i => m.groups[i]?.join := by
  obtain ⟨start, t, -, ⟨needle, i, ha', -⟩ | ⟨r', c, g, ha', -, -, rfl⟩⟩ := h.cases
  · cases ha.symm.trans ha'
  · cases ha.symm.trans ha'
    exact ⟨Match.length_groups_ofGroups, Match.captureSpan_ofGroups⟩

/-- The name stands for one group of the expression, and the lookup in any match gives that group. -/
structure Resolves (a : Anchor) (r : Regex) (name : String) (i : Nat) : Prop where
  counted : 1 ≤ i ∧ i < r.groupCount
  denoted : ∀ j, r.Denotes name j ↔ j = i
  found   : ∀ d range m, a.Finds d range m → m.groups[i]? = some (m.captureSpan name)

theorem resolves_iff (ha : a.pattern = .regex r) (hr : Regex.Labelled (· ∈ r.root.groups)) :
    a.Resolves r name i ↔ r.groupIndex? name = some i ∧ 1 ≤ i ∧ i < r.groupCount := by
  constructor
  · intro h
    exact ⟨(Regex.groupIndex?_eq_some_iff hr).mpr ((h.denoted i).mpr rfl), h.counted⟩
  · rintro ⟨hi, hcounted⟩
    refine ⟨hcounted, fun j => ?_, fun d range m hm => ?_⟩
    · rw [← Regex.groupIndex?_eq_some_iff hr, hi, Option.some.injEq, eq_comm]
    · obtain ⟨hlength, hspan⟩ := hm.captureSpan ha name
      have hlt : i < m.groups.length := hlength ▸ hcounted.2
      rw [hspan, hi, Option.bind_some, List.getElem?_eq_getElem hlt, Option.join_some]

end Anchor

/-! ### Rules -/

theorem Transform.substitute_ne_captureNotMatched {d : Document} {s : Span} {old new : Text}
    {name : String} : substitute d s old new ≠ .error (.captureNotMatched name) := by
  intro h
  unfold substitute at h
  split_ifs at h
  · cases hreplace : Edit.replaceIn d s new with
    | error why => rw [hreplace] at h; cases h
    | ok e => rw [hreplace] at h; cases h
  · cases h

namespace Rule

theorem check_of_checkAll {rules : List Rule} (h : checkAll rules = .ok ()) :
    ∀ rule ∈ rules, rule.check = .ok () := by
  induction rules with
  | nil => simp
  | cons first rules ih =>
      obtain ⟨_, hfirst, hrest⟩ := exists_of_bind h
      intro rule hrule
      rcases List.mem_cons.mp hrule with rfl | hrule
      · exact hfirst
      · exact ih hrest rule hrule

/-- **When a group is missed**: the anchor is found, and the group took no part in the match. -/
theorem attempt_captureNotMatched_iff {rule : Rule} {d : Document} {name other : String} {text : Text}
    (h : rule.transform = .replaceCapture name text) :
    rule.attempt d = .error (.captureNotMatched other) ↔
      other = name ∧ ∃ m, rule.anchor.find d = some m ∧ m.captureSpan name = none := by
  have hplan : ∀ m, rule.plan d m = .error (.captureNotMatched other) ↔
      other = name ∧ m.captureSpan name = none := by
    intro m
    simp only [plan, h, Transform.plan]
    cases hspan : m.captureSpan name with
    | none => simp [eq_comm]
    | some s => simp [Transform.substitute_ne_captureNotMatched]
  constructor
  · intro herror
    rcases attempt_eq_error herror with hwhy | ⟨m, hfind, hmiss | ⟨e, -, ⟨hwhy, -⟩ | ⟨_, hwhy, -⟩ | hwhy⟩⟩
    · cases hwhy
    · obtain ⟨rfl, hspan⟩ := (hplan m).mp hmiss
      exact ⟨rfl, m, hfind, hspan⟩
    · cases hwhy
    · cases hwhy
    · cases hwhy
  · rintro ⟨hname, m, hfind, hspan⟩
    rw [attempt, hfind]
    simp only [(hplan m).mpr ⟨hname, hspan⟩, Except.bind]

end Rule

/-- A change that was built has only rules that pass the check. -/
theorem Change.check_of_ofRules {id : String} {marker : Marker} {rules : List Rule} {change : Change}
    (h : Change.ofRules id marker rules = .ok change) : ∀ rule ∈ change.rules, rule.check = .ok () := by
  unfold Change.ofRules at h
  cases hcheck : Rule.checkAll rules with
  | error why => rw [hcheck] at h; cases h
  | ok _ =>
      rw [hcheck] at h
      cases h
      exact Rule.check_of_checkAll hcheck

namespace Anchor

/-- **The check of a group agrees with its lookup.**  A name passes the check of an expression exactly if
it stands for one of its groups, which the lookup then gives in any match (`Resolves`).  So a rule of a
change that was built misses its group exactly if its anchor is found and that group took no part in the
match.  If a name does not pass and does not stand for the whole match, the lookup gives nothing. -/
theorem capture_check_agrees {source : Text} {r : Regex} (hr : Regex.ofText source = .ok r) {a : Anchor}
    (ha : a.pattern = .regex r) (name : String) :
    (a.requireCapture name = .ok () ↔ ∃ i, a.Resolves r name i) ∧
    (∀ id marker rules change, Change.ofRules id marker rules = .ok change →
      ∀ rule ∈ change.rules, rule.anchor = a → ∀ text, rule.transform = .replaceCapture name text →
        ∃ i, a.Resolves r name i ∧ ∀ d other, rule.attempt d = .error (.captureNotMatched other) ↔
          other = name ∧ ∃ m, a.find d = some m ∧ m.groups[i]? = some none) ∧
    (a.requireCapture name ≠ .ok () → ¬ r.Denotes name 0 →
      ∀ d range m, a.Finds d range m → m.captureSpan name = none) := by
  have hlabelled := Regex.labelled_of_ofText hr
  have hcheck : a.requireCapture name = .ok () ↔ ∃ i, a.Resolves r name i := by
    simp only [requireCapture_eq_ok_iff ha hlabelled, resolves_iff ha hlabelled]
  refine ⟨hcheck, ?_, ?_⟩
  · intro id marker rules change hchange rule hrule hanchor text htransform
    have hpasses := Change.check_of_ofRules hchange rule hrule
    simp only [Rule.check, htransform, hanchor] at hpasses
    obtain ⟨i, hi⟩ := hcheck.mp hpasses
    refine ⟨i, hi, fun d other => ?_⟩
    rw [Rule.attempt_captureNotMatched_iff htransform, hanchor]
    refine and_congr_right fun _ => exists_congr fun m => and_congr_right fun hfind => ?_
    rw [hi.found d d.whole m (.inl hfind), Option.some.injEq]
  · intro hrefused hzero d range m hm
    obtain ⟨hlength, hspan⟩ := hm.captureSpan ha name
    cases hindex : r.groupIndex? name with
    | none => rw [hspan, hindex, Option.bind_none]
    | some i =>
        have hpos : 1 ≤ i := Nat.pos_of_ne_zero fun hi =>
          hzero ((Regex.groupIndex?_eq_some_iff hlabelled).mp (hi ▸ hindex))
        have hout : m.groups.length ≤ i := by
          by_contra hlt
          exact hrefused ((requireCapture_eq_ok_iff ha hlabelled).mpr
            ⟨i, hindex, hpos, hlength ▸ not_le.mp hlt⟩)
        rw [hspan, hindex, Option.bind_some, List.getElem?_eq_none hout, Option.join_none]

/-- An optional `a`, as the group `x`, in front of a `b`. -/
def optionalLetter : Regex :=
  ⟨"(?<x>a)?b".toList, .cat (.alt (.group 1 (some "x") (.chars (.single 'a'))) .empty)
    (.chars (.single 'b'))⟩

def optionalRule : Rule :=
  ⟨"r", ⟨.regex optionalLetter, .other, .refl false⟩, 0, false, .replaceCapture "+01" ['c']⟩

def optionalChange : Change :=
  ⟨"c", ⟨⟨.literal ['c'], .other, .refl false⟩, [], 0, none⟩, [optionalRule]⟩

/-- The number of the group may have a sign and zeros in front, and the group is missed where it took no
part.  A number that is too large for an index is refused, though modulo `2 ^ 64` it is that of the group
again. -/
theorem capture_check_agrees_optional :
    Regex.ofText optionalLetter.source = .ok optionalLetter ∧
    Change.ofRules "c" optionalChange.marker [optionalRule] = .ok optionalChange ∧
    (∃ i, optionalRule.anchor.Resolves optionalLetter "+01" i ∧
      ∀ d other, optionalRule.attempt d = .error (.captureNotMatched other) ↔
        other = "+01" ∧ ∃ m, optionalRule.anchor.find d = some m ∧ m.groups[i]? = some none) ∧
    optionalRule.attempt ⟨['b']⟩ = .error (.captureNotMatched "+01") ∧
    optionalRule.attempt ⟨['a', 'b']⟩ = .ok ⟨['c', 'b']⟩ ∧
    ∀ d range m, optionalRule.anchor.Finds d range m → m.captureSpan "18446744073709551617" = none := by
  have hread : Regex.ofText optionalLetter.source = .ok optionalLetter := by cbv
  have hbuilt : Change.ofRules "c" optionalChange.marker [optionalRule] = .ok optionalChange := by cbv
  have hmissed := (capture_check_agrees hread rfl "+01").2.1 _ _ _ _ hbuilt optionalRule
    (List.mem_singleton_self optionalRule) rfl ['c'] rfl
  refine ⟨hread, hbuilt, hmissed, by cbv, by cbv, ?_⟩
  have hlarge : numeral? "18446744073709551617" = none := by decide +kernel
  refine (capture_check_agrees hread rfl "18446744073709551617").2.2 ?_ ?_
  · simp only [requireCapture, optionalRule, hlarge]
    decide
  · rintro (hspells | hname)
    · rw [← numeral?_eq_some_iff, hlarge] at hspells
      cases hspells
    · revert hname
      decide

end Anchor

end Graft
