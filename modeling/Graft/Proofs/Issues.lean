import Graft.RuleFile.Issue
import Mathlib

/-!
# Issues

What the issues of a definition say.  A fault is something wrong at a place of the document
(`Definition.Fault`).  A place is a list of numbers: of the change, of its field, of the rule among the
rules of the change, and of the field of the rule, as far as they matter.  Places in the order of
lists are places in the order of the document.

* `Definition.reports_issues`: the issues tell all faults and nothing else, in the order of the
  document.
* `Definition.faultless_iff`: there are none exactly in well-formed definitions.
* `countP_inTurn`: names that are told twice and distinct names make up all the names.
* `Definition.issues_exact`: the three together.
-/

namespace Graft

/-! ### Reports -/

/-- The issues tell the faults, each of them once, in the order of their places. -/
def Reports (Fault : List Nat → Issue → Prop) (issues : List Issue) : Prop :=
  ∃ faults : List (List Nat × Issue), faults.map Prod.snd = issues ∧
    (faults.Pairwise fun x y => List.Lex (· < ·) x.1 y.1) ∧ ∀ x, x ∈ faults ↔ Fault x.1 x.2

/-- The issues tell the faults whose place begins with `n` or a higher number. -/
def ReportsFrom (n : Nat) (Fault : List Nat → Issue → Prop) (issues : List Issue) : Prop :=
  Reports (fun place issue => (∃ k path, n ≤ k ∧ place = k :: path) ∧ Fault place issue) issues

section Reports

variable {Fault Fault' : List Nat → Issue → Prop} {issues issues' : List Issue} {n : Nat}

theorem Reports.congr (h : Reports Fault issues) (hiff : ∀ place issue,
    Fault place issue ↔ Fault' place issue) : Reports Fault' issues := by
  obtain ⟨faults, hissues, hsorted, hmem⟩ := h
  exact ⟨faults, hissues, hsorted, fun x => (hmem x).trans (hiff x.1 x.2)⟩

theorem Reports.eq_nil_iff (h : Reports Fault issues) :
    issues = [] ↔ ∀ place issue, ¬ Fault place issue := by
  obtain ⟨faults, rfl, -, hmem⟩ := h
  rw [List.map_eq_nil_iff, List.eq_nil_iff_forall_not_mem]
  simp only [hmem, Prod.forall]

/-- Faults leave no choice of how to tell them. -/
theorem Reports.unique (h : Reports Fault issues) (h' : Reports Fault issues') : issues = issues' := by
  obtain ⟨faults, rfl, hsorted, hmem⟩ := h
  obtain ⟨faults', rfl, hsorted', hmem'⟩ := h'
  have : Std.Asymm fun x y : List Nat × Issue => List.Lex (· < ·) x.1 y.1 :=
    ⟨fun _ _ hxy hyx => Std.Asymm.asymm _ _ hxy hyx⟩
  rw [hsorted.eq_of_mem_iff hsorted' fun x => (hmem x).trans (hmem' x).symm]

theorem reports_nil (h : ∀ place issue, ¬ Fault place issue) : Reports Fault [] :=
  ⟨[], rfl, .nil, fun x => by simp [h]⟩

/-- One check that finds at most one fault. -/
theorem reports_issueIf {wrong : Bool} {issue : Issue}
    (h : ∀ place i, Fault place i ↔ place = [] ∧ wrong = true ∧ i = issue) :
    Reports Fault (issueIf wrong issue) := by
  cases wrong with
  | false => exact reports_nil fun place i hf => by simpa using (h place i).mp hf
  | true => exact ⟨[([], issue)], rfl, List.pairwise_singleton _ _, fun x => by
      rw [h, List.mem_singleton, Prod.ext_iff]; simp⟩

/-- The check of a name, which is blank or was seen before. -/
theorem reports_name {name : String} {seen : List String} {blank again : Issue}
    (h : ∀ place i, Fault place i ↔ place = [] ∧
      (blankName name = true ∧ i = blank ∨ blankName name = false ∧ name ∈ seen ∧ i = again)) :
    Reports Fault (if blankName name then [blank] else issueIf (seen.contains name) again) := by
  cases hname : blankName name with
  | true =>
      have hissue : Reports Fault (issueIf true blank) := reports_issueIf (by simp [h, hname])
      exact hissue
  | false => exact reports_issueIf (by simp [h, hname])

theorem Reports.append (h : Reports Fault issues) (h' : Reports Fault' issues')
    (hlt : ∀ place issue place' issue', Fault place issue → Fault' place' issue' →
      List.Lex (· < ·) place place') :
    Reports (fun place issue => Fault place issue ∨ Fault' place issue) (issues ++ issues') := by
  obtain ⟨faults, rfl, hsorted, hmem⟩ := h
  obtain ⟨faults', rfl, hsorted', hmem'⟩ := h'
  refine ⟨faults ++ faults', List.map_append, ?_, fun x => by rw [List.mem_append, hmem, hmem']⟩
  refine List.pairwise_append.mpr ⟨hsorted, hsorted', fun x hx y hy => ?_⟩
  exact hlt _ _ _ _ ((hmem x).mp hx) ((hmem' y).mp hy)

/-- The faults of a part are faults of the whole, under the number of the part. -/
theorem Reports.under (h : Reports Fault issues) (n : Nat) :
    Reports (fun place issue => ∃ path, place = n :: path ∧ Fault path issue) issues := by
  obtain ⟨faults, rfl, hsorted, hmem⟩ := h
  refine ⟨faults.map fun x => (n :: x.1, x.2), by simp, ?_, fun x => ?_⟩
  · exact List.pairwise_map.mpr (hsorted.imp .cons)
  · simp only [List.mem_map, hmem, Prod.exists]
    constructor
    · rintro ⟨path, issue, hf, rfl⟩
      exact ⟨path, rfl, hf⟩
    · rintro ⟨path, hpath, hf⟩
      exact ⟨path, x.2, hf, Prod.ext hpath.symm rfl⟩

/-- **One part after the other**: the part with the number `n`, then those with higher numbers. -/
theorem ReportsFrom.step (h : Reports (fun path issue => Fault (n :: path) issue) issues)
    (h' : ReportsFrom (n + 1) Fault issues') : ReportsFrom n Fault (issues ++ issues') := by
  refine ((h.under n).append h' ?_).congr fun place issue => ?_
  · rintro _ issue _ issue' ⟨path, rfl, -⟩ ⟨⟨k, path', hk, rfl⟩, -⟩
    exact .rel hk
  · constructor
    · rintro (⟨path, rfl, hf⟩ | ⟨⟨k, path, hk, rfl⟩, hf⟩)
      · exact ⟨⟨n, path, le_rfl, rfl⟩, hf⟩
      · exact ⟨⟨k, path, by omega, rfl⟩, hf⟩
    · rintro ⟨⟨k, path, hk, rfl⟩, hf⟩
      rcases Nat.eq_or_lt_of_le hk with rfl | hlt
      · exact .inl ⟨path, rfl, hf⟩
      · exact .inr ⟨⟨k, path, hlt, rfl⟩, hf⟩

theorem ReportsFrom.done (h : ∀ k path issue, n ≤ k → ¬ Fault (k :: path) issue) :
    ReportsFrom n Fault [] := by
  refine reports_nil ?_
  rintro _ issue ⟨⟨k, path, hk, rfl⟩, hf⟩
  exact h k path issue hk hf

theorem ReportsFrom.last (h : Reports (fun path issue => Fault (n :: path) issue) issues)
    (hend : ∀ k path issue, n < k → ¬ Fault (k :: path) issue) : ReportsFrom n Fault issues := by
  have hstep : ReportsFrom n Fault (issues ++ []) := .step h (.done hend)
  rwa [List.append_nil] at hstep

theorem ReportsFrom.reports (h : ReportsFrom 0 Fault issues) (hroot : ∀ issue, ¬ Fault [] issue) :
    Reports Fault issues := by
  refine h.congr fun place issue => ⟨And.right, fun hf => ⟨?_, hf⟩⟩
  cases place with
  | nil => exact absurd hf (hroot issue)
  | cons k path => exact ⟨k, path, Nat.zero_le k, rfl⟩

end Reports

/-! ### Names -/

/-- The names that are not blank. -/
def properNames (names : List String) : List String := names.filter fun s => !blankName s

theorem length_properNames_cons (s : String) (names : List String) :
    (properNames (s :: names)).length =
      (properNames names).length + if !blankName s then 1 else 0 := by
  cases hs : blankName s <;> simp [properNames, hs]

/-- A name adds to the distinct ones if it is proper and new. -/
theorem card_properNames_cons (s : String) (names seen : List String) :
    ((properNames (s :: names)).toFinset \ seen.toFinset).card =
      ((properNames names).toFinset \ (s :: seen).toFinset).card +
        if !blankName s && !seen.contains s then 1 else 0 := by
  rw [List.toFinset_cons]
  cases hs : blankName s with
  | true =>
      have hnames : properNames (s :: names) = properNames names := by simp [properNames, hs]
      have hmem : s ∉ (properNames names).toFinset := by simp [properNames, hs]
      rw [hnames, Finset.sdiff_insert_of_notMem hmem]
      rfl
  | false =>
      have hnames : properNames (s :: names) = s :: properNames names := by simp [properNames, hs]
      rw [hnames, List.toFinset_cons]
      by_cases hseen : s ∈ seen
      · have hmem : s ∈ seen.toFinset := List.mem_toFinset.mpr hseen
        rw [Finset.insert_sdiff_of_mem _ hmem, Finset.insert_eq_of_mem hmem]
        simp [hseen]
      · have hmem : s ∉ seen.toFinset := by simpa using hseen
        rw [Finset.insert_sdiff_of_notMem _ hmem, Finset.sdiff_insert, ← Finset.erase_insert_eq_erase,
          ← Finset.card_erase_add_one (Finset.mem_insert_self s _)]
        simp [hseen]

/-! ### Parts with names -/

section InTurn

variable {α : Type} {name : α → String} {issues : List String → α → List Issue}

/-- The issues of parts that have names, in order; `seen` are the names of the parts before. -/
def inTurn (name : α → String) (issues : List String → α → List Issue) (seen : List String) :
    List α → List Issue
  | []      => []
  | x :: xs => issues seen x ++ inTurn name issues (name x :: seen) xs

/-- A fault of one of the parts, which is told whether a part before it has its name. -/
inductive Each (name : α → String) (Fault : Prop → α → List Nat → Issue → Prop) (xs : List α) :
    List Nat → Issue → Prop where
  | part {before after : List α} {x : α} {path : List Nat} {issue : Issue}
      (hxs : xs = before ++ x :: after) (hf : Fault (name x ∈ before.map name) x path issue) :
      Each name Fault xs (before.length :: path) issue

variable {Fault : Prop → α → List Nat → Issue → Prop}

theorem not_each_nil {xs : List α} {issue : Issue} : ¬ Each name Fault xs [] issue := by
  intro h
  cases h

/-- The faults under the number of a part are those of the part. -/
theorem each_iff {before after : List α} {x : α} {path : List Nat} {issue : Issue} :
    Each name Fault (before ++ x :: after) (before.length :: path) issue ↔
      Fault (name x ∈ before.map name) x path issue := by
  constructor
  · intro h
    generalize hxs : before ++ x :: after = xs at h
    generalize hplace : before.length :: path = place at h
    cases h with
    | part hxs' hf =>
        obtain ⟨hlength, rfl⟩ := List.cons.inj hplace
        obtain ⟨rfl, hrest⟩ := List.append_inj (hxs.trans hxs') hlength
        obtain ⟨rfl, -⟩ := List.cons.inj hrest
        exact hf
  · exact .part rfl

/-- **The parts in turn tell their faults**, when each part tells its own. -/
theorem reportsFrom_inTurn (h : ∀ seen x, Reports (Fault (name x ∈ seen) x) (issues seen x))
    {before rest : List α} {seen : List String} (hseen : ∀ s, s ∈ seen ↔ s ∈ before.map name) :
    ReportsFrom before.length (Each name Fault (before ++ rest)) (inTurn name issues seen rest) := by
  induction rest generalizing before seen with
  | nil =>
      refine .done fun k path issue hk hf => ?_
      generalize hplace : k :: path = place at hf
      cases hf with
      | part hxs hf =>
          have hlength := congrArg List.length hxs
          obtain ⟨rfl, -⟩ := List.cons.inj hplace
          simp only [List.length_append, List.length_cons, List.length_nil] at hlength
          omega
  | cons x rest ih =>
      refine .step ((h seen x).congr fun path issue => ?_) ?_
      · rw [each_iff, propext (hseen (name x))]
      · have hstep := @ih (before ++ [x]) (name x :: seen) (by simp [hseen, or_comm])
        simpa using hstep

theorem reports_inTurn (h : ∀ seen x, Reports (Fault (name x ∈ seen) x) (issues seen x))
    (xs : List α) : Reports (Each name Fault xs) (inTurn name issues [] xs) :=
  (@reportsFrom_inTurn _ _ _ _ h [] xs [] (by simp)).reports fun _ => not_each_nil

/-- Names are distinct exactly when none is the name of a part before. -/
theorem nodup_map_iff {xs : List α} : (xs.map name).Nodup ↔
    ∀ before x after, xs = before ++ x :: after → name x ∉ before.map name := by
  constructor
  · rintro h before x after rfl hx
    rw [List.map_append, List.nodup_append] at h
    exact h.2.2 _ hx (name x) (by simp) rfl
  · intro h
    induction xs using List.reverseRecOn with
    | nil => exact List.nodup_nil
    | append_singleton xs x ih =>
        rw [List.map_append, List.map_singleton, ← List.concat_eq_append]
        refine (ih fun before y after hxs => h before y (after ++ [x]) (by simp [hxs])).concat ?_
        exact h xs x [] rfl

/-- Parts have no faults exactly when each of them is right and their names are distinct. -/
theorem not_each_iff {Right : α → Prop} (h : ∀ repeated x,
    (∀ path issue, ¬ Fault repeated x path issue) ↔ Right x ∧ ¬ repeated) {xs : List α} :
    (∀ place issue, ¬ Each name Fault xs place issue) ↔
      (∀ x ∈ xs, Right x) ∧ (xs.map name).Nodup := by
  rw [nodup_map_iff]
  constructor
  · intro hnone
    have hpart : ∀ before x after, xs = before ++ x :: after →
        Right x ∧ name x ∉ before.map name := by
      intro before x after hxs
      exact (h _ x).mp fun path issue hf => hnone _ _ (.part hxs hf)
    refine ⟨fun x hx => ?_, fun before x after hxs => (hpart before x after hxs).2⟩
    obtain ⟨before, after, hxs⟩ := List.append_of_mem hx
    exact (hpart before x after hxs).1
  · rintro ⟨hright, hnames⟩ place issue hf
    cases hf with
    | @part before after x path issue hxs hf =>
        exact (h _ x).mpr ⟨hright x (by simp [hxs]), hnames before x after hxs⟩ path issue hf

/-- The issues of a part stand together. -/
theorem isInfix_inTurn (seen : List String) (before after : List α) (x : α) :
    issues ((before.map name).reverse ++ seen) x <:+:
      inTurn name issues seen (before ++ x :: after) := by
  induction before generalizing seen with
  | nil => exact (List.prefix_append _ _).isInfix
  | cons y before ih =>
      rw [List.map_cons, List.reverse_cons, List.append_assoc]
      exact (ih (name y :: seen)).trans (List.suffix_append _ _).isInfix

/-- **Repeated names and distinct names** make up all proper names, if each part tells one issue of
the kind `p` when its name is proper and was seen before, and none otherwise. -/
theorem countP_inTurn {p : Issue → Bool} (h : ∀ seen x, (issues seen x).countP p =
    if !blankName (name x) && seen.contains (name x) then 1 else 0) (seen : List String) (xs : List α) :
    (inTurn name issues seen xs).countP p +
      ((properNames (xs.map name)).toFinset \ seen.toFinset).card =
      (properNames (xs.map name)).length := by
  induction xs generalizing seen with
  | nil => simp [inTurn, properNames]
  | cons x xs ih =>
      rw [inTurn, List.countP_append, h, List.map_cons, card_properNames_cons,
        length_properNames_cons, ← ih (name x :: seen)]
      generalize ((properNames (xs.map name)).toFinset \ (name x :: seen).toFinset).card = distinct
      cases blankName (name x) <;> cases seen.contains (name x) <;> simp <;> omega

theorem countP_inTurn_eq_zero {p : Issue → Bool} (h : ∀ seen x, (issues seen x).countP p = 0)
    (seen : List String) (xs : List α) : (inTurn name issues seen xs).countP p = 0 := by
  induction xs generalizing seen with
  | nil => rfl
  | cons x xs ih => rw [inTurn, List.countP_append, h, ih]

end InTurn

/-! ### Kinds of issues -/

theorem countP_issueIf (p : Issue → Bool) (wrong : Bool) (issue : Issue) :
    (issueIf wrong issue).countP p = if wrong && p issue then 1 else 0 := by
  cases wrong <;> simp [issueIf]

def Issue.isDuplicateChange : Issue → Bool
  | .clash _ .duplicateChange => true
  | _                         => false

def Issue.isDuplicateRule : Issue → Bool
  | .clash _ (.duplicateRule _) => true
  | _                           => false

/-! ### Rules -/

/-- The text that a transform inserts as lines of its own. -/
def Transform.inserted? : Transform → Option Text
  | .insertBefore t | .insertAfter t             => some t
  | .insertAfterBlock t _ | .insertIntoBlock t _ => some t
  | .replace _ | .replaceCapture _ _             => none

theorem Transform.insertsLines_and_isBlank (t : Transform) :
    (t.insertsLines && Text.isBlank t.text) = true ↔
      ∃ text, t.inserted? = some text ∧ Text.isBlank text = true := by
  cases t <;> simp [insertsLines, Transform.text, inserted?]

namespace RuleDefinition

/-- Everything in the rule is there and goes together. -/
structure WellFormed (r : RuleDefinition) : Prop where
  named   : blankName r.id = false
  anchor  : r.anchor.pattern ≠ ""
  text    : ∀ text, r.transform.inserted? = some text → Text.isBlank text = false
  capture : ∀ name text, r.transform = .replaceCapture name text →
    blankName name = false ∧ r.anchor.kind = .regex

/-- What is wrong with a rule, under the number of the field.  `change` is the name of its change, and
`repeated` says that a rule before it has its name. -/
@[mk_iff]
inductive Fault (change : Option String) (repeated : Prop) (r : RuleDefinition) :
    List Nat → Issue → Prop where
  | blank (h : blankName r.id = true) : Fault change repeated r [0] (.missing change none "rules.id")
  | repeated (hname : blankName r.id = false) (h : repeated) :
      Fault change repeated r [0] (.clash change (.duplicateRule r.id))
  | anchor (h : r.anchor.pattern = "") :
      Fault change repeated r [1] (.missing change (properName? r.id) "rules.anchor.pattern")
  | text {text : Text} (ht : r.transform.inserted? = some text) (h : Text.isBlank text = true) :
      Fault change repeated r [2] (.missing change (properName? r.id) "rules.transform.text")
  | capture {name : String} {text : Text} (ht : r.transform = .replaceCapture name text)
      (h : blankName name = true) :
      Fault change repeated r [3] (.missing change (properName? r.id) "rules.transform.capture")
  | literal {name : String} {text : Text} (ht : r.transform = .replaceCapture name text)
      (h : r.anchor.kind = .literal) :
      Fault change repeated r [4] (.clash change (.captureOfLiteral r.id))

theorem faultless_iff {change : Option String} {repeated : Prop} {r : RuleDefinition} :
    (∀ path issue, ¬ r.Fault change repeated path issue) ↔ r.WellFormed ∧ ¬ repeated := by
  constructor
  · intro h
    have hnamed : blankName r.id = false := Bool.eq_false_iff.mpr fun hb => h _ _ (.blank hb)
    refine ⟨⟨hnamed, fun ha => h _ _ (.anchor ha), fun text ht => ?_, fun name text ht => ⟨?_, ?_⟩⟩,
      fun hr => h _ _ (.repeated hnamed hr)⟩
    · exact Bool.eq_false_iff.mpr fun hb => h _ _ (.text ht hb)
    · exact Bool.eq_false_iff.mpr fun hb => h _ _ (.capture ht hb)
    · cases hk : r.anchor.kind with
      | literal => exact absurd (.literal ht hk) (h _ _)
      | regex => rfl
  · rintro ⟨hr, hrepeated⟩ path issue hf
    cases hf with
    | blank hb => simp [hr.named] at hb
    | repeated _ h => exact hrepeated h
    | anchor ha => exact hr.anchor ha
    | text ht hb => simp [hr.text _ ht] at hb
    | capture ht hb => simp [(hr.capture _ _ ht).1] at hb
    | literal ht hk => simp [(hr.capture _ _ ht).2] at hk

/-- **A rule tells its faults**, field by field. -/
theorem reports_issues (change : Option String) (seen : List String) (r : RuleDefinition) :
    Reports (r.Fault change (r.id ∈ seen)) (r.issues change seen) := by
  simp only [issues, List.append_assoc]
  refine ReportsFrom.reports (.step ?id (.step ?anchor (.step ?text ?transform))) (by simp [fault_iff])
  case id => exact reports_name (by grind [fault_iff])
  case anchor => exact reports_issueIf (by grind [fault_iff, String.isEmpty_iff])
  case text =>
    refine reports_issueIf fun path issue => ?_
    rw [r.transform.insertsLines_and_isBlank]
    grind [fault_iff]
  case transform =>
    split
    · next capture text ht =>
        refine .step (reports_issueIf ?_) (.last (reports_issueIf ?_) ?_)
        · grind [fault_iff]
        · grind [fault_iff]
        · rintro k path issue hk hf
          cases hf <;> omega
    · next hne =>
        refine .done fun k path issue hk hf => ?_
        cases hf with
        | capture ht _ => exact hne _ _ ht
        | literal ht _ => exact hne _ _ ht
        | blank | repeated | anchor | text => omega

theorem countP_isDuplicateRule (change : Option String) (seen : List String) (r : RuleDefinition) :
    (r.issues change seen).countP Issue.isDuplicateRule =
      if !blankName r.id && seen.contains r.id then 1 else 0 := by
  cases hname : blankName r.id <;> cases ht : r.transform <;>
    simp [issues, List.countP_append, countP_issueIf, Issue.isDuplicateRule, hname, ht]

theorem countP_isDuplicateChange (change : Option String) (seen : List String) (r : RuleDefinition) :
    (r.issues change seen).countP Issue.isDuplicateChange = 0 := by
  cases hname : blankName r.id <;> cases ht : r.transform <;>
    simp [issues, List.countP_append, countP_issueIf, Issue.isDuplicateChange, hname, ht]

theorem allIssues_eq (change : Option String) (seen : List String) (rs : List RuleDefinition) :
    allIssues change seen rs = inTurn (·.id) (fun seen r => r.issues change seen) seen rs := by
  induction rs generalizing seen with
  | nil => rfl
  | cons r rs ih => rw [allIssues, inTurn, ih]

end RuleDefinition

/-! ### Changes -/

namespace ChangeDefinition

/-- Everything in the change is there, and its rules are well-formed and have names of their own. -/
structure WellFormed (c : ChangeDefinition) : Prop where
  named      : blankName c.id = false
  identifier : c.marker.identifier.pattern ≠ ""
  context    : ∀ p ∈ c.marker.context, p.pattern ≠ ""
  scope      : ∀ p, c.marker.scope = some p → p.pattern ≠ ""
  nonempty   : c.rules ≠ []
  rules      : ∀ r ∈ c.rules, r.WellFormed
  distinct   : (c.rules.map (·.id)).Nodup

/-- What is wrong with a change, under the number of the field; `repeated` says that a change before
it has its name. -/
@[mk_iff]
inductive Fault (repeated : Prop) (c : ChangeDefinition) : List Nat → Issue → Prop where
  | blank (h : blankName c.id = true) : Fault repeated c [0] (.missing none none "id")
  | repeated (hname : blankName c.id = false) (h : repeated) :
      Fault repeated c [0] (.clash (properName? c.id) .duplicateChange)
  | identifier (h : c.marker.identifier.pattern = "") :
      Fault repeated c [1] (.missing (properName? c.id) none "marker.identifier.pattern")
  | context (h : ∃ p ∈ c.marker.context, p.pattern = "") :
      Fault repeated c [2] (.missing (properName? c.id) none "marker.context.pattern")
  | scope (h : ∃ p, c.marker.scope = some p ∧ p.pattern = "") :
      Fault repeated c [3] (.missing (properName? c.id) none "marker.scope.pattern")
  | noRules (h : c.rules = []) : Fault repeated c [4] (.clash (properName? c.id) .noRules)
  | rule {path : List Nat} {issue : Issue}
      (h : Each (·.id) (fun repeated r => r.Fault (properName? c.id) repeated) c.rules path issue) :
      Fault repeated c (5 :: path) issue

theorem faultless_iff {repeated : Prop} {c : ChangeDefinition} :
    (∀ path issue, ¬ c.Fault repeated path issue) ↔ c.WellFormed ∧ ¬ repeated := by
  have hrules := @not_each_iff _ (fun r : RuleDefinition => r.id) _ _
    (fun repeated r => @RuleDefinition.faultless_iff (properName? c.id) repeated r) c.rules
  constructor
  · intro h
    have hnamed : blankName c.id = false := Bool.eq_false_iff.mpr fun hb => h _ _ (.blank hb)
    obtain ⟨hright, hdistinct⟩ := hrules.mp fun path issue hf => h _ _ (.rule hf)
    exact ⟨⟨hnamed, fun he => h _ _ (.identifier he), fun p hp he => h _ _ (.context ⟨p, hp, he⟩),
      fun p hp he => h _ _ (.scope ⟨p, hp, he⟩), fun he => h _ _ (.noRules he), hright, hdistinct⟩,
      fun hr => h _ _ (.repeated hnamed hr)⟩
  · rintro ⟨hc, hrepeated⟩ path issue hf
    cases hf with
    | blank hb => simp [hc.named] at hb
    | repeated _ h => exact hrepeated h
    | identifier he => exact hc.identifier he
    | context he =>
        obtain ⟨p, hp, he⟩ := he
        exact hc.context p hp he
    | scope he =>
        obtain ⟨p, hp, he⟩ := he
        exact hc.scope p hp he
    | noRules he => exact hc.nonempty he
    | rule hf => exact hrules.mpr ⟨hc.rules, hc.distinct⟩ _ _ hf

/-- **A change tells its faults**, field by field and rule by rule. -/
theorem reports_issues (seen : List String) (c : ChangeDefinition) :
    Reports (c.Fault (c.id ∈ seen)) (c.issues seen) := by
  simp only [issues, List.append_assoc, RuleDefinition.allIssues_eq]
  refine ReportsFrom.reports (.step ?id (.step ?identifier (.step ?context (.step ?scope
    (.step ?noRules (.last ?rules ?more)))))) (by simp [fault_iff])
  case id => exact reports_name (by grind [fault_iff])
  case identifier => exact reports_issueIf (by grind [fault_iff, String.isEmpty_iff])
  case context => exact reports_issueIf (by grind [fault_iff, String.isEmpty_iff])
  case scope => exact reports_issueIf (by grind [fault_iff, String.isEmpty_iff, Option.any_eq_true])
  case noRules => exact reports_issueIf (by grind [fault_iff])
  case rules =>
    refine (reports_inTurn (RuleDefinition.reports_issues (properName? c.id)) c.rules).congr ?_
    simp [fault_iff]
  case more =>
    intro k path issue hk hf
    cases hf <;> omega

theorem countP_isDuplicateChange (seen : List String) (c : ChangeDefinition) :
    (c.issues seen).countP Issue.isDuplicateChange =
      if !blankName c.id && seen.contains c.id then 1 else 0 := by
  have hrules := @countP_inTurn_eq_zero _ (fun r : RuleDefinition => r.id) _ _
    (RuleDefinition.countP_isDuplicateChange (properName? c.id)) [] c.rules
  cases hname : blankName c.id <;>
    simp [issues, countP_issueIf, Issue.isDuplicateChange, hname, RuleDefinition.allIssues_eq, hrules]

/-- Names of rules that are told twice and distinct ones make up all. -/
theorem countP_isDuplicateRule (seen : List String) (c : ChangeDefinition) :
    (c.issues seen).countP Issue.isDuplicateRule + (properNames (c.rules.map (·.id))).toFinset.card =
      (properNames (c.rules.map (·.id))).length := by
  have hrules := @countP_inTurn _ (fun r : RuleDefinition => r.id) _ _
    (RuleDefinition.countP_isDuplicateRule (properName? c.id)) [] c.rules
  rw [List.toFinset_nil, Finset.sdiff_empty] at hrules
  rw [← hrules]
  cases hname : blankName c.id <;>
    simp [issues, countP_issueIf, Issue.isDuplicateRule, hname, RuleDefinition.allIssues_eq]

theorem allIssues_eq (seen : List String) (cs : List ChangeDefinition) :
    allIssues seen cs = inTurn (·.id) issues seen cs := by
  induction cs generalizing seen with
  | nil => rfl
  | cons c cs ih => rw [allIssues, inTurn, ih]

end ChangeDefinition

/-! ### Definitions -/

namespace Definition

/-- There are changes, all of them well-formed, and they have names of their own. -/
structure WellFormed (d : Definition) : Prop where
  nonempty : d.changes ≠ []
  changes  : ∀ c ∈ d.changes, c.WellFormed
  distinct : (d.changes.map (·.id)).Nodup

/-- What is wrong with a definition, under the number of the change. -/
@[mk_iff]
inductive Fault (d : Definition) : List Nat → Issue → Prop where
  | noChanges (h : d.changes = []) : Fault d [] .noChanges
  | change {place : List Nat} {issue : Issue}
      (h : Each (·.id) ChangeDefinition.Fault d.changes place issue) : Fault d place issue

theorem faultless_iff {d : Definition} :
    (∀ place issue, ¬ d.Fault place issue) ↔ d.WellFormed := by
  have hchanges := @not_each_iff _ (fun c : ChangeDefinition => c.id) _ _
    (fun repeated c => @ChangeDefinition.faultless_iff repeated c) d.changes
  constructor
  · intro h
    obtain ⟨hright, hdistinct⟩ := hchanges.mp fun place issue hf => h _ _ (.change hf)
    exact ⟨fun he => h _ _ (.noChanges he), hright, hdistinct⟩
  · intro hd place issue hf
    cases hf with
    | noChanges he => exact hd.nonempty he
    | change hf => exact hchanges.mpr ⟨hd.changes, hd.distinct⟩ _ _ hf

/-- **The issues tell the faults**, in the order of the document. -/
theorem reports_issues (d : Definition) : Reports d.Fault d.issues := by
  have hroot : Reports (fun place issue => place = [] ∧ d.changes.isEmpty = true ∧ issue = .noChanges)
      (issueIf d.changes.isEmpty .noChanges) := reports_issueIf fun _ _ => Iff.rfl
  rw [issues, ChangeDefinition.allIssues_eq]
  refine (hroot.append (reports_inTurn ChangeDefinition.reports_issues d.changes) ?_).congr ?_
  · rintro _ issue _ issue' ⟨rfl, -, -⟩ hf
    cases hf with
    | part _ _ => exact .nil
  · grind [fault_iff]

/-- **The issues of a definition.**  There are none exactly in well-formed definitions.  They tell the
faults of the definition and nothing else, each of them once and in the order of the document, and no
other list does.  The duplicate names of changes that they tell and the distinct names make up all
names that are not blank.  So do the duplicate names of rules and the distinct ones in each change,
whose issues stand together. -/
theorem issues_exact (d : Definition) :
    (d.issues = [] ↔ d.WellFormed) ∧
    (∀ issues, Reports d.Fault issues ↔ issues = d.issues) ∧
    d.issues.countP Issue.isDuplicateChange + (properNames (d.changes.map (·.id))).toFinset.card =
      (properNames (d.changes.map (·.id))).length ∧
    ∀ before c after, d.changes = before ++ c :: after →
      ∃ part, part <:+: d.issues ∧
        Reports (fun path issue => d.Fault (before.length :: path) issue) part ∧
        part.countP Issue.isDuplicateRule + (properNames (c.rules.map (·.id))).toFinset.card =
          (properNames (c.rules.map (·.id))).length := by
  have hreports := d.reports_issues
  refine ⟨hreports.eq_nil_iff.trans faultless_iff, fun issues => ?_, ?_, ?_⟩
  · constructor
    · exact fun h => h.unique hreports
    · rintro rfl
      exact hreports
  · have hnames := @countP_inTurn _ (fun c : ChangeDefinition => c.id) _ _
      ChangeDefinition.countP_isDuplicateChange [] d.changes
    rw [List.toFinset_nil, Finset.sdiff_empty] at hnames
    rw [← hnames, issues, ChangeDefinition.allIssues_eq, List.countP_append, countP_issueIf]
    simp [Issue.isDuplicateChange]
  · intro before c after hchanges
    let seen := (before.map fun c : ChangeDefinition => c.id).reverse
    refine ⟨c.issues seen, ?_, ?_, c.countP_isDuplicateRule seen⟩
    · have hpart := @isInfix_inTurn _ (fun c : ChangeDefinition => c.id) ChangeDefinition.issues []
        before after c
      rw [List.append_nil, ← hchanges, ← ChangeDefinition.allIssues_eq] at hpart
      exact hpart.trans (List.suffix_append _ _).isInfix
    · refine (ChangeDefinition.reports_issues seen c).congr fun path issue => ?_
      have hpart := @each_iff _ (fun c : ChangeDefinition => c.id) ChangeDefinition.Fault before after c
        path issue
      rw [fault_iff, hchanges, hpart]
      simp [seen]

/-- Two changes of one name, the first with two rules of one name and the second with none. -/
def twiceNamed : Definition where
  metadata := {}
  changes  :=
    [⟨"a", none, ⟨⟨.literal, "m", .other⟩, [], 0, none⟩,
       [⟨"x", ⟨.literal, "p", .other⟩, 0, false, .replace []⟩,
        ⟨"x", ⟨.literal, "q", .other⟩, 0, false, .replace []⟩]⟩,
     ⟨"a", none, ⟨⟨.literal, "n", .other⟩, [], 0, none⟩, []⟩]

theorem issues_exact_twiceNamed :
    let d := twiceNamed
    d.issues = [.clash (some "a") (.duplicateRule "x"), .clash (some "a") .duplicateChange,
      .clash (some "a") .noRules] ∧
    ¬ d.WellFormed ∧ Reports d.Fault d.issues ∧
    d.issues.countP Issue.isDuplicateChange + 1 = 2 ∧
    ∃ part, part <:+: d.issues ∧ Reports (fun path issue => d.Fault (0 :: path) issue) part ∧
      part.countP Issue.isDuplicateRule + 1 = 2 := by
  intro d
  have hissues : d.issues = [.clash (some "a") (.duplicateRule "x"),
      .clash (some "a") .duplicateChange, .clash (some "a") .noRules] := by cbv
  have hnames : ∀ s ∈ ["a", "x"], (properNames [s, s]).toFinset.card = 1 ∧
      (properNames [s, s]).length = 2 := by decide
  obtain ⟨hnil, hreports, hchanges, hrules⟩ := issues_exact d
  obtain ⟨part, hpart, hfaults, hcount⟩ := hrules [] _ _ rfl
  obtain ⟨hcard, hlength⟩ := hnames "x" (by simp)
  obtain ⟨hcard', hlength'⟩ := hnames "a" (by simp)
  refine ⟨hissues, fun h => ?_, (hreports _).mpr rfl, ?_, part, hpart, hfaults, ?_⟩
  · rw [hnil.mpr h] at hissues
    cases hissues
  · rw [← hcard', ← hlength']
    exact hchanges
  · rw [← hcard, ← hlength]
    exact hcount

end Definition

end Graft
