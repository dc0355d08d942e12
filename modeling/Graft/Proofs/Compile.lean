import Graft.Proofs.Effects
import Graft.RuleFile

/-!
# What compiling a rule file reports

Compiling goes through the changes in their order, in each change through the patterns of its marker
and then through its rules, and stops at the first part that cannot be used.

* `mapM_eq_error_iff`: going through a list fails with the failure of the first member that fails.
* `MarkerDefinition.compile_eq_error_iff`, `RuleDefinition.compile_eq_error_iff`,
  `ChangeDefinition.compile_eq_error_iff`: what makes each part fail, and with which cause.
* `RuleDefinition.checkAll_compiled`: rules that were compiled pass the check of their groups again.
* `ofDefinition_first_failure`: so the failure of a rule file is that of its first failing change.
  A definition without issues never fails for an empty pattern or for a group of a literal.
-/

namespace Graft

/-! ### First failures -/

section

variable {ε ε' α β : Type}

/-- `x` is the first member of the list that fails, and it fails with `e`. -/
def FirstFailing (Fails : α → ε → Prop) (xs : List α) (x : α) (e : ε) : Prop :=
  ∃ before after, xs = before ++ x :: after ∧ (∀ y ∈ before, ∀ e', ¬ Fails y e') ∧ Fails x e

theorem not_firstFailing_nil {Fails : α → ε → Prop} {x : α} {e : ε} :
    ¬ FirstFailing Fails [] x e := by
  rintro ⟨before, after, h, -⟩
  simp at h

theorem firstFailing_cons {Fails : α → ε → Prop} {x y : α} {xs : List α} {e : ε} :
    FirstFailing Fails (y :: xs) x e ↔
      (x = y ∧ Fails y e) ∨ ((∀ e', ¬ Fails y e') ∧ FirstFailing Fails xs x e) := by
  constructor
  · rintro ⟨before, after, h, hbefore, hx⟩
    cases before with
    | nil =>
        cases h
        exact .inl ⟨rfl, hx⟩
    | cons z before =>
        cases h
        obtain ⟨hy, hbefore⟩ := List.forall_mem_cons.mp hbefore
        exact .inr ⟨hy, before, after, rfl, hbefore, hx⟩
  · rintro (⟨rfl, hx⟩ | ⟨hy, before, after, rfl, hbefore, hx⟩)
    · exact ⟨[], xs, rfl, by simp, hx⟩
    · exact ⟨y :: before, after, rfl, List.forall_mem_cons.mpr ⟨hy, hbefore⟩, hx⟩

theorem FirstFailing.mem_and_fails {Fails : α → ε → Prop} {xs : List α} {x : α} {e : ε}
    (h : FirstFailing Fails xs x e) : x ∈ xs ∧ Fails x e := by
  obtain ⟨before, after, rfl, -, hx⟩ := h
  exact ⟨by simp, hx⟩

/-- **Going through a list** fails with the failure of the first member that fails; `tell` is how a
failure is told. -/
theorem mapM_eq_error_iff (tell : α → ε → ε') {Fails : α → ε → Prop} {f : α → Except ε' β}
    (hf : ∀ x e', f x = .error e' ↔ ∃ e, Fails x e ∧ e' = tell x e) {xs : List α} {e' : ε'} :
    xs.mapM f = .error e' ↔ ∃ x e, FirstFailing Fails xs x e ∧ e' = tell x e := by
  induction xs with
  | nil => simp [not_firstFailing_nil, pure, Except.pure]
  | cons y xs ih =>
      rw [List.mapM_cons]
      simp only [firstFailing_cons]
      cases hy : f y with
      | error e₁ =>
          constructor
          · intro h
            cases h
            obtain ⟨e, hfails, he⟩ := (hf y e').mp hy
            exact ⟨y, e, .inl ⟨rfl, hfails⟩, he⟩
          · rintro ⟨x, e, ⟨rfl, hfails⟩ | ⟨hsound, -⟩, rfl⟩
            · rw [(hf x _).mpr ⟨e, hfails, rfl⟩] at hy
              cases hy
              rfl
            · obtain ⟨e₀, hfails, -⟩ := (hf y e₁).mp hy
              exact absurd hfails (hsound e₀)
      | ok b =>
          have hsound : ∀ e, ¬ Fails y e := by
            intro e hfails
            rw [(hf y _).mpr ⟨e, hfails, rfl⟩] at hy
            cases hy
          have hrest : (xs.mapM f >>= fun bs => pure (b :: bs)) = .error e' ↔
              xs.mapM f = .error e' := by
            cases xs.mapM f <;> simp [bind, Except.bind, pure, Except.pure]
          refine hrest.trans (ih.trans ?_)
          constructor
          · rintro ⟨x, e, hfirst, rfl⟩
            exact ⟨x, e, .inr ⟨hsound, hfirst⟩, rfl⟩
          · rintro ⟨x, e, ⟨rfl, hfails⟩ | ⟨-, hfirst⟩, rfl⟩
            · exact absurd hfails (hsound e)
            · exact ⟨x, e, hfirst, rfl⟩

theorem mapM_eq_ok_iff {f : α → Except ε β} {xs : List α} {ys : List β} :
    xs.mapM f = .ok ys ↔ List.Forall₂ (fun x y => f x = .ok y) xs ys := by
  induction xs generalizing ys with
  | nil => simp [pure, Except.pure, eq_comm]
  | cons x xs ih =>
      rw [List.mapM_cons, List.forall₂_cons_left_iff]
      cases hx : f x with
      | error e => simp [bind, Except.bind]
      | ok b =>
          cases hxs : xs.mapM f with
          | error e =>
              simp only [hxs, reduceCtorEq, false_iff] at ih
              simp [bind, Except.bind, ih]
          | ok bs =>
              simp only [hxs, Except.ok.injEq] at ih
              simp [bind, Except.bind, pure, Except.pure, ← ih, eq_comm]

end

/-! ### Patterns and markers -/

namespace PatternDefinition

/-- The pattern cannot be used, for this cause. -/
def Fails (p : PatternDefinition) (why : AnchorError) : Prop := p.compile = .error why

/-- What a pattern fails for: it is empty, or its regular expression is not well-formed or matches
the empty text. -/
theorem fails_cases {p : PatternDefinition} {why : AnchorError} (h : p.Fails why) :
    (why = .empty ∧ p.pattern = "") ∨ (∃ source e, why = .malformed source e) ∨
      ∃ source, why = .matchesEmpty source := by
  have hempty : p.pattern.toList.isEmpty = true → p.pattern = "" := by simp
  unfold Fails compile at h
  cases hk : p.kind with
  | literal =>
      simp only [hk, Anchor.literal, Anchor.ofPattern] at h
      split_ifs at h with he
      cases h
      exact .inl ⟨rfl, hempty he⟩
  | regex =>
      simp only [hk, Anchor.regex] at h
      split_ifs at h with he
      · cases h
        exact .inl ⟨rfl, hempty he⟩
      · split at h
        · cases h
          exact .inr (.inl ⟨_, _, rfl⟩)
        · rw [Anchor.ofPattern] at h
          split_ifs at h
          cases h
          exact .inr (.inr ⟨_, rfl⟩)

/-- The anchor of a regular expression is one. -/
theorem regex_of_compile {p : PatternDefinition} {a : Anchor} (hk : p.kind = .regex)
    (h : p.compile = .ok a) : ∃ r, a.pattern = .regex r := by
  simp only [compile, hk, Anchor.regex] at h
  split_ifs at h
  split at h
  · cases h
  · next r _ =>
      rw [Anchor.ofPattern] at h
      split_ifs at h
      cases h
      exact ⟨r, rfl⟩

end PatternDefinition

namespace MarkerDefinition

/-- The patterns of a marker in the order they are read. -/
def patterns (m : MarkerDefinition) : List PatternDefinition :=
  m.identifier :: m.context ++ m.scope.toList

/-- Some pattern of the marker fails, and the first one for this cause. -/
def Fails (m : MarkerDefinition) (why : AnchorError) : Prop :=
  ∃ p, FirstFailing PatternDefinition.Fails m.patterns p why

/-- **A marker fails** with its first failing pattern. -/
theorem compile_eq_error_iff {m : MarkerDefinition} {why : AnchorError} :
    m.compile = .error why ↔ m.Fails why := by
  have hall : m.patterns.mapM PatternDefinition.compile = .error why ↔ m.Fails why := by
    have hpattern : ∀ p e, PatternDefinition.compile p = .error e ↔
        ∃ e₀, PatternDefinition.Fails p e₀ ∧ e = e₀ := by
      simp [PatternDefinition.Fails]
    rw [mapM_eq_error_iff (fun _ e => e) hpattern]
    simp [Fails]
  rw [← hall, compile, patterns, List.cons_append, List.mapM_cons, List.mapM_append]
  cases m.identifier.compile with
  | error e => simp [bind, Except.bind]
  | ok identifier =>
      cases m.context.mapM PatternDefinition.compile with
      | error e => simp [bind, Except.bind]
      | ok context =>
          cases m.scope with
          | none => simp [bind, Except.bind, pure, Except.pure]
          | some scope =>
              cases hs : scope.compile <;>
                simp [hs, Option.mapM, bind, Except.bind, pure, Except.pure, Functor.map, Except.map]

end MarkerDefinition

/-! ### Rules -/

namespace RuleDefinition

/-- The rule of a definition whose anchor has been read. -/
def toRule (r : RuleDefinition) (a : Anchor) : Rule :=
  ⟨r.id, a, r.contextLines, r.matchIndent, r.transform⟩

/-- Why a rule cannot be used: its anchor cannot, or it refers to a group that its anchor does not
have. -/
inductive Fails (r : RuleDefinition) : AnchorError → Prop where
  | anchor {why : AnchorError} (h : r.anchor.Fails why) : Fails r why
  | capture {a : Anchor} {name : String} {text : Text} {why : AnchorError}
      (ha : r.anchor.compile = .ok a) (ht : r.transform = .replaceCapture name text)
      (hc : a.requireCapture name = .error why) : Fails r why

theorem check_toRule_eq_error_iff {r : RuleDefinition} {a : Anchor} {why : AnchorError} :
    (r.toRule a).check = .error why ↔
      ∃ name text, r.transform = .replaceCapture name text ∧ a.requireCapture name = .error why := by
  rw [Rule.check, toRule]
  cases r.transform <;> simp

/-- **A rule fails** with its anchor, or else with the check of its group. -/
theorem compile_eq_error_iff {r : RuleDefinition} {why : AnchorError} :
    r.compile = .error why ↔ r.Fails why := by
  have hcompile : r.compile =
      r.anchor.compile.bind fun a => (r.toRule a).check.bind fun _ => .ok (r.toRule a) := rfl
  rw [hcompile]
  constructor
  · intro h
    cases ha : r.anchor.compile with
    | error e =>
        rw [ha] at h
        cases h
        exact .anchor ha
    | ok a =>
        cases hcheck : (r.toRule a).check with
        | error e =>
            simp only [ha, hcheck, Except.bind] at h
            cases h
            obtain ⟨name, text, ht, hc⟩ := check_toRule_eq_error_iff.mp hcheck
            exact .capture ha ht hc
        | ok u =>
            simp only [ha, hcheck, Except.bind] at h
            cases h
  · intro h
    cases h with
    | anchor h =>
        rw [show r.anchor.compile = _ from h]
        rfl
    | capture ha ht hc =>
        rw [ha]
        simp only [Except.bind, check_toRule_eq_error_iff.mpr ⟨_, _, ht, hc⟩]

/-- A rule that was compiled has the name of its definition, and passes its check. -/
theorem of_compile {r : RuleDefinition} {rule : Rule} (h : r.compile = .ok rule) :
    rule.id = r.id ∧ rule.check = .ok () := by
  have hcompile : r.compile =
      r.anchor.compile.bind fun a => (r.toRule a).check.bind fun _ => .ok (r.toRule a) := rfl
  rw [hcompile] at h
  cases ha : r.anchor.compile with
  | error e => rw [ha] at h; cases h
  | ok a =>
      cases hcheck : (r.toRule a).check with
      | error e => simp only [ha, hcheck, Except.bind] at h; cases h
      | ok u =>
          simp only [ha, hcheck, Except.bind] at h
          cases h
          exact ⟨rfl, hcheck⟩

theorem checkAll_compiled {rs : List RuleDefinition} {rules : List Rule}
    (h : List.Forall₂ (fun r rule => r.compile = .ok rule) rs rules) :
    Rule.checkAll rules = .ok () := by
  induction h with
  | nil => rfl
  | cons hr _ ih =>
      rw [Rule.checkAll, (of_compile hr).2]
      exact ih

theorem map_id_compiled {rs : List RuleDefinition} {rules : List Rule}
    (h : List.Forall₂ (fun r rule => r.compile = .ok rule) rs rules) :
    rules.map (·.id) = rs.map (·.id) := by
  induction h with
  | nil => rfl
  | cons hr _ ih => rw [List.map_cons, List.map_cons, (of_compile hr).1, ih]

end RuleDefinition

/-! ### Changes -/

/-- The name of a change and the names of its rules, in order. -/
def Change.outline (c : Change) : String × List String := (c.id, c.rules.map (·.id))

namespace ChangeDefinition

/-- The name of a change and the names of its rules, as they are written. -/
def outline (c : ChangeDefinition) : String × List String := (c.id, c.rules.map (·.id))

/-- Why a change cannot be used: its marker cannot, or else its first failing rule cannot. -/
inductive Fails (c : ChangeDefinition) : CompileFailure → Prop where
  | marker {why : AnchorError} (h : c.marker.Fails why) : Fails c ⟨c.id, none, why⟩
  | rule {r : RuleDefinition} {why : AnchorError} (hm : ∀ e, ¬ c.marker.Fails e)
      (hr : FirstFailing RuleDefinition.Fails c.rules r why) : Fails c ⟨c.id, some r.id, why⟩

theorem compileRules_eq_error_iff {c : ChangeDefinition} {f : CompileFailure} :
    c.rules.mapM c.compileRule = .error f ↔
      ∃ r why, FirstFailing RuleDefinition.Fails c.rules r why ∧ f = ⟨c.id, some r.id, why⟩ := by
  refine mapM_eq_error_iff (fun (r : RuleDefinition) why => CompileFailure.mk c.id (some r.id) why)
    fun r f => ?_
  simp only [compileRule, ← RuleDefinition.compile_eq_error_iff]
  cases r.compile <;> simp [Except.mapError, eq_comm]

theorem compileRules_eq_ok_iff {c : ChangeDefinition} {rules : List Rule} :
    c.rules.mapM c.compileRule = .ok rules ↔
      List.Forall₂ (fun r rule => r.compile = .ok rule) c.rules rules := by
  rw [mapM_eq_ok_iff]
  have hrule : ∀ r rule, c.compileRule r = .ok rule ↔ r.compile = .ok rule := by
    intro r rule
    rw [compileRule]
    cases r.compile <;> simp [Except.mapError]
  simp only [hrule]

/-- **Rules that were compiled pass the check of their change**: it never fails after them. -/
theorem ofRules_compiled {c : ChangeDefinition} {rules : List Rule}
    (h : c.rules.mapM c.compileRule = .ok rules) (marker : Marker) :
    Change.ofRules c.id marker rules = .ok ⟨c.id, marker, rules⟩ := by
  rw [Change.ofRules, RuleDefinition.checkAll_compiled (compileRules_eq_ok_iff.mp h)]
  rfl

/-- How a change is compiled: the check of its rules is left out, for it never fails. -/
theorem compile_eq (c : ChangeDefinition) :
    c.compile = match c.marker.compile with
      | .error why => .error ⟨c.id, none, why⟩
      | .ok marker => (c.rules.mapM c.compileRule).map fun rules => ⟨c.id, marker, rules⟩ := by
  unfold compile
  cases c.marker.compile with
  | error why => rfl
  | ok marker =>
      cases hrules : c.rules.mapM c.compileRule with
      | error f => rfl
      | ok rules =>
          simp only [bind, Except.bind, Except.mapError, ofRules_compiled hrules marker, Except.map]

/-- **A change fails** with its marker, or else with its first failing rule. -/
theorem compile_eq_error_iff {c : ChangeDefinition} {f : CompileFailure} :
    c.compile = .error f ↔ c.Fails f := by
  rw [compile_eq]
  cases hm : c.marker.compile with
  | error why =>
      have hfails := MarkerDefinition.compile_eq_error_iff.mp hm
      constructor
      · intro h
        cases h
        exact .marker hfails
      · intro h
        cases h with
        | marker h =>
            rw [MarkerDefinition.compile_eq_error_iff.mpr h] at hm
            cases hm
            rfl
        | rule hsound _ => exact absurd hfails (hsound why)
  | ok marker =>
      have hsound : ∀ e, ¬ c.marker.Fails e := by
        intro e h
        rw [MarkerDefinition.compile_eq_error_iff.mpr h] at hm
        cases hm
      have hmap : (c.rules.mapM c.compileRule).map (fun rules => (⟨c.id, marker, rules⟩ : Change))
          = .error f ↔ c.rules.mapM c.compileRule = .error f := by
        cases c.rules.mapM c.compileRule <;> simp [Except.map]
      refine hmap.trans (compileRules_eq_error_iff.trans ?_)
      constructor
      · rintro ⟨r, why, hfirst, rfl⟩
        exact .rule hsound hfirst
      · intro h
        cases h with
        | marker h => exact absurd h (hsound _)
        | rule _ hfirst => exact ⟨_, _, hfirst, rfl⟩

/-- A failure names no rule exactly when it is the marker that fails. -/
theorem Fails.rule_eq_none_iff {c : ChangeDefinition} {f : CompileFailure} (h : c.Fails f) :
    f.rule = none ↔ ∃ why, c.marker.Fails why := by
  cases h with
  | marker h => exact ⟨fun _ => ⟨_, h⟩, fun _ => rfl⟩
  | rule hsound _ => exact ⟨nofun, fun ⟨why, h⟩ => absurd h (hsound why)⟩

theorem outline_of_compile {c : ChangeDefinition} {change : Change} (h : c.compile = .ok change) :
    change.outline = c.outline := by
  rw [compile_eq] at h
  split at h
  · cases h
  · cases hrules : c.rules.mapM c.compileRule with
    | error f => rw [hrules] at h; cases h
    | ok rules =>
        rw [hrules] at h
        cases h
        exact Prod.ext rfl (RuleDefinition.map_id_compiled (compileRules_eq_ok_iff.mp hrules))

theorem outline_compiled {cs : List ChangeDefinition} {changes : List Change}
    (h : List.Forall₂ (fun c change => c.compile = .ok change) cs changes) :
    changes.map Change.outline = cs.map outline := by
  induction h with
  | nil => rfl
  | cons hc _ ih => rw [List.map_cons, List.map_cons, outline_of_compile hc, ih]

end ChangeDefinition

/-! ### Definitions without issues -/

theorem issueIf_eq_nil_iff {wrong : Bool} {issue : Issue} :
    issueIf wrong issue = [] ↔ wrong = false := by
  cases wrong <;> simp [issueIf]

namespace RuleDefinition

/-- A rule without issues has a pattern, and takes groups of regular expressions only. -/
theorem sound_of_issues {change : Option String} {seen : List String} {r : RuleDefinition}
    (h : r.issues change seen = []) :
    r.anchor.pattern ≠ "" ∧
      ∀ name text, r.transform = .replaceCapture name text → r.anchor.kind = .regex := by
  simp only [issues, List.append_eq_nil_iff, issueIf_eq_nil_iff] at h
  obtain ⟨⟨⟨-, hpattern⟩, -⟩, hcapture⟩ := h
  refine ⟨by simpa using hpattern, fun name text ht => ?_⟩
  simp only [ht, List.append_eq_nil_iff, issueIf_eq_nil_iff] at hcapture
  cases hk : r.anchor.kind with
  | literal => simp [hk] at hcapture
  | regex => rfl

theorem issues_of_mem {change : Option String} {seen : List String} {rs : List RuleDefinition}
    {r : RuleDefinition} (h : allIssues change seen rs = []) (hr : r ∈ rs) :
    ∃ seen', r.issues change seen' = [] := by
  induction rs generalizing seen with
  | nil => cases hr
  | cons q rs ih =>
      rw [allIssues, List.append_eq_nil_iff] at h
      rcases List.mem_cons.mp hr with rfl | hr
      · exact ⟨seen, h.1⟩
      · exact ih h.2 hr

/-- A rule that has no issues fails neither for an empty pattern nor for a group of a literal. -/
theorem Fails.unforeseen {r : RuleDefinition} {why : AnchorError} (hpattern : r.anchor.pattern ≠ "")
    (hcapture : ∀ name text, r.transform = .replaceCapture name text → r.anchor.kind = .regex)
    (h : r.Fails why) : why ≠ .empty ∧ ∀ name needle, why ≠ .literalCapture name needle := by
  cases h with
  | anchor h =>
      rcases PatternDefinition.fails_cases h with ⟨-, he⟩ | ⟨source, e, rfl⟩ | ⟨source, rfl⟩
      · exact absurd he hpattern
      · simp
      · simp
  | capture ha ht hc =>
      obtain ⟨regex, hregex⟩ := PatternDefinition.regex_of_compile (hcapture _ _ ht) ha
      simp only [Anchor.requireCapture, hregex] at hc
      split_ifs at hc
      all_goals
        cases hc
        simp

end RuleDefinition

namespace ChangeDefinition

theorem issues_of_mem {seen : List String} {cs : List ChangeDefinition} {c : ChangeDefinition}
    (h : allIssues seen cs = []) (hc : c ∈ cs) : ∃ seen', c.issues seen' = [] := by
  induction cs generalizing seen with
  | nil => cases hc
  | cons b cs ih =>
      rw [allIssues, List.append_eq_nil_iff] at h
      rcases List.mem_cons.mp hc with rfl | hc
      · exact ⟨seen, h.1⟩
      · exact ih h.2 hc

/-- A change without issues has all its patterns, and rules without issues. -/
theorem sound_of_issues {seen : List String} {c : ChangeDefinition} (h : c.issues seen = []) :
    (∀ p ∈ c.marker.patterns, p.pattern ≠ "") ∧
      ∀ r ∈ c.rules, ∃ seen', r.issues (properName? c.id) seen' = [] := by
  simp only [issues, List.append_eq_nil_iff, issueIf_eq_nil_iff] at h
  obtain ⟨⟨⟨⟨⟨-, hidentifier⟩, hcontext⟩, hscope⟩, -⟩, hrules⟩ := h
  refine ⟨fun p hp => ?_, fun r hr => RuleDefinition.issues_of_mem hrules hr⟩
  rcases List.mem_append.mp hp with hp | hp
  · rcases List.mem_cons.mp hp with rfl | hp
    · simpa using hidentifier
    · simpa using List.any_eq_false.mp hcontext p hp
  · simpa [Option.mem_toList.mp hp] using hscope

/-- **A change without issues** fails neither for an empty pattern nor for a group of a literal. -/
theorem Fails.unforeseen {seen : List String} {c : ChangeDefinition} {f : CompileFailure}
    (hissues : c.issues seen = []) (h : c.Fails f) :
    f.why ≠ .empty ∧ ∀ name needle, f.why ≠ .literalCapture name needle := by
  obtain ⟨hpatterns, hrules⟩ := sound_of_issues hissues
  cases h with
  | marker h =>
      obtain ⟨p, hfirst⟩ := h
      obtain ⟨hp, hfails⟩ := hfirst.mem_and_fails
      rcases PatternDefinition.fails_cases hfails with ⟨-, he⟩ | ⟨source, e, rfl⟩ | ⟨source, rfl⟩
      · exact absurd he (hpatterns p hp)
      · simp
      · simp
  | rule _ hfirst =>
      obtain ⟨hr, hfails⟩ := hfirst.mem_and_fails
      obtain ⟨seen', hissues'⟩ := hrules _ hr
      obtain ⟨hpattern, hcapture⟩ := RuleDefinition.sound_of_issues hissues'
      exact hfails.unforeseen hpattern hcapture

end ChangeDefinition

/-! ### Rule files -/

namespace Definition

theorem compile_eq_error_iff {d : Definition} {f : CompileFailure} :
    d.compile = .error f ↔ ∃ c, FirstFailing ChangeDefinition.Fails d.changes c f := by
  have hchange : ∀ c f, ChangeDefinition.compile c = .error f ↔
      ∃ f₀, ChangeDefinition.Fails c f₀ ∧ f = f₀ := by
    simp [ChangeDefinition.compile_eq_error_iff]
  rw [compile, mapM_eq_error_iff (fun _ f => f) hchange]
  simp

end Definition

/-- **What compiling a definition gives.**  Either its changes and their rules, in their order and
with their names, or the failure of the first change that fails.  That failure names no rule exactly
when the marker fails, and then its cause is that of the first failing pattern of identifier,
context and scope; otherwise it names the first rule whose anchor or whose group fails.  The check
of all rules at the end never fails.  If the definition has no issues, the cause is neither an empty
pattern nor a group of a literal. -/
theorem ofDefinition_first_failure (d : Definition) :
    (∀ file, RuleFile.ofDefinition d = .ok file → file.metadata = d.metadata ∧
      file.changes.map Change.outline = d.changes.map ChangeDefinition.outline) ∧
    (∀ e, RuleFile.ofDefinition d = .error e ↔
      ∃ c f, e = .uncompilable none f ∧ FirstFailing ChangeDefinition.Fails d.changes c f) ∧
    (∀ c f, FirstFailing ChangeDefinition.Fails d.changes c f →
      f.change = c.id ∧ (f.rule = none ↔ ∃ why, c.marker.Fails why) ∧
      (f.rule = none → c.marker.Fails f.why) ∧
      (∀ id, f.rule = some id →
        ∃ r, r.id = id ∧ FirstFailing RuleDefinition.Fails c.rules r f.why)) ∧
    (∀ c ∈ d.changes, ∀ rules marker, c.rules.mapM c.compileRule = .ok rules →
      Change.ofRules c.id marker rules = .ok ⟨c.id, marker, rules⟩) ∧
    (d.issues = [] → ∀ f, RuleFile.ofDefinition d = .error (.uncompilable none f) →
      f.why ≠ .empty ∧ ∀ name needle, f.why ≠ .literalCapture name needle) := by
  have herror : ∀ e, RuleFile.ofDefinition d = .error e ↔
      ∃ c f, e = .uncompilable none f ∧ FirstFailing ChangeDefinition.Fails d.changes c f := by
    intro e
    have hcompile : RuleFile.ofDefinition d = .error e ↔
        ∃ f, e = .uncompilable none f ∧ d.compile = .error f := by
      unfold RuleFile.ofDefinition
      cases d.compile <;> simp [eq_comm]
    rw [hcompile]
    simp only [Definition.compile_eq_error_iff]
    constructor
    · rintro ⟨f, rfl, c, hfirst⟩
      exact ⟨c, f, rfl, hfirst⟩
    · rintro ⟨c, f, rfl, hfirst⟩
      exact ⟨f, rfl, c, hfirst⟩
  refine ⟨fun file h => ?_, herror, fun c f hfirst => ?_, fun c _ rules marker h =>
    ChangeDefinition.ofRules_compiled h marker, fun hissues f h => ?_⟩
  · unfold RuleFile.ofDefinition at h
    split at h
    · cases h
    · next changes hchanges =>
        cases h
        exact ⟨rfl, ChangeDefinition.outline_compiled (mapM_eq_ok_iff.mp hchanges)⟩
  · obtain ⟨-, hfails⟩ := hfirst.mem_and_fails
    refine ⟨?_, hfails.rule_eq_none_iff, ?_⟩
    · cases hfails <;> rfl
    · cases hfails with
      | marker h => exact ⟨fun _ => h, nofun⟩
      | rule _ hr => exact ⟨nofun, fun id hid => ⟨_, Option.some.inj hid, hr⟩⟩
  · obtain ⟨c, f', heq, hfirst⟩ := (herror _).mp h
    cases heq
    obtain ⟨hc, hfails⟩ := hfirst.mem_and_fails
    obtain ⟨-, hall⟩ := List.append_eq_nil_iff.mp hissues
    obtain ⟨seen, hc⟩ := ChangeDefinition.issues_of_mem hall hc
    exact hfails.unforeseen hc

end Graft
