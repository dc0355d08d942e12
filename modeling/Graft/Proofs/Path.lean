import Graft.Path
import Mathlib

/-!
# Paths of names

A list of names is spelled as an absolute path and read back as it was: `Path.segments_ofNames`,
`Path.components_ofNames`.  The names have to be ones that an entry can have (`Path.IsName`), which
are the only ones that following a path ever comes to.

A path can have segments that stay where they are, between its names or after the last of them.  If
there are none after it (`Path.EndsInName`), the path is that of its parent and the name
(`Path.parent_of_endsInName`).
-/

namespace Graft.Path

/-- A text that an entry can have for its name: it is not empty, neither dot nor two dots, and
free of separators. -/
structure IsName (s : Text) : Prop where
  ne_nil       : s ≠ []
  ne_dot       : s ≠ ['.']
  ne_up        : s ≠ ['.', '.']
  no_separator : '/' ∉ s

/-! ### Separators -/

theorem split_eq_splitOn (t : Text) : split t = t.splitOn '/' := by
  induction t with
  | nil => rfl
  | cons c t ih =>
      rw [split, List.splitOn_cons_eq_if_modifyHead, ih]
      by_cases hc : c = '/'
      · simp [hc]
      · simp only [hc, if_false, beq_iff_eq]
        cases hs : t.splitOn '/' with
        | nil => exact absurd hs (List.splitOn_ne_nil '/' t)
        | cons s ss => rfl

theorem separator_not_mem {t s : Text} (h : s ∈ split t) : '/' ∉ s := by
  induction t generalizing s with
  | nil => simp [split] at h; simp [h]
  | cons c t ih =>
      rw [split] at h
      by_cases hc : c = '/'
      · simp only [hc, if_true, List.mem_cons] at h
        rcases h with rfl | h
        · simp
        · exact ih h
      · simp only [hc, if_false] at h
        cases hs : split t with
        | nil =>
            simp only [hs, List.mem_singleton] at h
            simpa [h] using Ne.symm hc
        | cons u us =>
            simp only [hs, List.mem_cons] at h ih
            rcases h with rfl | h
            · simpa using ⟨Ne.symm hc, ih (.inl rfl)⟩
            · exact ih (.inr h)

theorem split_intercalate {ss : List Text} (hs : ∀ s ∈ ss, '/' ∉ s) (hne : ss ≠ []) :
    split (['/'].intercalate ss) = ss := by
  rw [split_eq_splitOn, List.splitOn_intercalate '/' hs hne]

theorem mem_intercalate {c : Char} {ss : List Text} (h : c ∈ ['/'].intercalate ss) :
    c = '/' ∨ ∃ s ∈ ss, c ∈ s := by
  induction ss with
  | nil => simp at h
  | cons s ss ih =>
      cases ss with
      | nil => exact .inr ⟨s, List.mem_cons_self, by simpa using h⟩
      | cons u us =>
          rw [List.intercalate_cons_cons, List.mem_append, List.mem_append, List.mem_singleton] at h
          rcases h with (h | h) | h
          · exact .inr ⟨s, List.mem_cons_self, h⟩
          · exact .inl h
          · rcases ih h with h | ⟨v, hv, hc⟩
            · exact .inl h
            · exact .inr ⟨v, List.mem_cons_of_mem _ hv, hc⟩

theorem mem_intercalate_of_mem {c : Char} {s : Text} {ss : List Text} (hs : s ∈ ss) (hc : c ∈ s) :
    c ∈ ['/'].intercalate ss := by
  induction ss with
  | nil => cases hs
  | cons u us ih =>
      cases us with
      | nil =>
          rw [List.mem_singleton] at hs
          simpa [← hs] using hc
      | cons v vs =>
          rw [List.intercalate_cons_cons, List.mem_append, List.mem_append]
          rcases List.mem_cons.mp hs with rfl | hs
          · exact .inl (.inl hc)
          · exact .inr (ih hs)

/-! ### The path of a list of names -/

theorem ofNames_of_ne_nil {ns : List Text} (hne : ns ≠ []) :
    ofNames ns = ⟨['/'].intercalate ([] :: ns)⟩ := by
  have hroot : Component.root :: ns.map .name ≠ [.root] := by
    intro h
    rw [List.cons.injEq, List.map_eq_nil_iff] at h
    exact hne h.2
  have hwritten : (ns.map Component.name).map Component.written = ns := by
    rw [List.map_map]
    exact List.map_id ns
  rw [ofNames, ofComponents, if_neg hroot, List.map_cons, hwritten]
  rfl

theorem isAbsolute_ofComponents (cs : List Component) :
    (ofComponents (.root :: cs)).isAbsolute = true := by
  cases cs with
  | nil => rfl
  | cons c cs =>
      rw [ofComponents, if_neg (by simp), List.map_cons, List.map_cons, isAbsolute,
        List.intercalate_cons_cons]
      rfl

theorem isAbsolute_ofNames (ns : List Text) : (ofNames ns).isAbsolute = true :=
  isAbsolute_ofComponents _

theorem spelling_ofNames_ne_nil (ns : List Text) : (ofNames ns).spelling ≠ [] := by
  intro h
  have := isAbsolute_ofNames ns
  rw [isAbsolute, h] at this
  cases this

theorem segments_ofNames {ns : List Text} (hns : ∀ n ∈ ns, IsName n) (hne : ns ≠ []) :
    (ofNames ns).segments = [] :: ns := by
  rw [ofNames_of_ne_nil hne]
  refine split_intercalate (fun s hs => ?_) (List.cons_ne_nil _ _)
  rcases List.mem_cons.mp hs with rfl | hs
  · simp
  · exact (hns s hs).no_separator

theorem segments_ofNames_nil : (ofNames []).segments = [[], []] := rfl

theorem IsName.ofSegment? {s : Text} (h : IsName s) : Component.ofSegment? s = some (.name s) := by
  simp [Component.ofSegment?, h.ne_nil, h.ne_dot, h.ne_up]

theorem filterMap_ofSegment? {ns : List Text} (hns : ∀ n ∈ ns, IsName n) :
    ns.filterMap Component.ofSegment? = ns.map .name := by
  induction ns with
  | nil => rfl
  | cons n ns ih =>
      rw [List.filterMap_cons, (hns n List.mem_cons_self).ofSegment?, List.map_cons,
        ih fun m hm => hns m (List.mem_cons_of_mem _ hm)]

/-- A path of names is read back as the names it was made of. -/
theorem components_ofNames {ns : List Text} (hns : ∀ n ∈ ns, IsName n) :
    (ofNames ns).components = .root :: ns.map .name := by
  by_cases hne : ns = []
  · subst hne; rfl
  · rw [components, if_pos (isAbsolute_ofNames ns), segments_ofNames hns hne]
    show Component.root :: ns.filterMap Component.ofSegment? = _
    rw [filterMap_ofSegment? hns]

theorem names_ofNames {ns : List Text} (hns : ∀ n ∈ ns, IsName n) : (ofNames ns).names = ns := by
  rw [names, components_ofNames hns, List.filterMap_cons, List.filterMap_map]
  exact List.filterMap_some

theorem parent_ofNames {ns : List Text} (hns : ∀ n ∈ ns, IsName n) (hne : ns ≠ []) :
    (ofNames ns).parent = ofNames ns.dropLast := by
  have hmap : ns.map Component.name ≠ [] := by simpa using hne
  rw [parent, components_ofNames hns, List.dropLast_cons_of_ne_nil hmap, ofNames,
    List.dropLast_eq_take, List.dropLast_eq_take, List.length_map, List.map_take]

theorem fileName?_ofNames {ns : List Text} {n : Text} (hns : ∀ m ∈ ns ++ [n], IsName m) :
    (ofNames (ns ++ [n])).fileName? = some n := by
  rw [fileName?, components_ofNames hns, List.map_append, List.map_singleton, ← List.cons_append,
    List.getLast?_concat]

/-! ### The last name of a path -/

theorem isName_of_mem_components {p : Path} {n : Text} (h : .name n ∈ p.components) : IsName n := by
  have hinner : .name n ∈ p.segments.filterMap Component.ofSegment? := by
    unfold components at h
    split at h
    · simpa using h
    · split at h
      · simpa using h
      · exact h
  obtain ⟨s, hs, hname⟩ := List.mem_filterMap.mp hinner
  unfold Component.ofSegment? at hname
  split_ifs at hname with hdot hup
  · cases hname
  · cases hname
    simp only [Bool.or_eq_true, decide_eq_true_eq, not_or] at hdot
    exact ⟨hdot.1, hdot.2, hup, separator_not_mem hs⟩

theorem getLast?_of_fileName? {p : Path} {n : Text} (h : p.fileName? = some n) :
    p.components.getLast? = some (.name n) := by
  unfold fileName? at h
  split at h
  · next hlast => rw [hlast, Option.some.inj h]
  · cases h

theorem isName_of_fileName? {p : Path} {n : Text} (h : p.fileName? = some n) : IsName n :=
  isName_of_mem_components (List.mem_of_getLast? (getLast?_of_fileName? h))

theorem isAbsolute_parent {p : Path} {n : Text} (hp : p.isAbsolute = true)
    (hn : p.fileName? = some n) : p.parent.isAbsolute = true := by
  have hlast := getLast?_of_fileName? hn
  rw [components, if_pos hp] at hlast
  rw [parent, components, if_pos hp]
  cases hinner : p.segments.filterMap Component.ofSegment? with
  | nil => rw [hinner] at hlast; cases hlast
  | cons c cs =>
      rw [List.dropLast_cons_of_ne_nil (List.cons_ne_nil c cs)]
      exact isAbsolute_ofComponents _

theorem isAbsolute_join {p q : Path} (hp : p.isAbsolute = true) : (p.join q).isAbsolute = true := by
  obtain ⟨rest, hrest⟩ : ∃ rest, p.spelling = '/' :: rest := by
    cases hs : p.spelling with
    | nil => simp [isAbsolute, hs] at hp
    | cons c rest => exact ⟨rest, by simpa [isAbsolute, hs] using hp⟩
  unfold join
  split_ifs with hq
  · exact hq
  · simp [isAbsolute, hrest]
  · simp [isAbsolute, hrest]

/-! ### Segments that stay -/

/-- A segment that stays where it is. -/
def isIdle (s : Text) : Bool := s = [] || s = ['.']

theorem written_filterMap_ofSegment? (ss : List Text) :
    (ss.filterMap Component.ofSegment?).map Component.written = ss.filter fun s => !isIdle s := by
  induction ss with
  | nil => rfl
  | cons s ss ih =>
      rw [List.filterMap_cons, List.filter_cons, Component.ofSegment?]
      by_cases hidle : isIdle s = true
      · simp only [isIdle] at hidle
        simpa [hidle, isIdle] using ih
      · simp only [isIdle] at hidle
        by_cases hup : s = ['.', '.']
        · simpa [hup, isIdle, Component.written] using ih
        · simpa [hidle, hup, isIdle, Component.written] using ih

/-- The path ends in its last name: no separator or dot comes after it. -/
def EndsInName (p : Path) : Prop := p.segments.getLast? = p.fileName?

/-- The path before a last name that nothing comes after. -/
theorem parent_of_endsInName {p : Path} {n : Text} (hp : p.isAbsolute = true)
    (hn : p.fileName? = some n) (hend : p.EndsInName) :
    ∃ before, p.segments = before ++ [n] ∧
      p.parent = ofComponents (.root :: before.filterMap Component.ofSegment?) := by
  obtain ⟨before, hsegments⟩ := List.getLast?_eq_some_iff.mp (hend.trans hn)
  refine ⟨before, hsegments, ?_⟩
  have hlast : [n].filterMap Component.ofSegment? = [.name n] := by
    simp [(isName_of_fileName? hn).ofSegment?]
  rw [parent, components, if_pos hp, hsegments, List.filterMap_append, hlast, ← List.cons_append,
    List.dropLast_concat]

theorem spelling_ofComponents {cs : List Component} (hne : cs ≠ []) :
    (ofComponents (.root :: cs)).spelling = ['/'].intercalate ([] :: cs.map Component.written) := by
  rw [ofComponents, if_neg (by simpa using hne)]
  rfl

theorem segments_ofComponents {cs : List Component} (hcs : ∀ c ∈ cs, '/' ∉ c.written) (hne : cs ≠ []) :
    (ofComponents (.root :: cs)).segments = [] :: cs.map Component.written := by
  rw [segments, spelling_ofComponents hne]
  refine split_intercalate (fun s hs => ?_) (List.cons_ne_nil _ _)
  rcases List.mem_cons.mp hs with rfl | hs
  · simp
  · obtain ⟨c, hc, rfl⟩ := List.mem_map.mp hs
    exact hcs c hc

theorem mem_segments_of_mem {p : Path} {c : Char} (hc : c ≠ '/') (h : c ∈ p.spelling) :
    ∃ s ∈ p.segments, c ∈ s := by
  have hjoin : ['/'].intercalate p.segments = p.spelling := by
    rw [segments, split_eq_splitOn, List.intercalate_splitOn]
  rw [← hjoin] at h
  exact (mem_intercalate h).resolve_left hc

end Graft.Path
