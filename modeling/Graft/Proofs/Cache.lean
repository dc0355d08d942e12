import Graft.Regex.Cache
import Mathlib

/-!
# Runs of a cache

A cache is asked for expressions and emptied, any number of times.  What it holds is always right
(`Cache.Sound`): every entry is the reading of its written form, no written form has two entries,
and there are no more entries than fit.  A lookup keeps this, whether it hits, reads and stores, or
fails (`Cache.lookup_cases`, `Cache.Sound.lookup`).

So nobody can tell the answers of a cache from reading every expression afresh
(`Cache.run_transparent`).
-/

namespace Graft.Regex

/-- What a cache is asked to do. -/
inductive Request where
  | lookup (source : Text)
  | clear
  deriving DecidableEq, Repr

/-- The written form that a request asks for. -/
def Request.source? : Request → Option Text
  | .lookup source => some source
  | .clear         => none

namespace Cache

/-- The answers to the lookups among some requests, and the cache afterwards. -/
def run (c : Cache) : List Request → List (Except SyntaxError Regex) × Cache
  | []                   => ([], c)
  | .lookup source :: rs =>
      let (answer, c') := c.lookup source
      let (answers, c'') := c'.run rs
      (answer :: answers, c'')
  | .clear :: rs         => c.clear.run rs

/-- The cache once it has room for another entry. -/
def room (c : Cache) : Cache := if capacity ≤ c.size then {} else c

/-- What a cache may hold. -/
structure Sound (c : Cache) : Prop where
  fresh    : ∀ source r, (source, r) ∈ c.entries → Regex.ofText source = .ok r
  distinct : (c.entries.map Prod.fst).Nodup
  bounded  : c.size ≤ capacity

/-! ### One lookup -/

theorem mem_of_get? {c : Cache} {source : Text} {r : Regex} (h : c.get? source = some r) :
    (source, r) ∈ c.entries := by
  obtain ⟨before, after, hentries, -⟩ := List.lookup_eq_some_iff.mp h
  simp [hentries]

theorem not_mem_of_get? {c : Cache} {source : Text} (h : c.get? source = none) :
    source ∉ c.entries.map Prod.fst := by
  rw [List.mem_map]
  rintro ⟨⟨source', r⟩, hmem, rfl⟩
  simpa using List.lookup_eq_none_iff.mp h _ hmem

/-- **What a lookup can do**: find what it is asked for, read and store it, or fail to read it. -/
theorem lookup_cases (c : Cache) (source : Text) :
    (∃ r, c.get? source = some r ∧ c.lookup source = (.ok r, c)) ∨
    (c.get? source = none ∧ ∃ r, Regex.ofText source = .ok r ∧
      c.lookup source = (.ok r, ⟨(source, r) :: c.room.entries⟩)) ∨
    (c.get? source = none ∧ ∃ why, Regex.ofText source = .error why ∧
      c.lookup source = (.error why, c.room)) := by
  cases hget : c.get? source with
  | some r => exact .inl ⟨r, rfl, by simp [lookup, hget]⟩
  | none =>
      refine .inr ?_
      cases hread : Regex.ofText source with
      | ok r => exact .inl ⟨rfl, r, rfl, by simp [lookup, hget, hread, room]⟩
      | error why => exact .inr ⟨rfl, why, rfl, by simp [lookup, hget, hread, room]⟩

theorem room_cases (c : Cache) : c.room = {} ∨ (c.room = c ∧ c.size < capacity) := by
  by_cases hfull : capacity ≤ c.size
  · exact .inl (by simp [room, hfull])
  · exact .inr ⟨by simp [room, hfull], by omega⟩

theorem room_size_lt (c : Cache) : c.room.size < capacity := by
  rcases c.room_cases with h | ⟨h, hlt⟩
  · rw [h]
    decide
  · rw [h]
    exact hlt

theorem mem_of_mem_room {c : Cache} {e : Text × Regex} (h : e ∈ c.room.entries) : e ∈ c.entries := by
  rcases c.room_cases with hroom | ⟨hroom, -⟩
  · rw [hroom] at h
    cases h
  · rwa [hroom] at h

namespace Sound

theorem empty : Sound {} := by
  refine ⟨fun _ _ h => ?_, List.nodup_nil, Nat.zero_le _⟩
  cases h

theorem room {c : Cache} (h : c.Sound) : c.room.Sound := by
  rcases c.room_cases with hroom | ⟨hroom, -⟩
  · rw [hroom]
    exact empty
  · rw [hroom]
    exact h

/-- A new entry can be stored where there is room. -/
theorem store {c : Cache} (h : c.Sound) {source : Text} {r : Regex} (hnew : c.get? source = none)
    (hread : Regex.ofText source = .ok r) : Sound ⟨(source, r) :: c.room.entries⟩ where
  fresh source' r' hmem := by
    rcases List.mem_cons.mp hmem with heq | hmem
    · cases heq
      exact hread
    · -- emptied or not, the cache holds nothing else that it did not hold before
      exact h.fresh _ _ (mem_of_mem_room hmem)
  distinct := by
    refine List.nodup_cons.mpr ⟨fun hmem => not_mem_of_get? hnew ?_, h.room.distinct⟩
    obtain ⟨e, he, hkey⟩ := List.mem_map.mp hmem
    exact List.mem_map.mpr ⟨e, mem_of_mem_room he, hkey⟩
  bounded := c.room_size_lt

/-- **A lookup is as good as reading**, and leaves what a cache may hold. -/
theorem lookup {c : Cache} (h : c.Sound) (source : Text) :
    (c.lookup source).1 = Regex.ofText source ∧ (c.lookup source).2.Sound := by
  rcases c.lookup_cases source with
    ⟨r, hget, heq⟩ | ⟨hget, r, hread, heq⟩ | ⟨hget, why, hread, heq⟩
  · rw [heq]
    exact ⟨(h.fresh _ _ (mem_of_get? hget)).symm, h⟩
  · rw [heq, hread]
    exact ⟨rfl, h.store hget hread⟩
  · rw [heq, hread]
    exact ⟨rfl, h.room⟩

end Sound

/-- What was looked up with success is held afterwards. -/
theorem get?_lookup {c : Cache} {source : Text} {r : Regex} (h : (c.lookup source).1 = .ok r) :
    (c.lookup source).2.get? source = some r := by
  rcases c.lookup_cases source with ⟨r', hget, heq⟩ | ⟨-, r', -, heq⟩ | ⟨-, why, -, heq⟩
  · rw [heq] at h ⊢
    cases h
    exact hget
  · rw [heq] at h ⊢
    cases h
    simp [get?]
  · rw [heq] at h
    cases h

/-- A lookup forgets something only if the cache is full. -/
theorem mem_lookup {c : Cache} (hroom : c.size < capacity) (source : Text) {e : Text × Regex}
    (he : e ∈ c.entries) : e ∈ (c.lookup source).2.entries := by
  have hkept : c.room = c := by simp [room, Nat.not_le.mpr hroom]
  rcases c.lookup_cases source with ⟨r, -, heq⟩ | ⟨-, r, -, heq⟩ | ⟨-, why, -, heq⟩
  · rw [heq]
    exact he
  · rw [heq, hkept]
    exact List.mem_cons_of_mem _ he
  · rw [heq, hkept]
    exact he

/-! ### Runs -/

theorem run_lookup (c : Cache) (source : Text) (rs : List Request) :
    c.run (.lookup source :: rs) = ((c.lookup source).1 :: ((c.lookup source).2.run rs).1,
      ((c.lookup source).2.run rs).2) := rfl

theorem Sound.run {c : Cache} (h : c.Sound) (rs : List Request) :
    (c.run rs).1 = (rs.filterMap Request.source?).map Regex.ofText ∧ (c.run rs).2.Sound := by
  induction rs generalizing c with
  | nil => exact ⟨rfl, h⟩
  | cons request rs ih =>
      cases request with
      | lookup source =>
          obtain ⟨hanswer, hsound⟩ := h.lookup source
          obtain ⟨hanswers, hfinal⟩ := ih hsound
          rw [run_lookup, hanswer, hanswers]
          exact ⟨rfl, hfinal⟩
      | clear => exact ih Sound.empty

/-- **A cache cannot be told from reading afresh.**  Let any requests be made, the cache being empty
at first.  Every lookup among them is answered as reading its written form answers.  What is held
afterwards is the reading of its written form, one entry for each, and never a form that cannot be
read; there are at most 256 entries.  A further lookup that succeeds is held, and forgets nothing
unless the cache is full. -/
theorem run_transparent (rs : List Request) :
    let answers := (run {} rs).1
    let c := (run {} rs).2
    answers = (rs.filterMap Request.source?).map Regex.ofText ∧
    (∀ source r, (source, r) ∈ c.entries → Regex.ofText source = .ok r) ∧
    (∀ source why, Regex.ofText source = .error why → source ∉ c.entries.map Prod.fst) ∧
    (c.entries.map Prod.fst).Nodup ∧
    c.size ≤ 256 ∧
    (∀ source r, (c.lookup source).1 = .ok r → (c.lookup source).2.get? source = some r) ∧
    (c.size < 256 → ∀ source, ∀ e ∈ c.entries, e ∈ (c.lookup source).2.entries) := by
  intro answers c
  obtain ⟨hanswers, hsound⟩ := Sound.empty.run rs
  have hfailed : ∀ source why, Regex.ofText source = .error why →
      source ∉ c.entries.map Prod.fst := by
    intro source why hread hmem
    obtain ⟨⟨source', r⟩, he, rfl⟩ := List.mem_map.mp hmem
    have hok := hsound.fresh _ _ he
    rw [hread] at hok
    cases hok
  exact ⟨hanswers, hsound.fresh, hfailed, hsound.distinct, hsound.bounded,
    fun _ _ => get?_lookup, fun hroom source _ he => mem_lookup hroom source he⟩

end Cache

end Graft.Regex
