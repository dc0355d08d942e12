import Graft.Code.Balance
import Mathlib

/-!
# Nesting

Words of opening and closing delimiters of three kinds, and the words that are well matched
(`Bracket.Matched`).  Reading a word from left to right with a stack of the delimiters still open
(`Bracket.pending`) decides whether it is (`Bracket.matched_iff`), and the stack tells how the word
is made: a well-matched word, then an opening delimiter and a well-matched word for each delimiter
that is open (`Bracket.leaves_iff`).
-/

namespace Graft

/-- An opening or a closing delimiter. -/
inductive Bracket where
  | opens (d : Delimiter)
  | closes (d : Delimiter)
  deriving DecidableEq, Repr

namespace Bracket

/-- The delimiter that a character is. -/
def ofChar? (c : Char) : Option Bracket :=
  match Delimiter.opening? c with
  | some d => some (.opens d)
  | none   => (Delimiter.closing? c).map .closes

theorem ofChar?_of_opening? {c : Char} {d : Delimiter} (h : Delimiter.opening? c = some d) :
    ofChar? c = some (.opens d) := by
  simp [ofChar?, h]

theorem ofChar?_of_closing? {c : Char} (hc : Delimiter.opening? c = none) :
    ofChar? c = (Delimiter.closing? c).map .closes := by
  simp [ofChar?, hc]

/-- The character of a delimiter. -/
def char : Bracket → Char
  | .opens .paren    => '('
  | .opens .bracket  => '['
  | .opens .brace    => '\x7b'
  | .closes .paren   => ')'
  | .closes .bracket => ']'
  | .closes .brace   => '\x7d'

theorem ofChar?_char (b : Bracket) : ofChar? b.char = some b := by
  rcases b with (_ | _ | _) | (_ | _ | _) <;> rfl

theorem char_of_ofChar? {c : Char} {b : Bracket} (h : ofChar? c = some b) : b.char = c := by
  unfold ofChar? at h
  split at h
  · next d hd =>
      cases h
      unfold Delimiter.opening? at hd
      split at hd <;> cases hd <;> rfl
  · obtain ⟨d, hd, rfl⟩ := Option.map_eq_some_iff.mp h
    unfold Delimiter.closing? at hd
    split at hd <;> cases hd <;> rfl

/-- Well-matched words: every delimiter that opens is closed by one of its kind, and what stands
between the two is well matched. -/
inductive Matched : List Bracket → Prop where
  | nil : Matched []
  | wrap (d : Delimiter) {u v : List Bracket} (hu : Matched u) (hv : Matched v) :
      Matched (.opens d :: u ++ .closes d :: v)

theorem Matched.append {u v : List Bracket} (hu : Matched u) (hv : Matched v) : Matched (u ++ v) := by
  induction hu with
  | nil => exact hv
  | wrap d hx _ _ ih =>
      rw [List.append_assoc, List.cons_append]
      exact .wrap d hx ih

/-! ### The delimiters still open -/

/-- The delimiters that are open after a word, the innermost first, when those of `s` are open before
it; nothing once a closing delimiter does not fit. -/
def pending : List Delimiter → List Bracket → Option (List Delimiter)
  | s, []                   => some s
  | s, .opens d :: w        => pending (d :: s) w
  | [], .closes _ :: _      => none
  | d' :: s, .closes d :: w => if d = d' then pending s w else none

theorem pending_append (s : List Delimiter) (u v : List Bracket) :
    pending s (u ++ v) = (pending s u).bind fun s' => pending s' v := by
  fun_induction pending s u with
  | case1 s => rfl
  | case2 s d u ih => exact ih
  | case3 d u => rfl
  | case4 s d u ih => simpa [pending] using ih
  | case5 d' s d u hne => simp [pending, hne]

/-- A well-matched word leaves open what was open before. -/
theorem Matched.pending_eq {u : List Bracket} (hu : Matched u) (s : List Delimiter) :
    pending s u = some s := by
  induction hu generalizing s with
  | nil => rfl
  | wrap d _ _ ihu ihv =>
      rw [List.cons_append, pending, pending_append, ihu]
      simp [pending, ihv]

theorem pending_map_closes (s : List Delimiter) : pending s (s.map .closes) = some [] := by
  induction s with
  | nil => rfl
  | cons d s ih => simpa [pending] using ih

/-- A word determines the delimiters that have to be open before it. -/
theorem pending_injective {s s' r : List Delimiter} {w : List Bracket} (h : pending s w = some r)
    (h' : pending s' w = some r) : s = s' := by
  fun_induction pending s w generalizing s' with
  | case1 s =>
      cases h
      cases h'
      rfl
  | case2 s d w ih =>
      cases ih h h'
      rfl
  | case3 d w => cases h
  | case4 s d w ih =>
      cases s' with
      | nil => cases h'
      | cons d' s' =>
          rw [pending] at h'
          split_ifs at h' with hd
          rw [hd, ih h h']
  | case5 d' s d w hne => cases h

/-- After the word the delimiters of `s` are open, the innermost first. -/
inductive Leaves : List Delimiter → List Bracket → Prop where
  | nil {u : List Bracket} (hu : Matched u) : Leaves [] u
  | cons (d : Delimiter) {s : List Delimiter} {u v : List Bracket} (hu : Leaves s u) (hv : Matched v) :
      Leaves (d :: s) (u ++ .opens d :: v)

theorem Leaves.append {s : List Delimiter} {u v : List Bracket} (hu : Leaves s u) (hv : Matched v) :
    Leaves s (u ++ v) := by
  cases hu with
  | nil hu => exact .nil (hu.append hv)
  | cons d hx hy =>
      rw [List.append_assoc, List.cons_append]
      exact .cons d hx (hy.append hv)

theorem Leaves.pending_eq {s : List Delimiter} {u : List Bracket} (h : Leaves s u) :
    pending [] u = some s := by
  induction h with
  | nil hu => exact hu.pending_eq []
  | cons d _ hv ih =>
      rw [pending_append, ih]
      exact hv.pending_eq _

/-- The delimiters that are open after a word tell how the word is made. -/
theorem leaves_iff {s : List Delimiter} {u : List Bracket} : Leaves s u ↔ pending [] u = some s := by
  refine ⟨Leaves.pending_eq, fun h => ?_⟩
  -- the last delimiter of the word is read last
  induction u using List.reverseRecOn generalizing s with
  | nil =>
      cases h
      exact .nil .nil
  | append_singleton u b ih =>
      rw [pending_append] at h
      obtain ⟨s', hu, hb⟩ := Option.bind_eq_some_iff.mp h
      have hleaves := ih hu
      cases b with
      | opens d =>
          cases hb
          exact .cons d hleaves .nil
      | closes d =>
          cases hleaves with
          | nil => cases hb
          | cons d' hx hy =>
              simp only [pending] at hb
              split_ifs at hb with hd
              subst hd
              cases hb
              rw [List.append_assoc]
              exact hx.append (.wrap d hy .nil)

/-- **A word is well matched** exactly when nothing is open after it. -/
theorem matched_iff {u : List Bracket} : Matched u ↔ pending [] u = some [] := by
  rw [← leaves_iff]
  constructor
  · exact .nil
  · intro h
    cases h with
    | nil hu => exact hu

instance : DecidablePred Matched := fun _ => decidable_of_iff _ matched_iff.symm

example : ¬ Matched [.opens .paren, .opens .bracket, .closes .paren, .closes .bracket] := by decide

end Bracket

end Graft
