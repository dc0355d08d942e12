import Graft.Proofs.Marker
import Graft.Proofs.Partition

/-!
# Texts as bytes

Offsets count the bytes of the UTF-8 form (`Text.bytes`).  Two facts about that form carry over what is
said about bytes to characters: no character begins with the bytes of another
(`Text.eq_of_utf8EncodeChar`), and of the bytes of a character only the first one can start one.

* `Text.isBoundary_iff_boundary`: an offset lies between two characters, or at an end, exactly when a
  character starts with the byte there or there is no byte any more.
* `Document.spanText_eq_ok_iff_bytes`: what stands at a span is the text of the bytes there.
* `Text.spelledIn_iff`: where the bytes of a literal stand, there stands the literal.
-/

namespace Graft

namespace Text

theorem bytes_append (a b : Text) : bytes (a ++ b) = bytes a ++ bytes b := List.flatMap_append

theorem length_bytes (t : Text) : (bytes t).length = size t := by
  induction t with
  | nil => rfl
  | cons c t ih => rw [bytes_cons, List.length_append, String.length_utf8EncodeChar, ih, size]

/-! ### A text is told by its bytes -/

/-- No character begins with the bytes of another. -/
theorem eq_of_utf8EncodeChar {c c' : Char} {x y : List UInt8}
    (h : String.utf8EncodeChar c ++ x = String.utf8EncodeChar c' ++ y) : c = c' := by
  have hdecode : ∀ (c : Char) (x : List UInt8),
      (String.utf8EncodeChar c ++ x).toByteArray.utf8DecodeChar? 0 = some c := fun c x => by
    rw [List.toByteArray_append, ByteArray.utf8DecodeChar?_utf8EncodeChar_append]
  have hsame := hdecode c x
  rw [h, hdecode] at hsame
  exact (Option.some.inj hsame).symm

theorem prefix_of_bytes {a t : Text} (h : bytes a <+: bytes t) : a <+: t := by
  induction a generalizing t with
  | nil => exact List.nil_prefix
  | cons c a ih =>
      obtain ⟨y, hy⟩ := h
      rw [bytes_cons, List.append_assoc] at hy
      cases t with
      | nil => exact absurd (List.append_eq_nil_iff.mp hy).1 String.utf8EncodeChar_ne_nil
      | cons c' t =>
          rw [bytes_cons] at hy
          cases eq_of_utf8EncodeChar hy
          exact List.cons_prefix_cons.mpr ⟨rfl, ih ⟨y, List.append_cancel_left hy⟩⟩

theorem bytes_injective : Function.Injective bytes := by
  intro a b h
  have hab : a <+: b := prefix_of_bytes (h ▸ List.prefix_rfl)
  have hba : b <+: a := prefix_of_bytes (h ▸ List.prefix_rfl)
  exact hab.eq_of_length (Nat.le_antisymm hab.length_le hba.length_le)

/-! ### Boundaries -/

/-- The offset is the end of the text, or a character starts with the byte there. -/
def Boundary (t : Text) (n : Nat) : Prop :=
  n = (bytes t).length ∨ ∃ b ∈ (bytes t)[n]?, b.IsUTF8FirstByte

theorem boundary_append {a b : Text} : Boundary (a ++ b) (size a) := by
  cases b with
  | nil => exact .inl (by rw [List.append_nil, length_bytes])
  | cons c b =>
      have hlength : 0 < (String.utf8EncodeChar c).length :=
        List.length_pos_iff.mpr String.utf8EncodeChar_ne_nil
      refine .inr ⟨(String.utf8EncodeChar c)[0], ?_, UInt8.isUTF8FirstByte_getElem_zero_utf8EncodeChar⟩
      rw [Option.mem_def, bytes_append, List.getElem?_append_right (by rw [length_bytes]),
        length_bytes, Nat.sub_self, bytes_cons, List.getElem?_append_left hlength,
        List.getElem?_eq_getElem hlength]

/-- Only the first byte of a character starts one. -/
theorem Boundary.of_cons {c : Char} {t : Text} {n : Nat} (h : Boundary (c :: t) n) :
    n = 0 ∨ ∃ k, n = c.utf8Size + k ∧ Boundary t k := by
  have hlength : (String.utf8EncodeChar c).length = c.utf8Size := String.length_utf8EncodeChar c
  rcases Nat.lt_or_ge n c.utf8Size with hlt | hge
  · refine .inl ?_
    rcases h with hend | ⟨b, hb, hfirst⟩
    · rw [bytes_cons, List.length_append] at hend
      omega
    · rw [Option.mem_def, bytes_cons, List.getElem?_append_left (by omega),
        List.getElem?_eq_getElem (by omega)] at hb
      cases hb
      exact UInt8.isUTF8FirstByte_getElem_utf8EncodeChar.mp hfirst
  · refine .inr ⟨n - c.utf8Size, by omega, ?_⟩
    rcases h with hend | ⟨b, hb, hfirst⟩
    · rw [bytes_cons, List.length_append] at hend
      exact .inl (by omega)
    · rw [Option.mem_def, bytes_cons, List.getElem?_append_right (by omega), hlength] at hb
      exact .inr ⟨b, hb, hfirst⟩

theorem isBoundary_iff_boundary {t : Text} {n : Nat} : isBoundary t n = true ↔ Boundary t n := by
  rw [isBoundary_iff]
  constructor
  · rintro ⟨a, b, rfl, rfl⟩
    exact boundary_append
  · intro h
    induction t generalizing n with
    | nil =>
        rcases h with rfl | ⟨b, hb, -⟩
        · exact ⟨[], [], rfl, rfl⟩
        · cases hb
    | cons c t ih =>
        rcases h.of_cons with rfl | ⟨k, rfl, hrest⟩
        · exact ⟨[], c :: t, rfl, rfl⟩
        · obtain ⟨a, b, rfl, rfl⟩ := ih hrest
          exact ⟨c :: a, b, rfl, rfl⟩

theorem not_isBoundary_iff {t : Text} {n : Nat} : (!isBoundary t n) = true ↔ ¬ Boundary t n := by
  rw [← isBoundary_iff_boundary, Bool.not_eq_true', Bool.not_eq_true]

/-! ### Occurrences -/

/-- The bytes of a literal stand at an offset of a region, and none of them outside. -/
structure SpelledIn (needle t : Text) (region : Span) (pos : Nat) : Prop where
  start_le : region.start ≤ pos
  stop_le  : pos + (bytes needle).length ≤ region.stop
  spelled  : bytes needle <+: (bytes t).drop pos

theorem drop_bytes_append (a b : Text) : (bytes (a ++ b)).drop (size a) = bytes b := by
  rw [bytes_append, ← length_bytes, List.drop_left]

/-- **Where the bytes of a literal stand, there stands the literal.** -/
theorem occursAt_of_bytes {needle t : Text} {pos : Nat} (hne : needle ≠ [])
    (h : bytes needle <+: (bytes t).drop pos) : needle.OccursAt t pos := by
  obtain ⟨c, rest, rfl⟩ := List.exists_cons_of_ne_nil hne
  have hlength : 0 < (String.utf8EncodeChar c).length :=
    List.length_pos_iff.mpr String.utf8EncodeChar_ne_nil
  -- the first byte of the literal starts a character, so there is a boundary of the text
  have hboundary : Boundary t pos := by
    refine .inr ⟨(String.utf8EncodeChar c)[0], ?_, UInt8.isUTF8FirstByte_getElem_zero_utf8EncodeChar⟩
    obtain ⟨y, hy⟩ := h
    have hbyte : ((bytes t).drop pos)[0]? = (String.utf8EncodeChar c)[0]? := by
      rw [← hy, bytes_cons, List.append_assoc, List.getElem?_append_left hlength]
    rwa [List.getElem?_drop, Nat.add_zero, List.getElem?_eq_getElem hlength] at hbyte
  obtain ⟨a, b, rfl, rfl⟩ := isBoundary_iff.mp (isBoundary_iff_boundary.mpr hboundary)
  rw [drop_bytes_append] at h
  obtain ⟨v, rfl⟩ := prefix_of_bytes h
  exact occursAt_iff.mpr ⟨a, v, by rw [List.append_assoc], rfl⟩

theorem spelledIn_iff {needle t : Text} {region : Span} {pos : Nat} (hne : needle ≠ []) :
    needle.SpelledIn t region pos ↔ needle.OccursIn t region pos := by
  constructor
  · rintro ⟨hstart, hstop, hbytes⟩
    exact ⟨hstart, by rwa [← length_bytes], occursAt_of_bytes hne hbytes⟩
  · rintro ⟨hstart, hstop, hoccurs⟩
    obtain ⟨u, v, rfl, rfl⟩ := occursAt_iff.mp hoccurs
    refine ⟨hstart, by rwa [length_bytes], ?_⟩
    rw [List.append_assoc, drop_bytes_append, bytes_append]
    exact List.prefix_append _ _

/-- The bytes at a span. -/
def bytesAt (t : Text) (s : Span) : List UInt8 := ((bytes t).drop s.start).take (s.stop - s.start)

end Text

/-! ### Spans -/

namespace Document

/-- The span is one of the document's: it ends neither before it starts nor past the end, and both its
ends are boundaries. -/
structure Contains (d : Document) (s : Span) : Prop where
  ordered : s.start ≤ s.stop
  inside  : s.stop ≤ d.size
  first   : Text.Boundary d.text s.start
  last    : Text.Boundary d.text s.stop

variable {d : Document} {s : Span}

theorem contains_iff : d.Contains s ↔ ∃ x, d.spanText s = .ok x := by
  constructor
  · intro h
    obtain ⟨x, hx⟩ := Text.slice?_of_isBoundary (Text.isBoundary_iff_boundary.mpr h.first)
      (Text.isBoundary_iff_boundary.mpr h.last) h.ordered
    exact ⟨x, spanText_eq_ok_iff_slice?.mpr hx⟩
  · rintro ⟨x, hx⟩
    obtain ⟨pre, post, htext, hstart, hstop⟩ := spanText_eq_ok_iff.mp hx
    obtain ⟨hfirst, hlast⟩ := isBoundary_of_spanText hx
    exact ⟨by omega, Text.le_size_of_isBoundary hlast, Text.isBoundary_iff_boundary.mp hfirst,
      Text.isBoundary_iff_boundary.mp hlast⟩

theorem bytes_of_spanText {x : Text} (h : d.spanText s = .ok x) : Text.bytes x = d.text.bytesAt s := by
  obtain ⟨pre, post, htext, hstart, hstop⟩ := spanText_eq_ok_iff.mp h
  have hlength : s.stop - s.start = (Text.bytes x).length := by
    rw [Text.length_bytes]
    omega
  rw [Text.bytesAt, htext, ← hstart, List.append_assoc, Text.drop_bytes_append, hstart, hlength,
    Text.bytes_append, List.take_left]

/-- **What stands at a span of the document** is the text of the bytes there. -/
theorem spanText_eq_ok_iff_bytes {x : Text} :
    d.spanText s = .ok x ↔ d.Contains s ∧ Text.bytes x = d.text.bytesAt s := by
  constructor
  · intro h
    exact ⟨contains_iff.mpr ⟨x, h⟩, bytes_of_spanText h⟩
  · rintro ⟨hcontains, hbytes⟩
    obtain ⟨y, hy⟩ := contains_iff.mp hcontains
    rwa [Text.bytes_injective (hbytes.trans (bytes_of_spanText hy).symm)]

end Document

end Graft
