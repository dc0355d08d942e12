import Graft.Proofs.Scan

/-!
# Modes

The delimiters in the code of a text, read one character at a time and without looking ahead.  A
reader is always in one of a few modes: in code, just after a slash that may open a comment, in a
string, just after a backslash in one, in a line comment, in a block comment, or just after a star
that may close it (`Code.Mode`).  A delimiter counts if the mode before it is one of the first two.

* `Code.brackets_eq`: these are the delimiters that a scan finds, though a scan jumps over strings and
  comments and looks ahead for their ends.
* `Code.Mode.brackets_append`: so the delimiters of a text are found part by part, each part read in
  the mode that the parts before it have led to.
* `Code.Mode.exists_probe`: two modes are told apart by what follows, so a mode holds nothing that
  does not matter.
-/

namespace Graft

namespace Code

/-! ### Quotation marks -/

/-- The quotation marks. -/
inductive Quote where
  | single
  | double
  | back
  deriving DecidableEq, Repr

namespace Quote

def char : Quote → Char
  | .single => '\''
  | .double => '"'
  | .back   => '`'

def ofChar? : Char → Option Quote
  | '\'' => some .single
  | '"'  => some .double
  | '`'  => some .back
  | _    => none

theorem char_of_ofChar? {c : Char} {q : Quote} (h : ofChar? c = some q) : q.char = c := by
  unfold ofChar? at h
  split at h <;> cases h <;> rfl

theorem isQuote_iff {c : Char} : isQuote c = true ↔ ∃ q, ofChar? c = some q := by
  constructor
  · intro h
    simp only [isQuote, Bool.or_eq_true, decide_eq_true_eq] at h
    rcases h with (rfl | rfl) | rfl
    · exact ⟨.single, rfl⟩
    · exact ⟨.double, rfl⟩
    · exact ⟨.back, rfl⟩
  · rintro ⟨q, h⟩
    rw [← char_of_ofChar? h]
    cases q <;> rfl

end Quote

/-! ### Modes -/

/-- What a reader is in the middle of. -/
inductive Mode where
  | code
  /-- After a slash that may open a comment. -/
  | slash
  | string (q : Quote)
  /-- After a backslash in a string. -/
  | escape (q : Quote)
  | line
  | block
  /-- After a star that may close a block comment. -/
  | star
  deriving DecidableEq, Repr

namespace Mode

/-- Whether a delimiter that comes next is code. -/
def isCode : Mode → Bool
  | .code | .slash => true
  | _              => false

/-- The mode after a character of code that does not belong to the opening of a comment. -/
def ofCode (c : Char) : Mode :=
  if c = '/' then .slash
  else
    match Quote.ofChar? c with
    | some q => .string q
    | none   => .code

/-- The mode after a character. -/
def next (m : Mode) (c : Char) : Mode :=
  match m with
  | .code     => ofCode c
  | .slash    => if c = '/' then .line else if c = '*' then .block else ofCode c
  | .string q =>
      if c = '\\' then .escape q
      else if c = '\n' && q.char != '`' then .code
      else if c = q.char then .code
      else .string q
  | .escape q => .string q
  | .line     => if c = '\n' then .code else .line
  | .block    => if c = '*' then .star else .block
  | .star     => if c = '/' then .code else if c = '*' then .star else .block

/-- The mode after a text. -/
def after (m : Mode) (t : Text) : Mode := t.foldl next m

/-- The delimiters of the code of a text that is read from this mode on. -/
def brackets (m : Mode) : Text → List Bracket
  | []     => []
  | c :: t => (if m.isCode then Bracket.ofChar? c else none).toList ++ (m.next c).brackets t

theorem after_cons (m : Mode) (c : Char) (t : Text) : m.after (c :: t) = (m.next c).after t := rfl

theorem after_append (m : Mode) (a b : Text) : m.after (a ++ b) = (m.after a).after b :=
  List.foldl_append

/-- **Delimiters are found part by part.** -/
theorem brackets_append (m : Mode) (a b : Text) :
    m.brackets (a ++ b) = m.brackets a ++ (m.after a).brackets b := by
  induction a generalizing m with
  | nil => rfl
  | cons c a ih => rw [List.cons_append, brackets, brackets, ih, after_cons, List.append_assoc]

/-- All the modes. -/
def all : List Mode :=
  [.code, .slash, .string .single, .string .double, .string .back, .escape .single, .escape .double,
   .escape .back, .line, .block, .star]

theorem mem_all (m : Mode) : m ∈ all := by
  rcases m with _ | _ | (_ | _ | _) | (_ | _ | _) | _ | _ | _ <;> decide

/-- Texts that lead from one mode to code and from another not. -/
def probes : List Text :=
  [[], ['/'], ['\n'], ['\''], ['"'], ['`'], [' ', '\''], [' ', '"'], [' ', '`']]

theorem probe_all : ∀ m ∈ all, ∀ m' ∈ all, m ≠ m' →
    ∃ t ∈ probes, (m.after t).isCode ≠ (m'.after t).isCode := by
  decide

/-- **Different modes are told apart** by a text that leads to code from one of them only. -/
theorem exists_probe {m m' : Mode} (h : m ≠ m') :
    ∃ t ∈ probes, (m.after t).isCode ≠ (m'.after t).isCode :=
  probe_all m m.mem_all m' m'.mem_all h

theorem brackets_probe_all : ∀ m ∈ all, ∀ t ∈ probes, m.brackets t = [] := by
  decide

theorem brackets_probe {t : Text} (h : t ∈ probes) (m : Mode) : m.brackets t = [] :=
  brackets_probe_all m m.mem_all t h

/-! ### Modes follow a scan -/

/-- Outside code a character only changes the mode. -/
theorem brackets_cons_of_not_isCode {m : Mode} (h : m.isCode = false) (c : Char) (t : Text) :
    m.brackets (c :: t) = (m.next c).brackets t := by
  simp [brackets, h]

/-- A slash opens nothing unless a slash or a star follows it. -/
theorem brackets_slash {t : Text} (hline : t.head? ≠ some '/') (hblock : t.head? ≠ some '*') :
    Mode.slash.brackets t = Mode.code.brackets t := by
  cases t with
  | nil => rfl
  | cons c t =>
      simp only [List.head?_cons, ne_eq, Option.some.injEq] at hline hblock
      simp [brackets, isCode, next, hline, hblock]

theorem brackets_star {t : Text} (h : t.head? ≠ some '/') :
    Mode.star.brackets t = Mode.block.brackets t := by
  cases t with
  | nil => rfl
  | cons c t =>
      simp only [List.head?_cons, ne_eq, Option.some.injEq] at h
      simp [brackets, isCode, next, h]

/-- After the end of a string comes code. -/
theorem brackets_string (q : Quote) (t : Text) :
    (Mode.string q).brackets t = Mode.code.brackets (breakString q.char t).2 := by
  fun_induction breakString q.char t with
  | case1 | case2 => rfl
  | case3 d t ih => exact ih
  | case4 c t hc hfeed =>
      have hnext : (Mode.string q).next c = .code := by simp [next, hc, hfeed]
      have hc' : c = '\n' := by simp_all
      rw [brackets_cons_of_not_isCode rfl, hnext, hc']
      rfl
  | case5 t hc hfeed =>
      have hnext : (Mode.string q).next q.char = .code := by simp [next, hc]
      rw [brackets_cons_of_not_isCode rfl, hnext]
  | case6 c t hc hfeed hquote ih =>
      have hnext : (Mode.string q).next c = .string q := by
        rw [next, if_neg hc, if_neg hfeed, if_neg hquote]
      rw [brackets_cons_of_not_isCode rfl, hnext, ih]
      rfl

theorem brackets_block (t : Text) :
    Mode.block.brackets t = Mode.code.brackets (breakComment t).2 := by
  fun_induction breakComment t with
  | case1 t => rfl
  | case2 c t hopen ih =>
      rw [brackets_cons_of_not_isCode rfl, next]
      split
      · next hc =>
          have hhead : t.head? ≠ some '/' := by
            intro hhead
            obtain ⟨u, rfl⟩ := List.head?_eq_some_iff.mp hhead
            exact hopen u hc rfl
          rw [brackets_star hhead, ih]
          rfl
      · exact ih
  | case3 => rfl

theorem brackets_line (t : Text) :
    Mode.line.brackets t = Mode.code.brackets (t.dropWhile (· ≠ '\n')) := by
  induction t with
  | nil => rfl
  | cons c t ih =>
      by_cases hc : c = '\n'
      · subst hc
        rfl
      · rw [brackets_cons_of_not_isCode rfl, List.dropWhile_cons_of_pos (by simpa using hc)]
        simp only [next, hc, if_false, ih]

/-- What a scan passes over holds no delimiter of the code. -/
theorem brackets_of_pass {c : Char} {t jumped rest : Text} (h : pass c t = some (jumped, rest)) :
    Mode.code.brackets (c :: t) = Mode.code.brackets rest := by
  unfold pass at h
  split at h
  · next t =>
      cases h
      exact brackets_line t
  · next t =>
      cases h
      exact brackets_block t
  · split at h
    · next hquote =>
        obtain ⟨q, hq⟩ := Quote.isQuote_iff.mp hquote
        obtain rfl := Quote.char_of_ofChar? hq
        have hrest : rest = (breakString q.char t).2 := (congrArg Prod.snd (Option.some.inj h)).symm
        rw [hrest, ← brackets_string]
        cases q <;> rfl
    · cases h

end Mode

/-- The delimiters in the code of a text, in order. -/
def brackets (t : Text) : List Bracket := Bracket.word (Bracket.among (scan t 0))

theorem word_among_cons (pos : Nat) (c : Char) (cs : List (Nat × Char)) :
    Bracket.word (Bracket.among ((pos, c) :: cs)) =
      (Bracket.ofChar? c).toList ++ Bracket.word (Bracket.among cs) := by
  cases hc : Bracket.ofChar? c with
  | none => rw [Block.among_cons_of_none hc]; rfl
  | some b => rw [Block.among_cons_of_some hc]; rfl

theorem word_among_scanFrom (pos : Nat) (t : Text) :
    Bracket.word (Bracket.among (scanFrom pos t)) = Mode.code.brackets t := by
  fun_induction scanFrom pos t with
  | case1 => rfl
  | case2 pos c t hpass ih =>
      obtain ⟨hquote, hslash⟩ := pass_eq_none_iff.mp hpass
      have hnext : (Mode.code.next c).brackets t = Mode.code.brackets t := by
        rw [Mode.next, Mode.ofCode]
        split
        · next hc => exact Mode.brackets_slash (hslash hc).1 (hslash hc).2
        · cases hq : Quote.ofChar? c with
          | none => rfl
          | some q => rw [Quote.isQuote_iff.mpr ⟨q, hq⟩] at hquote; cases hquote
      rw [word_among_cons, ih, Mode.brackets, hnext]
      rfl
  | case3 pos c t jumped rest hpass _ ih => rw [ih, Mode.brackets_of_pass hpass]

/-- **A scan finds the delimiters that a reader finds** who does not look ahead. -/
theorem brackets_eq (t : Text) : brackets t = Mode.code.brackets t := by
  rw [brackets, scan_zero, word_among_scanFrom]

end Code

end Graft
