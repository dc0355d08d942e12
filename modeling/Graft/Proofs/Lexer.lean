import Graft.Proofs.Bytes
import Graft.Proofs.Mode

/-!
# A lexer

A scan finds the code of a text by jumps: it searches for the end of each string and comment and goes
on there.  A lexer takes one character after the other.  It keeps what the character belongs to
(`Code.Lexer.State`) and sees no more than the character and the next one.  A line feed is no part of
the string or the line comment that it ends (`Code.Lexer.State.atChar`), the star that opens a block
comment cannot close it, and a backslash takes any character with it.

* `Code.Lexer.codes_of_pass`: the lexer walks through a string or a comment to where a scan jumps.
* `Code.scan_eq_lexer`: so the two find the same characters at the same places, from every offset.
-/

namespace Graft

namespace Code

namespace Lexer

/-- The parts of a block comment after its first slash. -/
inductive Part where
  /-- The star of `/*`. -/
  | opener
  | body
  /-- The slash of `*/`. -/
  | closer
  deriving DecidableEq, Repr

/-- What a character belongs to. -/
inductive State where
  | code
  | quoted (q : Quote)
  /-- After a backslash in a string. -/
  | escaped (q : Quote)
  | line
  | block (part : Part)
  deriving DecidableEq, Repr

namespace State

/-- The state at `c`: a line feed ends a line comment, and a string that is no template literal,
before itself. -/
def atChar (s : State) (c : Char) : State :=
  match s with
  | .quoted q => if c = '\n' && q != .back then .code else .quoted q
  | .line     => if c = '\n' then .code else .line
  | s         => s

/-- The state after `c`, before the character `next`. -/
def step (s : State) (c : Char) (next : Option Char) : State :=
  match s with
  | .code =>
      if c = '/' && next = some '/' then .line
      else if c = '/' && next = some '*' then .block .opener
      else
        match Quote.ofChar? c with
        | some q => .quoted q
        | none   => .code
  | .quoted q      => if c = '\\' then .escaped q else if c = q.char then .code else .quoted q
  | .escaped q     => .quoted q
  | .line          => .line
  | .block .opener => .block .body
  | .block .body   => if c = '*' && next = some '/' then .block .closer else .block .body
  | .block .closer => .code

end State

/-- A character that the lexer comes to: where it is, what is next, and what it belongs to. -/
structure Visit where
  pos   : Nat
  char  : Char
  next  : Option Char
  state : State
  deriving DecidableEq, Repr

/-- Whether a comment begins with the character. -/
def Visit.opensComment (v : Visit) : Bool :=
  v.char = '/' && (v.next = some '/' || v.next = some '*')

/-- Whether the character is in code, and neither a quotation mark nor the beginning of a comment. -/
def Visit.isCode (v : Visit) : Bool := v.state = .code && !isQuote v.char && !v.opensComment

/-- The characters of `t` as the lexer comes to them; `t` starts at `pos`. -/
def visits (s : State) (pos : Nat) : Text → List Visit
  | []     => []
  | c :: t => ⟨pos, c, t.head?, s.atChar c⟩ ::
      visits ((s.atChar c).step c t.head?) (pos + c.utf8Size) t

/-- The characters of `t` that are code, with their offsets. -/
def codes (s : State) (pos : Nat) (t : Text) : List (Nat × Char) :=
  ((visits s pos t).filter Visit.isCode).map fun v => (v.pos, v.char)

/-! ### One character -/

variable {s s' : State} {pos : Nat} {c : Char} {t : Text}

/-- Only the state at the first character matters. -/
theorem codes_congr (h : s.atChar c = s'.atChar c) :
    codes s pos (c :: t) = codes s' pos (c :: t) := by
  rw [codes, codes, visits, visits, h]

/-- A character that is not code only changes the state. -/
theorem codes_skip (h : Visit.isCode ⟨pos, c, t.head?, s.atChar c⟩ = false) :
    codes s pos (c :: t) = codes ((s.atChar c).step c t.head?) (pos + c.utf8Size) t := by
  rw [codes, visits, List.filter_cons_of_neg (by rw [h]; decide)]
  rfl

/-- One character further in a string or a comment. -/
theorem codes_walk (hat : s.atChar c = s) (hs : s ≠ .code) :
    codes s pos (c :: t) = codes (s.step c t.head?) (pos + c.utf8Size) t := by
  rw [codes_skip (by simp [Visit.isCode, hat, hs]), hat]

/-- **A character of code is found** unless it is a quotation mark or begins a comment. -/
theorem codes_of_none (h : pass c t = none) :
    codes .code pos (c :: t) = (pos, c) :: codes .code (pos + c.utf8Size) t := by
  obtain ⟨hquote, hslash⟩ := pass_eq_none_iff.mp h
  have hcode : Visit.isCode ⟨pos, c, t.head?, State.code.atChar c⟩ = true := by
    by_cases hc : c = '/'
    · simp [Visit.isCode, Visit.opensComment, State.atChar, hquote, hslash hc]
    · simp [Visit.isCode, Visit.opensComment, State.atChar, hquote, hc]
  have hnone : Quote.ofChar? c = none := by
    cases hq : Quote.ofChar? c with
    | none => rfl
    | some q => rw [Quote.isQuote_iff.mpr ⟨q, hq⟩] at hquote; cases hquote
  have hstep : (State.code.atChar c).step c t.head? = .code := by
    by_cases hc : c = '/'
    · simp [State.atChar, State.step, hslash hc, hnone]
    · simp [State.atChar, State.step, hc, hnone]
  rw [codes, visits, List.filter_cons_of_pos hcode, List.map_cons, hstep]
  rfl

/-! ### Strings and comments -/

/-- The lexer goes through a string to its end. -/
theorem codes_quoted (q : Quote) (pos : Nat) (t : Text) :
    codes (.quoted q) pos t =
      codes .code (pos + Text.size (breakString q.char t).1) (breakString q.char t).2 := by
  have hback : ∀ c : Char, (c = '\n' && q != .back) = (c = '\n' && q.char != '`') := by
    intro c
    cases q <;> rfl
  fun_induction breakString q.char t generalizing pos with
  | case1 => rfl
  | case2 =>
      rw [codes_walk (by simp [State.atChar]) (by simp)]
      rfl
  | case3 d t ih =>
      rw [codes_walk (by simp [State.atChar]) (by simp), State.step, if_pos rfl,
        codes_walk rfl (by simp), State.step, ih, cons, cons, Text.add_size_cons, Text.add_size_cons]
  | case4 c t hc hfeed =>
      -- the line feed is code, as it is where the scan goes on
      have hcode : (State.quoted q).atChar c = State.code.atChar c := by
        rw [State.atChar, hback, if_pos hfeed]
        rfl
      exact codes_congr hcode
  | case5 t hc hfeed =>
      have hat : (State.quoted q).atChar q.char = .quoted q := by
        rw [State.atChar, hback, if_neg hfeed]
      rw [codes_walk hat (by simp), State.step, if_neg hc, if_pos rfl]
      rfl
  | case6 c t hc hfeed hquote ih =>
      have hat : (State.quoted q).atChar c = .quoted q := by
        rw [State.atChar, hback, if_neg hfeed]
      rw [codes_walk hat (by simp), State.step, if_neg hc, if_neg hquote, ih, cons,
        Text.add_size_cons]

theorem codes_line (pos : Nat) (t : Text) :
    codes .line pos t =
      codes .code (pos + Text.size (t.takeWhile (· ≠ '\n'))) (t.dropWhile (· ≠ '\n')) := by
  induction t generalizing pos with
  | nil => rfl
  | cons c t ih =>
      by_cases hc : c = '\n'
      · subst hc
        exact codes_congr rfl
      · have hat : State.line.atChar c = .line := if_neg hc
        rw [codes_walk hat (by simp), State.step, ih,
          List.takeWhile_cons_of_pos (by simpa using hc),
          List.dropWhile_cons_of_pos (by simpa using hc), Text.add_size_cons]

theorem codes_body (pos : Nat) (t : Text) :
    codes (.block .body) pos t =
      codes .code (pos + Text.size (breakComment t).1) (breakComment t).2 := by
  fun_induction breakComment t generalizing pos with
  | case1 t =>
      have hclose : (State.block .body).step '*' ('/' :: t).head? = .block .closer := rfl
      rw [codes_walk rfl (by simp), hclose, codes_walk rfl (by simp)]
      rfl
  | case2 c t hopen ih =>
      have hbody : (State.block .body).step c t.head? = .block .body := by
        refine if_neg ?_
        simp only [Bool.and_eq_true, decide_eq_true_eq, not_and]
        rintro rfl hhead
        obtain ⟨u, rfl⟩ := List.head?_eq_some_iff.mp hhead
        exact hopen u rfl rfl
      rw [codes_walk rfl (by simp), hbody, ih, cons, Text.add_size_cons]
  | case3 => rfl

/-- **The lexer walks where a scan jumps.** -/
theorem codes_of_pass {jumped rest : Text} (h : pass c t = some (jumped, rest)) :
    codes .code pos (c :: t) = codes .code (pos + c.utf8Size + Text.size jumped) rest := by
  unfold pass at h
  split at h
  · next t =>
      cases h
      rw [codes_skip rfl]
      exact codes_line _ ('/' :: t)
  · next t =>
      cases h
      have hopen : (State.code.atChar '/').step '/' ('*' :: t).head? = .block .opener := rfl
      rw [codes_skip rfl, hopen, codes_walk rfl (by simp), State.step, codes_body, Text.add_size_cons]
  · split at h
    · next hquote =>
        obtain ⟨q, hq⟩ := Quote.isQuote_iff.mp hquote
        obtain rfl := Quote.char_of_ofChar? hq
        have hopen : (State.code.atChar q.char).step q.char t.head? = .quoted q := by
          cases q <;> rfl
        rw [codes_skip (by simp [Visit.isCode, hquote]), hopen, codes_quoted, Option.some.inj h]
    · cases h

/-- A comment is not closed by the star that opens it. -/
example : codes .code 0 ['/', '*', '/', '(', '*', '/', ')'] = [(6, ')')] := by decide

/-- **What a scan finds** from a place on, the lexer finds that starts there in code. -/
theorem scanFrom_eq_codes (pos : Nat) (t : Text) : scanFrom pos t = codes .code pos t := by
  fun_induction scanFrom pos t with
  | case1 => rfl
  | case2 pos c t hpass ih => rw [codes_of_none hpass, ih]
  | case3 pos c t jumped rest hpass _ ih => rw [codes_of_pass hpass, ih]

end Lexer

/-- A scan comes to the end of every text. -/
theorem arrives_end (t : Text) : Arrives t [] := by
  fun_induction scanFrom 0 t with
  | case1 => exact .nil []
  | case2 pos c t hpass ih => exact .code (by simpa using hpass) ih
  | case3 pos c t jumped rest hpass _ ih =>
      obtain rfl := append_of_pass hpass
      exact .past (by simpa using hpass) ih

/-- **A scan finds what the lexer finds.**  It starts at `start`, or at the end of the text if `start`
is past it or inside a character.  The lexer starts in code at the same place, and the scan finds
exactly the characters at which the lexer is in code, less the quotation marks and the slashes that
begin a comment.  The scan comes to the end of every text, and the offsets that it tells increase and
are between characters. -/
theorem scan_eq_lexer (t : Text) (start : Nat) :
    ∃ pre rest, t = pre ++ rest ∧
      Text.size pre = (if Text.isBoundary t start then start else Text.size t) ∧
      scan t start = ((Lexer.visits .code (Text.size pre) rest).filter Lexer.Visit.isCode).map
        (fun v => (v.pos, v.char)) ∧
      Arrives rest [] ∧
      (scan t start).Pairwise (fun x y => x.1 < y.1) ∧
      ∀ x ∈ scan t start, Text.Boundary t x.1 := by
  have hboundary : ∀ x ∈ scan t start, Text.Boundary t x.1 := by
    rintro ⟨p, c⟩ hmem
    obtain ⟨u, x, v, rfl, rfl, rfl⟩ := exists_of_mem_scan hmem
    rw [← List.append_assoc, ← Text.size_append]
    exact Text.boundary_append
  rcases scan_cases t start with ⟨pre, rest, rfl, rfl, hscan⟩ | ⟨hstart, hscan⟩
  · have hstart : Text.isBoundary (pre ++ rest) (Text.size pre) = true :=
      Text.isBoundary_iff.mpr ⟨pre, rest, rfl, rfl⟩
    refine ⟨pre, rest, rfl, (if_pos hstart).symm, ?_, arrives_end rest, scan_sorted _ _, hboundary⟩
    rw [hscan, Lexer.scanFrom_eq_codes, Lexer.codes]
  · exact ⟨t, [], (List.append_nil t).symm, by rw [hstart]; rfl, hscan, .nil [], scan_sorted _ _,
      hboundary⟩

/-- From the slash in `"é/*/(*/'\'[` + line feed + `)` on, the scan finds the last two characters: the
comment is not closed by its first star, and the string ends with its line. -/
theorem scan_eq_lexer_inside :
    let t := ['"', 'é', '/', '*', '/', '(', '*', '/', '\'', '\\', '\'', '[', '\n', ')']
    scan t 3 = [(13, '\n'), (14, ')')] ∧
      scan t 3 = ((Lexer.visits .code 3 (t.drop 2)).filter Lexer.Visit.isCode).map
        (fun v => (v.pos, v.char)) ∧
      Arrives (t.drop 2) [] ∧ Text.Boundary t 14 := by
  intro t
  have hscan : scan t 3 = [(13, '\n'), (14, ')')] := by cbv
  have hcut : Text.splitAt? t 3 = some (t.take 2, t.drop 2) := by cbv
  obtain ⟨pre, rest, htext, hpre, hlexer, harrives, -, hboundary⟩ := scan_eq_lexer t 3
  have hsize : Text.size pre = 3 := hpre
  obtain ⟨-, rfl⟩ := Prod.mk.inj
    (Option.some.inj ((Text.splitAt?_eq_some_iff.mpr ⟨htext, hsize⟩).symm.trans hcut))
  rw [hsize] at hlexer
  exact ⟨hscan, hlexer, harrives, hboundary (14, ')') (by simp [hscan])⟩

end Code

end Graft
