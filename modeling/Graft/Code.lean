import Graft.Text

/-!
# Code

The characters of a text that are code: those outside quoted strings, template literals, line
comments and block comments, as C-like languages write them.

The scan jumps over what is not code.  A line comment ends before its line feed and a block comment
after the first `*/` that follows its opener.  A string ends after its closing quote; between single
or double quotes an unescaped line feed ends it too, and is code again.  What is never closed runs
to the end of the text.
-/

namespace Graft.Code

def isQuote (c : Char) : Bool := c = '\'' || c = '"' || c = '`'

/-- A cut with `c` put in front. -/
def cons (c : Char) (cut : Text × Text) : Text × Text := (c :: cut.1, cut.2)

/-- The part of `t` that belongs to a string `quote` has opened, and the rest. -/
def breakString (quote : Char) : Text → Text × Text
  | []     => ([], [])
  | c :: t =>
      if c = '\\' then
        match t with
        | []     => ([c], [])
        | d :: t => cons c (cons d (breakString quote t))
      else if c = '\n' && quote != '`' then ([], c :: t)
      else if c = quote then ([c], t)
      else cons c (breakString quote t)

/-- The part of `t` up to the first `*/`, and the rest. -/
def breakComment : Text → Text × Text
  | '*' :: '/' :: t => (['*', '/'], t)
  | c :: t          => cons c (breakComment t)
  | []              => ([], [])

/-- What a text that starts with `c` and goes on with `t` passes over after `c`, and the rest, when
`c` is not code. -/
def pass (c : Char) (t : Text) : Option (Text × Text) :=
  match c, t with
  | '/', '/' :: t => some ('/' :: t.takeWhile (· ≠ '\n'), t.dropWhile (· ≠ '\n'))
  | '/', '*' :: t => some (cons '*' (breakComment t))
  | c, t          => if isQuote c then some (breakString c t) else none

theorem breakString_append (quote : Char) (t : Text) :
    (breakString quote t).1 ++ (breakString quote t).2 = t := by
  fun_induction breakString quote t <;> simp_all [cons]

theorem breakComment_append (t : Text) : (breakComment t).1 ++ (breakComment t).2 = t := by
  fun_induction breakComment t <;> simp_all [cons]

/-- Nothing is lost: what is passed over and the rest make up the text. -/
theorem append_of_pass {c : Char} {t jumped rest : Text} (h : pass c t = some (jumped, rest)) :
    jumped ++ rest = t := by
  unfold pass at h
  split at h
  · simp only [Option.some.injEq, Prod.mk.injEq] at h
    obtain ⟨rfl, rfl⟩ := h
    simp
  · simp only [cons, Option.some.injEq, Prod.mk.injEq] at h
    obtain ⟨rfl, rfl⟩ := h
    simp [breakComment_append]
  · split at h
    · have := breakString_append c t
      simp_all
    · cases h

/-- The code characters of `t` with their offsets; `t` starts at `pos`. -/
def scanFrom (pos : Nat) : Text → List (Nat × Char)
  | []     => []
  | c :: t =>
      match h : pass c t with
      | none              => (pos, c) :: scanFrom (pos + c.utf8Size) t
      | some (jumped, rest) =>
          have : rest.length ≤ t.length := by simp [← append_of_pass h]
          scanFrom (pos + c.utf8Size + Text.size jumped) rest
termination_by t => t.length

/-- The code characters of `t` from offset `start` on, with their offsets.  There are none when
`start` is inside a character or past the end. -/
def scan (t : Text) (start : Nat) : List (Nat × Char) :=
  match Text.splitAt? t start with
  | some (_, rest) => scanFrom start rest
  | none           => []

end Graft.Code
