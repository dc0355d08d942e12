import Graft.Code.Balance

/-!
# Block

The first delimited block that opens at or after a place and closes before another.  Delimiters
inside strings and comments do not count, and a block whose delimiters do not pair up is refused.
-/

namespace Graft

/-- Which opening delimiter a block search looks for. -/
inductive BlockKind where
  | any
  | only (d : Delimiter)
  deriving DecidableEq, Repr

/-- The kind of delimiter `c` opens, if the search looks for it. -/
def BlockKind.opener? : BlockKind → Char → Option Delimiter
  | .any, c    => Delimiter.opening? c
  | .only d, c => (Delimiter.opening? c).filter (· = d)

/-- Where a block opens and closes. -/
structure Block where
  opening : Nat
  closing : Nat
  deriving DecidableEq, Repr

/-- Why there is no block. -/
inductive BlockError where
  | noOpening
  | unclosed (opening : Nat)
  | mismatched (opening found : Nat)
  deriving DecidableEq, Repr

namespace Block

/-- Reads on to the end of a block that has opened at `opening`.  `inner` is the innermost
delimiter still open, and `outer` are the ones around it. -/
def closeFrom (opening : Nat) (inner : Delimiter) (outer : List Delimiter) :
    List (Nat × Char) → Except BlockError Block
  | []             => .error (.unclosed opening)
  | (pos, c) :: cs =>
      match Delimiter.opening? c with
      | some d => closeFrom opening d (inner :: outer) cs
      | none =>
          match Delimiter.closing? c with
          | none   => closeFrom opening inner outer cs
          | some d =>
              if d = inner then
                match outer with
                | []             => .ok ⟨opening, pos⟩
                | inner :: outer => closeFrom opening inner outer cs
              else .error (.mismatched opening pos)

/-- The first block of a run of code characters. -/
def openFrom (kind : BlockKind) : List (Nat × Char) → Except BlockError Block
  | []             => .error .noOpening
  | (pos, c) :: cs =>
      match kind.opener? c with
      | some d => closeFrom pos d [] cs
      | none   => openFrom kind cs

/-- The first block of `t` that opens at or after `range.start` and closes before `range.stop`. -/
def find (t : Text) (range : Span) (kind : BlockKind) : Except BlockError Block :=
  openFrom kind ((Code.scan t range.start).takeWhile (·.1 < min range.stop (Text.size t)))

end Block

end Graft
