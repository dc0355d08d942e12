import Graft.Digest
import Graft.Document

/-!
# Edit

The one way a document changes: the bytes of a span are replaced, after a check of what stands
there.  A refusal says which check failed, and the checks run in the order range, first offset,
last offset, text (`Edit.apply`).
-/

namespace Graft

/-- What an edit expects to find at its span. -/
inductive Verification where
  | exact (text : Text)
  | digest (value : UInt64)
  deriving DecidableEq

namespace Verification

/-- The longest text, in bytes, that is kept whole. -/
def exactLimit : Nat := 1024

/-- The check that `t` stands at a span: by its digest when it is long. -/
def ofText (t : Text) : Verification :=
  if exactLimit < Text.size t then .digest (Digest.ofText t) else .exact t

def accepts : Verification → Text → Bool
  | .exact expected, t => t == expected
  | .digest value, t   => Digest.ofText t == value

end Verification

/-- Why a span cannot be edited. -/
inductive EditError where
  | mismatch (at_ : Span) (found : Text)
  | range (at_ : Span) (length : Nat)
  | boundary (offset : Nat)
  deriving DecidableEq

def EditError.message : EditError → String
  | .mismatch s _   => s!"before-text verification failed at [{s.start}, {s.stop})"
  | .range s length =>
      s!"invalid byte range: [{s.start}, {s.stop}) in document of length {length}"
  | .boundary n     => s!"byte offset {n} is not on a character boundary"

/-- The text at a span, or why there is none. -/
def Document.spanText (d : Document) (s : Span) : Except EditError Text :=
  if s.stop < s.start || d.size < s.stop then .error (.range s d.size)
  else if !Text.isBoundary d.text s.start then .error (.boundary s.start)
  else if !Text.isBoundary d.text s.stop then .error (.boundary s.stop)
  else .ok (d.textAt s)

/-- The document with the text at `s` replaced, for a span that is known to be one of its own. -/
def Document.splice (d : Document) (s : Span) (new : Text) : Document :=
  let before := ((Text.splitAt? d.text s.start).map (·.1)).getD []
  let after := ((Text.splitAt? d.text s.stop).map (·.2)).getD []
  ⟨before ++ new ++ after⟩

/-- A replacement of the text at a span. -/
structure Edit where
  span     : Span
  new      : Text
  expected : Verification
  deriving DecidableEq

namespace Edit

/-- The edit that puts `new` for `before`. -/
def replacing (span : Span) (new before : Text) : Edit :=
  { span, new, expected := .ofText before }

/-- The edit that puts `new` at an offset and removes nothing. -/
def insertion (offset : Nat) (new : Text) : Edit := replacing ⟨offset, offset⟩ new []

/-- The edit that puts `new` for what stands at `span` now. -/
def replaceIn (d : Document) (span : Span) (new : Text) : Except EditError Edit :=
  (d.spanText span).map fun before => replacing span new before

/-- Whether the edit puts back what stands at its span. -/
def isNoop (e : Edit) (d : Document) : Bool :=
  match d.spanText e.span with
  | .ok before => before == e.new
  | .error _   => false

/-- The document after the edit, or why it was refused. -/
def apply (e : Edit) (d : Document) : Except EditError Document :=
  match d.spanText e.span with
  | .error why => .error why
  | .ok before =>
      if e.expected.accepts before then .ok (d.splice e.span e.new)
      else .error (.mismatch e.span before)

end Edit

end Graft
