import Graft.Anchor.Template
import Graft.Code.Block
import Graft.Edit

/-!
# Transform

The ways to turn a match into an edit: replace it or one of its groups, or insert whole lines near
it or near the block that follows it.  What is inserted must be balanced, and what is replaced must
keep the balance (`Transform.plan`).

Inserted lines get the document's line terminator and, if asked for, the indentation of their
surroundings (`Transform.fragment`).
-/

namespace Graft

/-- How a match becomes an edit. -/
inductive Transform where
  | replace (text : Text)
  | replaceCapture (capture : String) (text : Text)
  | insertBefore (text : Text)
  | insertAfter (text : Text)
  | insertAfterBlock (text : Text) (kind : BlockKind)
  | insertIntoBlock (text : Text) (kind : BlockKind)
  deriving DecidableEq, Repr

/-- Why a rule does not lead to a new document. -/
inductive Miss where
  | noAnchor
  | captureNotMatched (name : String)
  | unbalanced
  | noBlock
  | blockOutsideWindow
  | mismatchedBlock
  | singleLineBlock
  | noChange
  | edit (why : EditError)
  | markerNotEstablished
  deriving DecidableEq

namespace Miss

def message : Miss → String
  | .noAnchor             => "anchor not found"
  | .captureNotMatched n  => s!"capture '{n}' did not participate in the match"
  | .unbalanced           => "splice would change the delimiter balance"
  | .noBlock              => "no opening delimiter after the anchor"
  | .blockOutsideWindow   => "block does not close within the context window"
  | .mismatchedBlock      => "block has mismatched delimiters"
  | .singleLineBlock      => "block opens and closes on one line; no line to insert before"
  | .noChange             => "rewrite leaves the document unchanged"
  | .edit why             => s!"edit rejected: {why.message}"
  | .markerNotEstablished => "rewrite does not establish the change marker"

def ofBlockError : BlockError → Miss
  | .noOpening      => .noBlock
  | .unclosed _     => .blockOutsideWindow
  | .mismatched _ _ => .mismatchedBlock

end Miss

/-- `t` without `ending` at its end, if it ends so. -/
def Text.dropEnding (ending t : Text) : Text :=
  if ending.isSuffixOf t then t.take (t.length - ending.length) else t

namespace Transform

/-- The word for a transform in a rule file. -/
def keyword : Transform → String
  | .replace _            => "replace"
  | .replaceCapture _ _   => "replace-capture"
  | .insertBefore _       => "insert-before"
  | .insertAfter _        => "insert-after"
  | .insertAfterBlock _ _ => "insert-after-block"
  | .insertIntoBlock _ _  => "insert-into-block"

/-- `text` as whole lines that end in `newline`; lines that are not blank start with `indent`. -/
def fragment (text indent newline : Text) : Text :=
  (Text.lines text).flatMap fun line =>
    (if Text.isBlank line then [] else indent) ++ line ++ newline

/-- The lines to insert, if they are balanced by themselves. -/
def balancedFragment (text indent newline : Text) : Except Miss Text :=
  if (Balance.of text).isZero then .ok (fragment text indent newline) else .error .unbalanced

/-- The insertion of lines after a line.  A last line without a terminator gets one first, and
then the lines inserted lose theirs. -/
def afterLine (d : Document) (line : Nat) (lines : Text) : Edit :=
  let offset := (d.lineSpan line).stop
  if d.lineTerminated line then .insertion offset lines
  else .insertion offset (Text.dropEnding d.newline (d.newline ++ lines))

def findBlock (d : Document) (range : Span) (kind : BlockKind) : Except Miss Block :=
  (Block.find d.text range kind).mapError Miss.ofBlockError

/-- The replacement of what stands at a span by text of the same balance. -/
def substitute (d : Document) (span : Span) (old new : Text) : Except Miss Edit :=
  if Balance.agrees old new then (Edit.replaceIn d span new).mapError .edit
  else .error .unbalanced

/-- The indentation that lines put before the end of a block get: that of the line before, or two
blanks more than the line where the block opens. -/
def innerIndent (d : Document) (opening closing : Nat) : Text :=
  if 1 < closing - opening then d.indentation (closing - 1)
  else d.indentation opening ++ [' ', ' ']

/-- The indentation of a line, if inserted lines are to get it. -/
def lineIndent (d : Document) (matchIndent : Bool) (line : Nat) : Text :=
  if matchIndent then d.indentation line else []

/-- The edit that a match leads to.  A block has to close inside `window`. -/
def plan (d : Document) (m : Match) (window : Span) (matchIndent : Bool) :
    Transform → Except Miss Edit
  | .replace text => substitute d m.span m.text (m.expand d.text text)
  | .replaceCapture capture text =>
      match m.captureSpan capture with
      | none   => .error (.captureNotMatched capture)
      | some s => substitute d s (d.textAt s) (m.expand d.text text)
  | .insertBefore text => do
      let lines ← balancedFragment text (lineIndent d matchIndent (d.lineIndex m.span.start)) d.newline
      return .insertion (d.lineStart (d.lineIndex m.span.start)) lines
  | .insertAfter text => do
      let lines ← balancedFragment text (lineIndent d matchIndent (d.lineIndex m.span.start)) d.newline
      return afterLine d (d.lineIndex (max (m.span.stop - 1) m.span.start)) lines
  | .insertAfterBlock text kind => do
      let block ← findBlock d ⟨m.span.start, window.stop⟩ kind
      let lines ← balancedFragment text (lineIndent d matchIndent (d.lineIndex m.span.start)) d.newline
      return afterLine d (d.lineIndex block.closing) lines
  | .insertIntoBlock text kind => do
      let block ← findBlock d ⟨m.span.start, window.stop⟩ kind
      let first := d.lineIndex block.opening
      let last := d.lineIndex block.closing
      if first = last then throw .singleLineBlock
      let lines ← balancedFragment text
        (if matchIndent then innerIndent d first last else []) d.newline
      return .insertion (d.lineStart last) lines

end Transform

end Graft
