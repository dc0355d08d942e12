import Graft.Text

/-!
# Document

The text of one file, seen as lines.  A line starts at the beginning and after every line feed
that something follows, so a final line feed starts no line and the empty text has one line.

Offsets and line numbers past the end are those of the last line (`Document.lineIndex`,
`Document.lineSpan`), and a window of lines is cut to the document (`Document.window`).
-/

namespace Graft

/-- The text of one file. -/
structure Document where
  text : Text
  deriving DecidableEq

namespace Document

/-- Offsets just after the line feeds of `t` that something follows; `t` starts at `pos`. -/
def startsAfter (pos : Nat) : Text → List Nat
  | []     => []
  | c :: t =>
      let next := pos + c.utf8Size
      if c = '\n' && !t.isEmpty then next :: startsAfter next t else startsAfter next t

/-- Offset of the first character of every line. -/
def lineStarts (d : Document) : List Nat := 0 :: startsAfter 0 d.text

/-- Length in bytes. -/
def size (d : Document) : Nat := Text.size d.text

def lineCount (d : Document) : Nat := d.lineStarts.length

/-- The line that holds `offset`, counted from zero. -/
def lineIndex (d : Document) (offset : Nat) : Nat :=
  (d.lineStarts.countP (· ≤ offset)) - 1

/-- Where a line starts; past the end, where the last line does. -/
def lineStart (d : Document) (line : Nat) : Nat :=
  d.lineStarts.getD (min line (d.lineCount - 1)) 0

/-- The bytes of a line, its terminator included. -/
def lineSpan (d : Document) (line : Nat) : Span where
  start := d.lineStart line
  stop  := d.lineStarts.getD (min line (d.lineCount - 1) + 1) d.size

/-- What stands at a span that is known to be one of the document's. -/
def textAt (d : Document) (s : Span) : Text := (Text.slice? d.text s.start s.stop).getD []

/-- A line without its terminator. -/
def line (d : Document) (line : Nat) : Text :=
  Text.trimEnd '\r' (Text.trimEnd '\n' (d.textAt (d.lineSpan line)))

def lines (d : Document) : List Text := (List.range d.lineCount).map d.line

/-- Whether a line ends in a line feed. -/
def lineTerminated (d : Document) (line : Nat) : Bool :=
  (d.textAt (d.lineSpan line)).getLast? == some '\n'

/-- The bytes of the lines from `first` to `last`. -/
def window (d : Document) (first last : Nat) : Span :=
  let last := min last (d.lineCount - 1)
  let first := min first last
  { start := d.lineStart first, stop := (d.lineSpan last).stop }

/-- The bytes of the lines that `s` touches and of `context` lines on either side. -/
def contextWindow (d : Document) (s : Span) (context : Nat) : Span :=
  d.window (d.lineIndex s.start - context) (d.lineIndex (max (s.stop - 1) s.start) + context)

/-- The blanks and tabs a line starts with. -/
def indentation (d : Document) (line : Nat) : Text :=
  (d.line line).takeWhile fun c => c = ' ' || c = '\t'

/-- The line terminator of this document. -/
def newline (d : Document) : Text :=
  if Text.contains ['\r', '\n'] d.text then ['\r', '\n'] else ['\n']

end Document

end Graft
