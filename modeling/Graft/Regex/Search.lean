import Graft.Regex.Move

/-!
# Searching

A search walks through the text once and keeps all matches that are under way, the preferred ones
first (`Thread`).  Matches that started further left are preferred to later ones, and among those
that started at one place the order of their moves decides.  When one of them is done, those after
it are given up; the ones before it may still find a match that is preferred.
-/

namespace Graft.Regex

/-- A match that is under way: what is left to match, and the groups so far. -/
structure Thread where
  rest   : List Item
  groups : Groups
  deriving DecidableEq, Repr

namespace Thread

def alike (a b : Thread) : Bool :=
  a.rest.length == b.rest.length && (a.rest.zip b.rest).all fun (x, y) => x.alike y

/-- The threads without those that go on like one before them. -/
def distinct : List Thread → List Thread → List Thread
  | kept, []      => kept.reverse
  | kept, t :: ts => if kept.any (alike t) then distinct kept ts else distinct (t :: kept) ts

/-- The threads that take `c`. -/
def take (c : Char) (ms : List Move) : List Thread :=
  distinct [] (ms.filterMap fun m =>
    match m with
    | .eat s rest g => if s.contains c then some ⟨rest, g⟩ else none
    | .done _       => none)

/-- The groups of the first move that is done. -/
def done? (ms : List Move) : Option Groups :=
  ms.findSome? fun m =>
    match m with
    | .done g => some g
    | _       => none

end Thread

/-- A place in a text from which a search starts. -/
structure Cursor where
  pos    : Nat
  before : Option Char
  rest   : Text
  deriving DecidableEq, Repr

namespace Cursor

def ofText (t : Text) : Cursor := ⟨0, none, t⟩

/-- One character further on. -/
def next? (c : Cursor) : Option Cursor :=
  match c.rest with
  | []     => none
  | a :: t => some ⟨c.pos + a.utf8Size, some a, t⟩

/-- Forward to offset `n`. -/
def seek (n pos : Nat) (before : Option Char) : Text → Cursor
  | []     => ⟨pos, before, []⟩
  | a :: t => if n ≤ pos then ⟨pos, before, a :: t⟩ else seek n (pos + a.utf8Size) (some a) t

end Cursor

/-- The moves of all threads at a place, and of a new one if nothing has matched so far. -/
def Thread.moves (root : Node) (threads : List Thread) (best : Option Groups) (p : Place) :
    List Move :=
  let threads := if best.isNone then threads ++ [⟨[.run root], []⟩] else threads
  threads.flatMap fun th => Item.moves p th.rest th.groups

/-- The groups of the preferred match in a text, given the threads under way and the best match so
far. -/
def search (root : Node) (threads : List Thread) (best : Option Groups) (pos : Nat)
    (before : Option Char) : Text → Option Groups
  | []     => Thread.done? (Thread.moves root threads best ⟨pos, before, none⟩) <|> best
  | c :: t =>
      let ms := Thread.moves root threads best ⟨pos, before, some c⟩
      let best := Thread.done? ms <|> best
      let threads := Thread.take c (ms.takeWhile Move.isEat)
      if threads.isEmpty && best.isSome then best
      else search root threads best (pos + c.utf8Size) (some c) t

/-- The leftmost match from a place on; group 0 is the whole match. -/
def Cursor.find? (c : Cursor) (root : Node) : Option Groups :=
  search (.group 0 none root) [] none c.pos c.before c.rest

/-- The span of a whole match. -/
def Groups.whole (g : Groups) : Span := (g.get? 0).getD ⟨0, 0⟩

/-- The matches from a place on that do not overlap.  `last` is where the match before ended: an
empty match there is passed over.  The fuel bounds their number. -/
def Cursor.findAll (root : Node) : Nat → Option Nat → Cursor → List Groups
  | 0, _, _ => []
  | n + 1, last, c =>
      let found := do
        let g ← c.find? root
        if g.whole.start == g.whole.stop && last == some g.whole.stop then
          (← c.next?).find? root
        else some g
      match found with
      | none   => []
      | some g =>
          let stop := g.whole.stop
          g :: findAll root n (some stop) (Cursor.seek stop c.pos c.before c.rest)

end Graft.Regex
