import Graft.Regex.Bracket

/-!
# Reading a pattern

A pattern is read from left to right into a tree (`Node.read`).  The reader holds the groups that
are still open, and of each the alternatives it has seen and the items of the one it is in.
-/

namespace Graft.Regex

/-- What is being read of a group: the alternatives that ended and the items of the current one,
each list with its last element first.  An item that only sets flags is `none`. -/
structure Branch where
  ended : List (Leveled Node) := []
  items : List (Option (Leveled Node)) := []
  deriving DecidableEq, Repr

namespace Branch

def push (b : Branch) (n : Leveled Node) : Branch := { b with items := some n :: b.items }

/-- The items one after the other.  Two or more of them make a level. -/
def sequence (b : Branch) : Leveled Node :=
  let parts := b.items.reduceOption
  let node := match parts with
    | []      => .empty
    | p :: ps => ps.foldl (fun r p => .cat p.value r) p.value
  let depth := parts.foldl (fun d p => max d p.depth) 0
  ⟨node, if b.items.length ≤ 1 then depth else depth + 1⟩

/-- The next alternative starts. -/
def turn (b : Branch) : Branch := ⟨b.sequence :: b.ended, []⟩

/-- The alternatives in their order. -/
def finish (b : Branch) : Leveled Node :=
  let last := b.sequence
  match b.ended with
  | []    => last
  | ended =>
      ⟨ended.foldl (fun r n => .alt n.value r) last.value,
        ended.foldl (fun d n => max d n.depth) last.depth + 1⟩

end Branch

/-- A group that is still open: what stands around it, the flags to go back to, and its number and
name if it is captured. -/
structure OpenGroup where
  around  : Branch
  flags   : Flags
  capture : Option (Nat × Option String)
  deriving DecidableEq, Repr

/-- The reader between two items. -/
structure Reader where
  flags  : Flags := {}
  branch : Branch := {}
  groups : List OpenGroup := []
  count  : Nat := 0
  names  : List String := []
  deriving DecidableEq, Repr

namespace Reader

abbrev Step := Except SyntaxError (Reader × Text)

def push (r : Reader) (n : Leveled Node) : Reader := { r with branch := r.branch.push n }

/-- Opens a captured group. -/
def capture (r : Reader) (name : Option String) : Reader :=
  { r with
    branch := {}
    groups := ⟨r.branch, r.flags, some (r.count + 1, name)⟩ :: r.groups
    count := r.count + 1
    names := name.toList ++ r.names }

def isNameStart (c : Char) : Bool := c == '_' || Unicode.isAlphabetic c

def isNameRest (c : Char) : Bool :=
  c == '_' || c == '.' || c == '[' || c == ']' || Unicode.isAlphanumeric c

/-- The name of a group, up to its closing angle bracket. -/
def readName (r : Reader) (t : Text) : Except SyntaxError (String × Text) :=
  match t.takeWhile (· != '>'), t.dropWhile (· != '>') with
  | c :: cs, _ :: rest =>
      let name := String.ofList (c :: cs)
      if isNameStart c && cs.all isNameRest && !r.names.contains name then .ok (name, rest)
      else .error .groupName
  | _, _ => .error .groupName

/-- What follows an opening parenthesis. -/
def openGroup (r : Reader) (t : Text) : Step := do
  match r.flags.blank t with
  | '?' :: '=' :: _ | '?' :: '!' :: _ | '?' :: '<' :: '=' :: _ | '?' :: '<' :: '!' :: _ =>
      throw .lookAround
  | '?' :: 'P' :: '<' :: t | '?' :: '<' :: t =>
      let (name, rest) ← r.readName t
      return (r.capture (some name), rest)
  | '?' :: t =>
      let (f, seen, ended, rest) ← r.flags.read [] t
      if ended == ':' then
        return ({ r with
          flags := f, branch := {}, groups := ⟨r.branch, r.flags, none⟩ :: r.groups }, rest)
      else if seen.isEmpty then throw .repetition
      else return ({ r with flags := f, branch.items := none :: r.branch.items }, rest)
  | t => return (r.capture none, t)

/-- A closing parenthesis. -/
def closeGroup (r : Reader) : Except SyntaxError Reader :=
  match r.groups with
  | []      => .error .unopenedGroup
  | g :: gs =>
      let inner := r.branch.finish
      let node := match g.capture with
        | some (i, name) => .group i name inner.value
        | none           => inner.value
      .ok { r with
        flags := g.flags, branch := g.around.push ⟨node, inner.depth + 1⟩, groups := gs }

/-- The last item, repeated. -/
def repeatLast (r : Reader) (least : Nat) (most : Option Nat) (greedy : Bool) :
    Except SyntaxError Reader :=
  match r.branch.items with
  | some n :: items =>
      let node := n.value.repeated least most (greedy != r.flags.lazy)
      .ok { r with branch.items := some ⟨node, n.depth + 1⟩ :: items }
  | _ => .error .repetition

/-- Whether a repetition is greedy: a question mark after it says that it is not. -/
def readGreed : Text → Bool × Text
  | '?' :: t => (false, t)
  | t        => (true, t)

/-- A repetition by a sign. -/
def repeatSign (r : Reader) (least : Nat) (most : Option Nat) (t : Text) : Step := do
  let (greedy, rest) := readGreed t
  return (← r.repeatLast least most greedy, rest)

/-- A repetition by a count, its opening brace already read. -/
def repeatCount (r : Reader) (t : Text) : Step := do
  let f := r.flags
  let (least, t) ← f.decimal (f.blank t)
  let (most, t) ← match t with
    | ',' :: t =>
        match f.blank t with
        | '\x7d' :: t => pure (none, '\x7d' :: t)
        | t           => do
            let (most, t) ← f.decimal t
            pure (some most, t)
    | t => pure (some least, t)
  match t with
  | '\x7d' :: t =>
      let (greedy, rest) := readGreed (f.blank t)
      if most.any (· < least) then throw .repetition
      return (← r.repeatLast least most greedy, rest)
  | _ => throw .repetition

/-- The characters that a dot stands for. -/
def dot (f : Flags) : Except SyntaxError CharSet :=
  if !f.unicode then .error .bytes
  else if f.dotAll then .ok (.compl .empty)
  else if f.crlf then .ok (.compl (CharSet.ofList ['\r', '\n']))
  else .ok (.compl (CharSet.single '\n'))

def lineStart (f : Flags) : Look := if f.multiLine then .lineStart f.crlf else .textStart

def lineEnd (f : Flags) : Look := if f.multiLine then .lineEnd f.crlf else .textEnd

/-- Reads the item that starts with `c`. -/
def step (r : Reader) (c : Char) (t : Text) : Step := do
  let leaf (n : Node) : Reader := r.push ⟨n, 0⟩
  match c with
  | '('    => r.openGroup t
  | ')'    => return (← r.closeGroup, t)
  | '|'    => return ({ r with branch := r.branch.turn }, t)
  | '['    =>
      let (s, rest) ← Bracket.readClass r.flags t
      return (r.push ⟨.chars s.value, s.depth⟩, rest)
  | '?'    => r.repeatSign 0 (some 1) t
  | '*'    => r.repeatSign 0 none t
  | '+'    => r.repeatSign 1 none t
  | '\x7b' => r.repeatCount t
  | '.'    => return (leaf (.chars (← dot r.flags)), t)
  | '^'    => return (leaf (.look (lineStart r.flags)), t)
  | '$'    => return (leaf (.look (lineEnd r.flags)), t)
  | '\\'   =>
      let (p, rest) ← Primitive.readEscape r.flags t
      return (leaf (← p.node r.flags), rest)
  | c      => return (leaf (← (Primitive.char c false).node r.flags), t)

/-- Reads `t` to its end.  Every item takes a character, so the fuel need not exceed the length. -/
def run : Nat → Reader → Text → Except SyntaxError Reader
  | n, r, t =>
      match n, r.flags.blank t with
      | _, []         => .ok r
      | 0, _          => .error .size
      | n + 1, c :: t => do
          let (r, rest) ← r.step c t
          run n r rest

end Reader

namespace Node

/-- How deep the written form of a pattern may be nested. -/
def depthLimit : Nat := 250

/-- How large a tree may be.  The limit is meant for the size of an automaton, and a tree is held
against it by an estimate of that (`Node.weight`), so near the limit a tree may be judged wrongly. -/
def weightLimit : Nat := 10485760

/-- The tree of a pattern. -/
def read (t : Text) : Except SyntaxError Node := do
  let r ← Reader.run t.length {} t
  if !r.groups.isEmpty then throw .unclosedGroup
  let whole := r.branch.finish
  if depthLimit < whole.depth then throw .depth
  if weightLimit < whole.value.weight then throw .size
  return whole.value

end Node

end Graft.Regex
