import Graft.Regex.Escape

/-!
# Bracketed classes

A class in brackets is a union of characters, ranges, escapes, named classes and further classes in
brackets.  Unions can be joined by intersection, difference and symmetric difference, from left to
right.
-/

namespace Graft.Regex

/-- Something with the number of levels of its written form. -/
structure Leveled (α : Type) where
  value : α
  depth : Nat
  deriving DecidableEq, Repr

/-- How two unions are joined. -/
inductive Junction where
  | inter
  | diff
  | symmDiff
  deriving DecidableEq, Repr

def Junction.join : Junction → CharSet → CharSet → CharSet
  | .inter, a, b    => .inter a b
  | .diff, a, b     => .diff a b
  | .symmDiff, a, b => .symmDiff a b

/-- A bracket that is still open: whether it is negated, the items of the union being read, the
last one first, and what stands before the union. -/
structure Bracket where
  negated : Bool
  items   : List (Leveled CharSet)
  before  : Option (Junction × Leveled CharSet)
  deriving DecidableEq, Repr

namespace Bracket

def push (b : Bracket) (s : CharSet) : Bracket := { b with items := ⟨s, 0⟩ :: b.items }

/-- The union of the items. -/
def union (b : Bracket) : Leveled CharSet :=
  match b.items with
  | []      => ⟨.empty, 0⟩
  | [i]     => i
  | i :: is =>
      ⟨is.foldl (fun s i => .union i.value s) i.value, is.foldl (fun d i => max d i.depth) i.depth + 1⟩

/-- The union joined with what stands before it. -/
def joined (f : Flags) (b : Bracket) : Leveled CharSet :=
  let right := b.union
  match b.before with
  | none              => right
  | some (by_, left) =>
      ⟨by_.join (Primitive.fold f left.value) (Primitive.fold f right.value),
        max left.depth right.depth + 1⟩

/-- The class of a bracket that closes. -/
def close (f : Flags) (b : Bracket) : Except SyntaxError (Leveled CharSet) := do
  let s := b.joined f
  return ⟨← Primitive.complement f b.negated (Primitive.fold f s.value), s.depth + 1⟩

/-- A new bracket, its opening character already read.  Hyphens that come first are characters,
and so is a closing bracket that comes first. -/
def start (f : Flags) (t : Text) : Except SyntaxError (Bracket × Text) := do
  let t := f.blank t
  let (negated, t) := match t with
    | '^' :: t => (true, f.blank t)
    | t        => (false, t)
  let (hyphens, t) := f.take (· == '-') t.length t
  let b : Bracket := ⟨negated, hyphens.map fun c => ⟨CharSet.single c, 0⟩, none⟩
  match hyphens, t with
  | _, []         => throw .unclosedClass
  | [], ']' :: t  =>
      match f.blank t with
      | [] => throw .unclosedClass
      | t  => return (b.push (CharSet.single ']'), t)
  | _, t          => return (b, t)

/-- A class that goes by its name between colons, the opening bracket already read. -/
def named? (f : Flags) (t : Text) : Option (Except SyntaxError CharSet × Text) :=
  match t with
  | ':' :: t =>
      let (negated, t) := match t with
        | '^' :: t => (true, t)
        | t        => (false, t)
      match t.takeWhile (· != ':'), t.dropWhile (· != ':') with
      | name, ':' :: ']' :: rest =>
          (CharSet.named? (String.ofList name)).map fun s =>
            (Primitive.complement f negated (Primitive.fold f s), rest)
      | _, _ => none
  | _ => none

/-- One character or escape of a class. -/
def readItem (f : Flags) : Text → Except SyntaxError (Primitive × Text)
  | []        => .error .unclosedClass
  | '\\' :: t => Primitive.readEscape f t
  | c :: t    => .ok (.char c false, t)

/-- A character of a class, which has to be one byte when the pattern speaks of bytes. -/
def character (f : Flags) : Primitive → Except SyntaxError Char
  | .char c _ => if f.unicode || c.toNat < 128 then .ok c else .error .bytes
  | _         => .error .range

/-- The set of an item that is no end of a range. -/
def itemSet (f : Flags) : Primitive → Except SyntaxError CharSet
  | .set s  => .ok s
  | .look _ => .error .escape
  | p       => (character f p).map CharSet.single

/-- An item, or a range between two of them.  A hyphen before a closing bracket or before another
hyphen makes no range. -/
def readRange (f : Flags) (t : Text) : Except SyntaxError (CharSet × Text) := do
  let (first, t) ← readItem f t
  match f.blank t with
  | [] => throw .unclosedClass
  | '-' :: t =>
      match f.blank t with
      | []       => throw .unclosedClass
      | ']' :: _ => return (← itemSet f first, '-' :: t)
      | '-' :: _ => return (← itemSet f first, '-' :: t)
      | t =>
          let (last, t) ← readItem f t
          let a ← character f first
          let b ← character f last
          if b < a then throw .range
          return (.range a b, t)
  | t => return (← itemSet f first, t)

/-- The class that opens with the innermost bracket `b` and the brackets around it.  The fuel
bounds the number of items. -/
def read (f : Flags) : Nat → Bracket → List Bracket → Text →
    Except SyntaxError (Leveled CharSet × Text)
  | 0, _, _, _ => .error .unclosedClass
  | n + 1, b, outer, t => do
      let joinBy (j : Junction) (t : Text) :=
        read f n ⟨b.negated, [], some (j, b.joined f)⟩ outer t
      match f.blank t with
      | [] => throw .unclosedClass
      | '[' :: t =>
          match named? f t with
          | some (s, rest) => read f n (b.push (← s)) outer rest
          | none =>
              let (inner, rest) ← start f t
              read f n inner (b :: outer) rest
      | ']' :: t =>
          let s ← b.close f
          match outer with
          | []         => return (s, t)
          | b :: outer => read f n { b with items := s :: b.items } outer t
      | '&' :: '&' :: t => joinBy .inter t
      | '-' :: '-' :: t => joinBy .diff t
      | '~' :: '~' :: t => joinBy .symmDiff t
      | t =>
          let (s, rest) ← readRange f t
          read f n (b.push s) outer rest

/-- A whole class, its opening bracket already read. -/
def readClass (f : Flags) (t : Text) : Except SyntaxError (Leveled CharSet × Text) := do
  let (b, rest) ← start f t
  read f (rest.length + 1) b [] rest

end Bracket

end Graft.Regex
