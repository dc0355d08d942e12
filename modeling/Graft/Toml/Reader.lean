import Graft.Toml.Scalar
import Graft.Toml.Tree

/-!
# Reading a document

A document is read line by line into a tree of tables (`Toml.read`).
-/

namespace Graft.Toml

/-- `t` after a comment, if one stands there; a comment ends before the end of its line. -/
def dropComment (t : Text) : Except SyntaxError (Text) :=
  match t with
  | '#' :: t =>
      match t.dropWhile isPlain with
      | []                => .ok []
      | '\n' :: t         => .ok ('\n' :: t)
      | '\r' :: '\n' :: t => .ok ('\n' :: t)
      | _                 => .error .line
  | t => .ok t

/-- `t` after blanks, line ends and comments.  The fuel bounds their number. -/
def dropSpace : Nat → Text → Except SyntaxError (Text)
  | 0, t     => .ok t
  | n + 1, t => do
      let t ← dropComment (dropBlankLines t)
      match t with
      | '\n' :: _ => dropSpace n t
      | t         => .ok t

def space (t : Text) : Except SyntaxError (Text) := dropSpace (t.length + 1) t

/-- The end of a line that holds nothing more. -/
def endLine (t : Text) : Except SyntaxError (Text) := do
  match ← dropComment (t.dropWhile isBlank) with
  | [] => .ok []
  | t  =>
      match dropNewline? t with
      | some t => .ok t
      | none   => .error .line

def isBare (c : Char) : Bool := c.isAlphanum || c == '_' || c == '-'

/-- One part of a key. -/
def readSimpleKey : Text → Except SyntaxError (String × Text)
  | '"' :: t  => (readShort '"' t).mapError fun _ => .key
  | '\'' :: t => (readShort '\'' t).mapError fun _ => .key
  | t =>
      if (t.takeWhile isBare).isEmpty then .error .key
      else .ok (String.ofList (t.takeWhile isBare), t.dropWhile isBare)

/-- A key with dots between its parts.  The fuel bounds their number. -/
def readKey : Nat → Text → Except SyntaxError (List String × Text)
  | 0, _     => .error .key
  | n + 1, t => do
      let (key, t) ← readSimpleKey (t.dropWhile isBlank)
      match t.dropWhile isBlank with
      | '.' :: t =>
          let (path, t) ← readKey n t
          return (key :: path, t)
      | t => return ([key], t)

/-- A key and the equals sign after it. -/
def readKeyEquals (t : Text) : Except SyntaxError (List String × Text) := do
  match ← readKey (t.length + 1) t with
  | (path, '=' :: t) => return (path, t.dropWhile isBlank)
  | _                => throw .key

mutual

/-- A value.  `depth` bounds how deep arrays and tables may be nested, and the fuel how many there
are. -/
def readValue (depth : Nat) : Nat → Text → Except SyntaxError (Value × Text)
  | 0, _     => .error .value
  | n + 1, t =>
      match t with
      | '"' :: t  => (readString '"' t).map fun r => (.string r.1, r.2)
      | '\'' :: t => (readString '\'' t).map fun r => (.string r.1, r.2)
      | '[' :: t  => if depth = 0 then .error .depth else readItems (depth - 1) n [] t
      | '\x7b' :: t => if depth = 0 then .error .depth else readFields (depth - 1) n [] t
      | t         => do
          let (word, rest) := readAtom t
          return (← atom word, rest)

/-- The items of an array, up to its closing bracket. -/
def readItems (depth : Nat) : Nat → List Value → Text → Except SyntaxError (Value × Text)
  | 0, _, _ => .error .unclosed
  | n + 1, acc, t => do
      match ← space t with
      | ']' :: t => return (.array acc.reverse, t)
      | t =>
          let (v, t) ← readValue depth n t
          match ← space t with
          | ',' :: t => readItems depth n (v :: acc) t
          | ']' :: t => return (.array (v :: acc).reverse, t)
          | _        => throw .unclosed

/-- The fields of a table in braces, up to the closing one. -/
def readFields (depth : Nat) : Nat → Entries → Text → Except SyntaxError (Value × Text)
  | 0, _, _ => .error .unclosed
  | n + 1, es, t => do
      match ← space t with
      | '\x7d' :: t => return (.table (Tree.toEntries es), t)
      | t =>
          let (path, t) ← readKeyEquals t
          let (v, t) ← readValue depth n t
          let es ← Tree.insert v es path
          match ← space t with
          | ',' :: t    => readFields depth n es t
          | '\x7d' :: t => return (.table (Tree.toEntries es), t)
          | _           => throw .unclosed

end

/-- How deep values may be nested. -/
def depthLimit : Nat := 80

/-- The tables read so far, and the header that the next keys belong to. -/
structure Draft where
  entries : Entries := []
  header  : List String := []

namespace Draft

/-- Reads what stands on a line that is not empty: a header, or a key with its value. -/
def readLine (d : Draft) (t : Text) : Except SyntaxError (Draft × Text) := do
  match t with
  | '[' :: '[' :: t =>
      match ← readKey (t.length + 1) t with
      | (path, ']' :: ']' :: t) => return (⟨← Tree.openElement d.entries path, path⟩, t)
      | _                       => throw .key
  | '[' :: t =>
      match ← readKey (t.length + 1) t with
      | (path, ']' :: t) => return (⟨← Tree.openTable d.entries path, path⟩, t)
      | _                => throw .key
  | t =>
      let (path, t) ← readKeyEquals t
      let (v, t) ← readValue depthLimit (2 * t.length + 2) t
      let entries ← Tree.atHeader (fun es => Tree.insert v es path) d.entries d.header
      return ({ d with entries }, t)

/-- Reads lines to the end.  Every line takes a character, so the fuel need not exceed the
length. -/
def readLines : Nat → Draft → Text → Except SyntaxError Draft
  | n, d, t =>
      match n, dropBlankLines t with
      | _, []     => .ok d
      | 0, _      => .error .line
      | n + 1, '#' :: t => do readLines n d (← endLine ('#' :: t))
      | n + 1, t  => do
          let (d, t) ← d.readLine t
          readLines n d (← endLine t)

end Draft

/-- The root table of a document; a byte order mark in front does not count. -/
def read (t : Text) : Except SyntaxError (List (String × Value)) := do
  let t := match t with
    | '\ufeff' :: t => t
    | t             => t
  let d ← Draft.readLines (t.length + 1) {} t
  return Tree.toEntries d.entries

end Graft.Toml
