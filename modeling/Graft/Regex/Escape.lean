import Graft.Regex.Flags
import Graft.Regex.Node
import Graft.Unicode.Ranges

/-!
# Escapes

What a backslash and the characters after it stand for: a character, a set of characters, or a
condition on a place (`Primitive`).
-/

namespace Graft.Regex
open Graft.Unicode

/-- One character or escape of a pattern.  A character written as two hexadecimal digits is a
`byte`. -/
inductive Primitive where
  | char (c : Char) (byte : Bool)
  | set (s : CharSet)
  | look (l : Look)
  deriving DecidableEq, Repr

namespace Primitive

/-- Characters that mean something in a pattern. -/
def special : List Char :=
  ['\\', '.', '+', '*', '?', '(', ')', '|', '[', ']', '\x7b', '\x7d', '^', '$', '#', '&', '-', '~']

/-- Whether a backslash before `c` leaves `c` as it is. -/
def isEscapable (c : Char) : Bool :=
  special.contains c || (c.toNat < 128 && !c.isAlphanum && c != '<' && c != '>')

/-- The set under the case flag. -/
def fold (f : Flags) (s : CharSet) : CharSet :=
  if !f.ignoreCase then s
  else if f.unicode then .folded s
  else .foldedAscii s

/-- The complement, which only whole characters have. -/
def complement (f : Flags) (negated : Bool) (s : CharSet) : Except SyntaxError CharSet :=
  if !negated then .ok s
  else if f.unicode then .ok (.compl s)
  else .error .bytes

/-- The class of a letter `d`, `s` or `w`, or its complement for a capital. -/
def shorthand? (f : Flags) (c : Char) : Option (Except SyntaxError CharSet) :=
  let pick (p : Property) (ascii : CharSet) : Option (Except SyntaxError CharSet) :=
    some (complement f c.isUpper (if f.unicode then .property p else ascii))
  match c.toLower with
  | 'd' => pick (.categories [.decimalNumber]) CharSet.asciiDigit
  | 's' => pick (.derived .whiteSpace) CharSet.asciiSpace
  | 'w' => pick (.derived .word) CharSet.asciiWord
  | _   => none

/-- The character of hexadecimal digits. -/
def ofHex (digits : Text) : Except SyntaxError Char :=
  let n := digits.foldl (fun n d => n * 16 + (Ranges.hexDigit? d).getD 0) 0
  if digits.isEmpty || 0x10FFFF < n || (0xD800 ≤ n && n ≤ 0xDFFF) then .error .escape
  else .ok (Char.ofNat n)

def isHex (c : Char) : Bool := (Ranges.hexDigit? c).isSome

/-- The character after an `x`, `u` or `U`: as many digits as the letter asks for, or any number
of them in braces. -/
def readHex (f : Flags) (letter : Char) (t : Text) : Except SyntaxError (Primitive × Text) := do
  match f.blank t with
  | '\x7b' :: t =>
      let t := f.blank t
      match f.take isHex t.length t with
      | (digits, '\x7d' :: rest) => return (.char (← ofHex digits) false, f.blank rest)
      | _                        => throw .escape
  | t =>
      let count := if letter == 'x' then 2 else if letter == 'u' then 4 else 8
      let (digits, rest) := f.take isHex count t
      if digits.length < count then throw .escape
      return (.char (← ofHex digits) (letter == 'x'), rest)

/-- Cuts a text before the first occurrence of `mark`, which is left out. -/
def cutAt? (mark : Text) : Text → Option (Text × Text)
  | []     => none
  | c :: t =>
      if mark.isPrefixOf (c :: t) then some ([], (c :: t).drop mark.length)
      else (cutAt? mark t).map fun cut => (c :: cut.1, cut.2)

/-- The property that the text in braces names, and whether it is denied. -/
def property? (name : Text) : Option (Property × Bool) :=
  match cutAt? ['!', '='] name with
  | some (k, v) => (Property.findValue? (String.ofList k) (String.ofList v)).map (·, true)
  | none =>
      match cutAt? [':'] name <|> cutAt? ['='] name with
      | some (k, v) => (Property.findValue? (String.ofList k) (String.ofList v)).map (·, false)
      | none        => (Property.find? (String.ofList name)).map (·, false)

/-- The set of a property after a `p`, or its complement after a `P`. -/
def readProperty (f : Flags) (letter : Char) (t : Text) : Except SyntaxError (Primitive × Text) := do
  let (name, rest) ← match f.blank t with
    | '\x7b' :: t =>
        let t := f.blank t
        match f.take (· != '\x7d') t.length t with
        | (name, '\x7d' :: rest) => pure (name, rest)
        | _                      => throw .escape
    | '\\' :: _ => throw .property
    | c :: rest => pure ([c], f.blank rest)
    | []        => throw .escape
  if !f.unicode then throw .bytes
  match property? name with
  | some (p, denied) =>
      let s ← complement f ((letter == 'P') != denied) (fold f (.property p))
      return (.set s, rest)
  | none => throw .property

def isBoundaryLetter (c : Char) : Bool := c.isAlpha || c == '-'

/-- What follows the `b` of a word boundary.  Braces with letters in them say which side of a word
is meant; other braces are left for a repetition. -/
def readBoundary (f : Flags) (t : Text) : Except SyntaxError (Primitive × Text) := do
  match t with
  | '\x7b' :: inner =>
      let inner := f.blank inner
      match inner with
      | [] => throw .escape
      | c :: _ =>
          if !isBoundaryLetter c then return (.look (.wordBoundary (!f.unicode)), t)
          match f.take isBoundaryLetter inner.length inner with
          | (name, '\x7d' :: rest) =>
              match String.ofList name with
              | "start"      => return (.look (.wordStart (!f.unicode)), rest)
              | "end"        => return (.look (.wordEnd (!f.unicode)), rest)
              | "start-half" => return (.look (.wordStartHalf (!f.unicode)), rest)
              | "end-half"   => return (.look (.wordEndHalf (!f.unicode)), rest)
              | _            => throw .escape
          | _ => throw .escape
  | _ => return (.look (.wordBoundary (!f.unicode)), t)

/-- What follows a backslash. -/
def readEscape (f : Flags) : Text → Except SyntaxError (Primitive × Text)
  | []     => .error .escape
  | c :: t =>
      let literal (c : Char) := Except.ok (Primitive.char c false, t)
      let look (l : Look) := Except.ok (Primitive.look l, t)
      if isEscapable c then literal c
      else
        match shorthand? f c with
        | some s => s.map fun s => (.set s, t)
        | none =>
            match c with
            | 'x' | 'u' | 'U' => readHex f c t
            | 'p' | 'P'       => readProperty f c t
            | 'b'             => readBoundary f t
            | 'B'             => look (.notWordBoundary (!f.unicode))
            | '<'             => look (.wordStart (!f.unicode))
            | '>'             => look (.wordEnd (!f.unicode))
            | 'A'             => look .textStart
            | 'z'             => look .textEnd
            | 'a'             => literal '\x07'
            | 'f'             => literal '\x0c'
            | 't'             => literal '\t'
            | 'n'             => literal '\n'
            | 'r'             => literal '\r'
            | 'v'             => literal '\x0b'
            | _               => .error .escape

/-- The set of one character under the flags. -/
def charSet (f : Flags) (c : Char) (byte : Bool) : Except SyntaxError CharSet :=
  if f.unicode then
    .ok (if f.ignoreCase then CharSet.ofList (Folding.variants c) else CharSet.single c)
  else if byte && 127 < c.toNat then .error .bytes
  else .ok (fold f (CharSet.single c))

/-- The expression that stands for a primitive. -/
def node (f : Flags) : Primitive → Except SyntaxError Node
  | .char c byte => (charSet f c byte).map .chars
  | .set s       => .ok (.chars s)
  | .look l      => .ok (.look l)

end Primitive

end Graft.Regex
