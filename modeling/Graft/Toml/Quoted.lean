import Graft.Toml.Value
import Graft.Unicode.Ranges

/-!
# Quoted strings

Strings in double quotes have escapes, and strings in single quotes have none.  Either may be
tripled to span lines: then a line end right after the opening quotes does not count, and one or
two quotes may stand before the closing ones.
-/

namespace Graft.Toml

/-- Characters that may stand in a string or a comment as they are. -/
def isPlain (c : Char) : Bool := c == '\t' || (31 < c.toNat && c != '\x7f')

/-- The character of exactly `n` hexadecimal digits. -/
def readCode (n : Nat) (t : Text) : Except SyntaxError (Char × Text) :=
  let digits := t.take n
  let code := Unicode.Ranges.hex digits
  if digits.length < n || !digits.all (fun c => (Unicode.Ranges.hexDigit? c).isSome) ||
      0x10FFFF < code || (0xD800 ≤ code && code ≤ 0xDFFF) then .error .string
  else .ok (Char.ofNat code, t.drop n)

/-- The character after a backslash. -/
def readEscape : Text → Except SyntaxError (Char × Text)
  | []     => .error .string
  | c :: t =>
      match c with
      | 'b'  => .ok ('\x08', t)
      | 't'  => .ok ('\t', t)
      | 'n'  => .ok ('\n', t)
      | 'f'  => .ok ('\x0c', t)
      | 'r'  => .ok ('\r', t)
      | 'e'  => .ok ('\x1b', t)
      | '"'  => .ok ('"', t)
      | '\\' => .ok ('\\', t)
      | 'x'  => readCode 2 t
      | 'u'  => readCode 4 t
      | 'U'  => readCode 8 t
      | _    => .error .string

def isBlank (c : Char) : Bool := c == ' ' || c == '\t'

/-- What follows a line end, if `t` starts with one. -/
def dropNewline? : Text → Option (Text)
  | '\n' :: t         => some t
  | '\r' :: '\n' :: t => some t
  | _                 => none

/-- `t` without blanks and line ends in front. -/
def dropBlankLines : Text → Text
  | ' ' :: t          => dropBlankLines t
  | '\t' :: t         => dropBlankLines t
  | '\n' :: t         => dropBlankLines t
  | '\r' :: '\n' :: t => dropBlankLines t
  | t                 => t

/-- A string on one line, up to `quote`.  The fuel bounds its length. -/
def readLine (quote : Char) (escapes : Bool) : Nat → Text → Text → Except SyntaxError (String × Text)
  | 0, _, _ => .error .string
  | n + 1, acc, t =>
      match t with
      | []     => .error .string
      | c :: t =>
          if c == quote then .ok (String.ofList acc.reverse, t)
          else if escapes && c == '\\' then do
            let (c, t) ← readEscape t
            readLine quote escapes n (c :: acc) t
          else if isPlain c then readLine quote escapes n (c :: acc) t
          else .error .string

/-- How many characters `quote` the text starts with. -/
def quotes (quote : Char) (t : Text) : Nat := (t.takeWhile (· == quote)).length

/-- A string on several lines, up to three of `quote`.  A backslash at the end of a line takes the
line end and the blanks after it away.  The fuel bounds its length. -/
def readLines (quote : Char) (escapes : Bool) : Nat → Text → Text → Except SyntaxError (String × Text)
  | 0, _, _ => .error .string
  | n + 1, acc, t =>
      let k := quotes quote t
      if 3 ≤ k then
        let kept := min (k - 3) 2
        .ok (String.ofList (acc.reverse ++ List.replicate kept quote), t.drop (kept + 3))
      else
        match t with
        | []                => .error .string
        | '\r' :: '\n' :: t => readLines quote escapes n ('\n' :: '\r' :: acc) t
        | c :: t =>
            if escapes && c == '\\' then
              match dropNewline? (t.dropWhile isBlank) with
              | some t => readLines quote escapes n acc (dropBlankLines t)
              | none   => do
                  let (c, t) ← readEscape t
                  readLines quote escapes n (c :: acc) t
            else if isPlain c || c == '\n' then readLines quote escapes n (c :: acc) t
            else .error .string

/-- A string whose first quote is already read. -/
def readString (quote : Char) (t : Text) : Except SyntaxError (String × Text) :=
  let escapes := quote == '"'
  match t with
  | a :: b :: t =>
      if a == quote && b == quote then
        readLines quote escapes (t.length + 1) [] ((dropNewline? t).getD t)
      else readLine quote escapes (t.length + 3) [] (a :: b :: t)
  | t => readLine quote escapes (t.length + 1) [] t

/-- A string on one line whose quote is already read. -/
def readShort (quote : Char) (t : Text) : Except SyntaxError (String × Text) :=
  readLine quote (quote == '"') (t.length + 1) [] t

end Graft.Toml
