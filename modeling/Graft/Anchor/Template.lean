import Graft.Anchor.Match

/-!
# Template

The text that a rule puts in place of a match.  A dollar sign refers to a group of the match: by a
name in braces, or by the letters, digits and underscores that follow it.  Two of them stand for
one, and a dollar sign that refers to nothing stands for itself (`Template.tokens`).
-/

namespace Graft

namespace Template

/-- A part of a template. -/
inductive Token where
  | char (c : Char)
  | group (name : Text)
  deriving DecidableEq, Repr

/-- A letter, a digit or the underscore, among the first 128 characters. -/
def isNameChar (c : Char) : Bool := c.isAlphanum || c == '_'

/-- The name of a group after a dollar sign, and what follows it. -/
def reference? (t : Text) : Option (Text × Text) :=
  match t with
  | '\x7b' :: t =>
      if (t.takeWhile (· != '\x7d')).isEmpty || (t.dropWhile (· != '\x7d')).isEmpty then none
      else some (t.takeWhile (· != '\x7d'), (t.dropWhile (· != '\x7d')).tail)
  | t =>
      if (t.takeWhile isNameChar).isEmpty then none
      else some (t.takeWhile isNameChar, t.dropWhile isNameChar)

theorem length_dropWhile_le (p : Char → Bool) (t : Text) : (t.dropWhile p).length ≤ t.length :=
  (List.dropWhile_sublist p).length_le

theorem length_of_reference? {t name rest : Text} (h : reference? t = some (name, rest)) :
    rest.length ≤ t.length := by
  unfold reference? at h
  split at h
  · split at h
    · cases h
    · injection h with h; injection h with _ h; subst h
      have := length_dropWhile_le (· != '\x7d') ‹Text›
      simp only [List.length_tail, List.length_cons]
      omega
  · split at h
    · cases h
    · injection h with h; injection h with _ h; subst h
      exact length_dropWhile_le _ _

/-- The parts of a template. -/
def tokens (t : Text) : List Token :=
  match t with
  | []     => []
  | c :: t =>
      if c != '$' then .char c :: tokens t
      else
        match t with
        | '$' :: t => .char '$' :: tokens t
        | t =>
            match h : reference? t with
            | some (name, rest) =>
                have := length_of_reference? h
                .group name :: tokens rest
            | none => .char '$' :: tokens t
termination_by t.length

/-- What a part stands for in a match; a group that is unknown, or took no part, stands for
nothing. -/
def Token.value (m : Match) (source : Text) : Token → Text
  | .char c     => [c]
  | .group name => (m.capture source (String.ofList name)).getD []

end Template

/-- `template` filled in from a match in `source`. -/
def Match.expand (m : Match) (source template : Text) : Text :=
  (Template.tokens template).flatMap (Template.Token.value m source)

end Graft
