import Graft.Regex

/-!
# Anchor

A landmark in a text: a literal or a regular expression, with the part that it plays in the code.
A pattern that matches the empty text would stand everywhere, so there is no anchor of it
(`Anchor.ofPattern`): neither of the empty literal nor of such a regular expression.
-/

namespace Graft

/-- The part that a landmark plays. -/
inductive Role where
  | importStatement
  | routeDeclaration
  | routeRegistration
  | constructorCall
  | assignment
  | declaration
  | other
  deriving DecidableEq, Repr

namespace Role

def all : List Role :=
  [.importStatement, .routeDeclaration, .routeRegistration, .constructorCall, .assignment,
   .declaration, .other]

/-- The word for a role in a rule file. -/
def keyword : Role → String
  | .importStatement   => "import"
  | .routeDeclaration  => "route-declaration"
  | .routeRegistration => "route-registration"
  | .constructorCall   => "constructor-call"
  | .assignment        => "assignment"
  | .declaration       => "declaration"
  | .other             => "other"

/-- What a landmark of this role is called in a message. -/
def label : Role → String
  | .importStatement   => "import statement"
  | .routeDeclaration  => "route declaration"
  | .routeRegistration => "route registration"
  | .constructorCall   => "object constructor call"
  | .assignment        => "assignment"
  | .declaration       => "declaration"
  | .other             => "landmark"

end Role

/-- What a landmark looks like. -/
inductive Pattern where
  | literal (needle : Text)
  | regex (r : Regex)
  deriving DecidableEq, Repr

/-- Why a landmark, or a reference to one of its groups, cannot be used. -/
inductive AnchorError where
  | empty
  | malformed (source : Text) (why : Regex.SyntaxError)
  | matchesEmpty (source : Text)
  | unknownCapture (name : String) (source : Text)
  | literalCapture (name : String) (needle : Text)
  deriving DecidableEq, Repr

def AnchorError.message : AnchorError → String
  | .empty              => "anchor pattern is empty"
  | .malformed s why    => s!"invalid regex '{String.ofList s}': {why.message}"
  | .matchesEmpty s     =>
      s!"invalid regex '{String.ofList s}': pattern matches the empty string"
  | .unknownCapture n s => s!"capture '{n}' is not defined by pattern '{String.ofList s}'"
  | .literalCapture n s =>
      s!"capture '{n}' requires a regex anchor, but '{String.ofList s}' is a literal"

namespace Pattern

/-- Whether the pattern matches the empty text. -/
def matchesEmpty : Pattern → Bool
  | .literal needle => needle.isEmpty
  | .regex r        => r.isMatch []

/-- Why a pattern that matches the empty text is refused. -/
def emptyError : Pattern → AnchorError
  | .literal _ => .empty
  | .regex r   => .matchesEmpty r.source

end Pattern

/-- A landmark. -/
structure Anchor where
  pattern : Pattern
  role    : Role
  proper  : pattern.matchesEmpty = false
  deriving DecidableEq, Repr

/-- The largest offset or number of a group. -/
def largestIndex : Nat := 18446744073709551615

/-- The number that a name spells in decimal digits, a plus sign before them or not. -/
def numeral? (name : String) : Option Nat :=
  let digits := match name.toList with
    | '+' :: ds => ds
    | ds        => ds
  let n := digits.foldl (fun n d => n * 10 + (d.toNat - 48)) 0
  if !digits.isEmpty && digits.all Char.isDigit && n ≤ largestIndex then some n else none

namespace Anchor

/-- The anchor of a pattern, if it has one. -/
def ofPattern (p : Pattern) (role : Role) : Except AnchorError Anchor :=
  if h : p.matchesEmpty then .error p.emptyError else .ok ⟨p, role, eq_false_of_ne_true h⟩

def literal (needle : Text) (role : Role) : Except AnchorError Anchor :=
  ofPattern (.literal needle) role

def regex (source : Text) (role : Role) : Except AnchorError Anchor :=
  if source.isEmpty then .error .empty
  else
    match Regex.ofText source with
    | .error why => .error (.malformed source why)
    | .ok r      => ofPattern (.regex r) role

/-- Whether a group name, or the number of a group, belongs to the pattern. -/
def requireCapture (a : Anchor) (name : String) : Except AnchorError Unit :=
  match a.pattern with
  | .literal needle => .error (.literalCapture name needle)
  | .regex r =>
      let defined := match numeral? name with
        | some i => 0 < i && i < r.groupCount
        | none   => r.names.any (·.1 == name)
      if defined then .ok () else .error (.unknownCapture name r.source)

/-- The anchor in a message. -/
def describe (a : Anchor) : String :=
  match a.pattern with
  | .literal needle => s!"{a.role.label} `{String.ofList needle}`"
  | .regex r        => s!"{a.role.label} /{String.ofList r.source}/"

end Anchor

end Graft
