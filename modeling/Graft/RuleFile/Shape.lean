import Graft.RuleFile.Definition
import Graft.Text.Quoted
import Graft.Toml.Value

/-!
# Shape

The definitions that a TOML table holds.  The keys of a table are looked at in the order in which
they are written, and keys without a meaning are passed over; what is missing is reported after
that (`Record`).  A record can also be written as an array of its fields in order.
-/

namespace Graft

open Toml (Value)

/-- How a table differs from what was expected. -/
inductive ShapeError where
  | wrongType (found : Value) (expected : String)
  | wrongValue (found : Value) (expected : String)
  | missingField (name : String)
  | unknownVariant (name : String) (known : List String)
  | wrongLength (length : Nat) (expected : String)
  | stringOrTable
  | noElement
  | severalElements
  | notTable (found : String)
  | tableNotEmpty
  | arrayNotEmpty
  deriving Repr

namespace ShapeError

/-- What a value is called in a message. -/
def describe : Value → String
  | .string s         => s!"string {Text.quoted s}"
  | .integer n        => s!"integer `{n}`"
  | .real x           => s!"floating point `{x.text}`"
  | .boolean b        => s!"boolean `{b}`"
  | .array _          => "sequence"
  | .table _          => "map"
  | .datetime         => "map"

/-- The known names of a choice. -/
def oneOf (known : List String) : String :=
  let ticked := known.map fun k => s!"`{k}`"
  match ticked with
  | [a, b] => s!"{a} or {b}"
  | _      => "one of " ++ ", ".intercalate ticked

def message : ShapeError → String
  | .wrongType v e       => s!"invalid type: {describe v}, expected {e}"
  | .wrongValue v e      => s!"invalid value: {describe v}, expected {e}"
  | .missingField f      => s!"missing field `{f}`"
  | .unknownVariant n ks => s!"unknown variant `{n}`, expected {oneOf ks}"
  | .wrongLength n e     => s!"invalid length {n}, expected {e}"
  | .stringOrTable       => "wanted string or table"
  | .noElement           => "wanted exactly 1 element, found 0 elements"
  | .severalElements     => "wanted exactly 1 element, more than 1 element"
  | .notTable found      => s!"expected table, found {found}"
  | .tableNotEmpty       => "expected empty table"
  | .arrayNotEmpty       => "expected empty array"

end ShapeError

namespace Shape

def string : Value → Except ShapeError String
  | .string s => .ok s
  | v         => .error (.wrongType v "a string")

def boolean : Value → Except ShapeError Bool
  | .boolean b => .ok b
  | v          => .error (.wrongType v "a boolean")

def count : Value → Except ShapeError Nat
  | .integer n => if n < 0 then .error (.wrongValue (.integer n) "usize") else .ok n.toNat
  | v          => .error (.wrongType v "usize")

def list {α : Type} (item : Value → Except ShapeError α) : Value → Except ShapeError (List α)
  | .array vs => vs.mapM item
  | v         => .error (.wrongType v "a sequence")

/-- The choice that goes by a name. -/
def named {α : Type} (choices : List (String × α)) (name : String) : Except ShapeError α :=
  match choices.lookup name with
  | some a => .ok a
  | none   => .error (.unknownVariant name (choices.map (·.1)))

/-- A choice: a string, or a table with the choice as its only key and nothing below it. -/
def choice {α : Type} (choices : List (String × α)) : Value → Except ShapeError α
  | .string s          => named choices s
  | .table []          => .error .noElement
  | .table [(key, v)]  => do
      let a ← named choices key
      match v with
      | .array []    => return a
      | .array _     => throw .arrayNotEmpty
      | .table []    => return a
      | .table _     => throw .tableNotEmpty
      | .string _    => throw (.notTable "string")
      | .integer _   => throw (.notTable "integer")
      | .real _      => throw (.notTable "float")
      | .boolean _   => throw (.notTable "boolean")
      | .datetime    => throw (.notTable "datetime")
  | .table _           => .error .severalElements
  | _                  => .error .stringOrTable

/-- The only key of a date, where a date is read as a table. -/
def dateKey : String := "$__toml_private_datetime"

/-- A choice inside a transform. -/
def innerChoice {α : Type} (choices : List (String × α)) : Value → Except ShapeError α
  | .string s          => named choices s
  | .datetime          => named choices dateKey
  | .table [(key, v)]  => do
      let a ← named choices key
      match v with
      | .table [] => return a
      | v         => throw (.wrongType v "unit")
  | .table es          => .error (.wrongValue (.table es) "map with a single key")
  | v                  => .error (.wrongType v "string or map")

/-- A field of a record: its name, and what its value must pass. -/
structure Field where
  name  : String
  check : Value → Except ShapeError Unit

def field {α : Type} (name : String) (decode : Value → Except ShapeError α) : Field :=
  ⟨name, fun v => (decode v).map fun _ => ()⟩

/-- The values of a record by the names of its fields, checked in the order they were written.
When they were written without names, `layout` says what was expected. -/
structure Record where
  entries : List (String × Value)
  layout  : Option String

/-- Checks values in order; names that are no field are passed over. -/
def visit (fields : List Field) : List (String × Value) → Except ShapeError Unit
  | []           => .ok ()
  | (k, v) :: es => do
      match fields.find? (·.name == k) with
      | some f => f.check v
      | none   => pure ()
      visit fields es

def elements (n : Nat) : String := if n = 1 then "1 element" else s!"{n} elements"

/-- Reads the values of a record from a table, or from an array in the order of the fields. -/
def record (what : String) (fields : List Field) (v : Value) : Except ShapeError Record :=
  match v with
  | .table es => (visit fields es).map fun _ => ⟨es, none⟩
  | .datetime => .ok ⟨[], none⟩
  | .array vs =>
      let es := (fields.map (·.name)).zip vs
      (visit fields es).map fun _ => ⟨es, some s!"{what} with {elements fields.length}"⟩
  | v         => .error (.wrongType v what)

namespace Record

/-- A field that must be there; `index` is its place among the fields. -/
def required {α : Type} (r : Record) (index : Nat) (name : String)
    (decode : Value → Except ShapeError α) : Except ShapeError α :=
  match r.entries.lookup name, r.layout with
  | some v, _         => decode v
  | none, none        => .error (.missingField name)
  | none, some layout => .error (.wrongLength index layout)

/-- A field that may be left out. -/
def optional {α : Type} (r : Record) (name : String) (default : α)
    (decode : Value → Except ShapeError α) : Except ShapeError α :=
  match r.entries.lookup name with
  | some v => decode v
  | none   => .ok default

end Record

def patternKinds : List (String × PatternKind) := [("literal", .literal), ("regex", .regex)]

def roles : List (String × Role) := Role.all.map fun r => (r.keyword, r)

def blockKinds : List (String × BlockKind) :=
  [("any", .any), ("paren", .only .paren), ("bracket", .only .bracket), ("brace", .only .brace)]

def pattern (v : Value) : Except ShapeError PatternDefinition := do
  let r ← record "struct PatternDefinition"
    [field "type" (choice patternKinds), field "pattern" string, field "role" (choice roles)] v
  return ⟨← r.required 0 "type" (choice patternKinds), ← r.required 1 "pattern" string,
    ← r.optional "role" .other (choice roles)⟩

def marker (v : Value) : Except ShapeError MarkerDefinition := do
  let r ← record "struct MarkerDefinition"
    [field "identifier" pattern, field "context" (list pattern), field "window" count,
     field "scope" pattern] v
  return ⟨← r.required 0 "identifier" pattern, ← r.optional "context" [] (list pattern),
    ← r.optional "window" 0 count, ← r.optional "scope" none fun v => some <$> pattern v⟩

/-- What a transform is called in a file, and in a message. -/
def transformNames : List (String × String) :=
  [("replace", "Replace"), ("replace-capture", "ReplaceCapture"), ("insert-before", "InsertBefore"),
   ("insert-after", "InsertAfter"), ("insert-after-block", "InsertAfterBlock"),
   ("insert-into-block", "InsertIntoBlock")]

/-- The name of a transform, which says what its other fields are. -/
def tag : Value → Except ShapeError String
  | .string s => (named transformNames s).map fun _ => s
  | v         => .error (.wrongType v "variant identifier")

/-- The fields of a transform besides its name. -/
def transformFields (name : String) : List Field :=
  let text := field "text" string
  match name with
  | "replace-capture"                          => [field "capture" string, text]
  | "insert-after-block" | "insert-into-block" => [text, field "delimiter" (innerChoice blockKinds)]
  | _                                          => [text]

/-- The transform of a name and a record of its fields. -/
def transformOf (name : String) (r : Record) : Except ShapeError Transform := do
  let text (index : Nat) : Except ShapeError Text :=
    String.toList <$> r.required index "text" string
  let kind := r.optional "delimiter" .any (innerChoice blockKinds)
  match name with
  | "replace-capture"    =>
      let capture ← r.required 0 "capture" string
      return .replaceCapture capture (← text 1)
  | "insert-before"      => return .insertBefore (← text 0)
  | "insert-after"       => return .insertAfter (← text 0)
  | "insert-after-block" => return .insertAfterBlock (← text 0) (← kind)
  | "insert-into-block"  => return .insertIntoBlock (← text 0) (← kind)
  | _                    => return .replace (← text 0)

/-- Reads the fields of a transform. -/
def transformBody (name : String) (v : Value) : Except ShapeError Transform := do
  let what := "struct variant TransformDefinition::" ++ (transformNames.lookup name).getD ""
  transformOf name (← record what (transformFields name) v)

def transform (v : Value) : Except ShapeError Transform := do
  match v with
  | .table es =>
      match es.lookup "type" with
      | none   => throw (.missingField "type")
      | some t =>
          let name ← tag t
          transformBody name (.table (es.filter (·.1 != "type")))
  | .datetime        => throw (.missingField "type")
  | .array []        => throw (.missingField "type")
  | .array (t :: vs) =>
      let name ← tag t
      let made ← transformBody name (.array vs)
      let expected := (transformFields name).length
      if expected < vs.length then
        throw (.wrongLength vs.length s!"{elements expected} in sequence")
      return made
  | v                => throw (.wrongType v "internally tagged enum TransformDefinition")

def rule (v : Value) : Except ShapeError RuleDefinition := do
  let r ← record "struct RuleDefinition"
    [field "id" string, field "anchor" pattern, field "context_lines" count,
     field "match_indent" boolean, field "transform" transform] v
  return ⟨← r.required 0 "id" string, ← r.required 1 "anchor" pattern,
    ← r.optional "context_lines" 0 count, ← r.optional "match_indent" false boolean,
    ← r.required 4 "transform" transform⟩

def change (v : Value) : Except ShapeError ChangeDefinition := do
  let r ← record "struct ChangeDefinition"
    [field "id" string, field "description" string, field "marker" marker,
     field "rules" (list rule)] v
  return ⟨← r.required 0 "id" string,
    ← r.optional "description" none fun v => some <$> string v,
    ← r.required 2 "marker" marker, ← r.optional "rules" [] (list rule)⟩

def metadata (v : Value) : Except ShapeError Metadata := do
  let r ← record "struct Metadata"
    [field "name" string, field "description" string, field "target" string] v
  let text (name : String) := r.optional name none fun v => some <$> string v
  return ⟨← r.optional "name" "" string, ← text "description", ← text "target"⟩

def definition (v : Value) : Except ShapeError Definition := do
  let r ← record "struct PatchConfig" [field "meta" metadata, field "changes" (list change)] v
  return ⟨← r.optional "meta" {} metadata, ← r.optional "changes" [] (list change)⟩

end Shape

end Graft
