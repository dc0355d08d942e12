import Graft.Toml.Value

/-!
# Tables in the making

A document names its tables by headers and by keys with dots in them.  A table can be named by one
header only, a table made by dotted keys can be extended only by dotted keys next to it, and no key
has two values (`Tree.insert`, `Tree.openTable`, `Tree.openElement`).
-/

namespace Graft.Toml

/-- How a table came to be: on the way to another one, by dotted keys, or by a header. -/
inductive Origin where
  | implied
  | dotted
  | header
  deriving DecidableEq, Repr

/-- What a key holds: a value, a table, or tables in an array, the last one first. -/
inductive Tree where
  | value (v : Value)
  | table (origin : Origin) (entries : List (String × Tree))
  | tables (items : List (List (String × Tree)))
  deriving Repr

abbrev Entries := List (String × Tree)

namespace Tree

/-- The entries with `key` changed in its place, or put at the end. -/
def put (key : String) (t : Tree) : Entries → Entries
  | []                => [(key, t)]
  | (k, old) :: rest  => if k == key then (key, t) :: rest else (k, old) :: put key t rest

/-- The entries of the table below `key`, changed by `f`.  `dotted` says that a dotted key leads
there. -/
def within (dotted : Bool) (key : String) (es : Entries)
    (f : Origin → Entries → Except SyntaxError Entries) : Except SyntaxError Entries :=
  match es.lookup key with
  | none =>
      let origin := if dotted then .dotted else .implied
      (f origin []).map fun inner => put key (.table origin inner) es
  | some (.table origin inner) =>
      if dotted && origin == .header then .error .duplicate
      else (f origin inner).map fun inner => put key (.table origin inner) es
  | some (.tables (last :: items)) =>
      (f .header last).map fun inner => put key (.tables (inner :: items)) es
  | some _ => .error .duplicate

/-- Puts a value below a path of keys. -/
def insert (v : Value) (es : Entries) : List String → Except SyntaxError Entries
  | []          => .error .key
  | [key]       =>
      if (es.lookup key).isSome then .error .duplicate else .ok (es ++ [(key, .value v)])
  | key :: path =>
      within true key es fun origin inner =>
        if path.length = 1 && origin != .dotted then .error .duplicate
        else insert v inner path

/-- Opens the table of a header. -/
def openTable (es : Entries) : List String → Except SyntaxError Entries
  | []          => .error .key
  | [key]       =>
      match es.lookup key with
      | none                         => .ok (es ++ [(key, .table .header [])])
      | some (.table .implied inner) =>
          .ok (es.filter (·.1 != key) ++ [(key, .table .header inner)])
      | some _                       => .error .duplicate
  | key :: path => within false key es fun _ inner => openTable inner path

/-- Opens one more table of an array. -/
def openElement (es : Entries) : List String → Except SyntaxError Entries
  | []          => .error .key
  | [key]       =>
      match es.lookup key with
      | none                 => .ok (es ++ [(key, .tables [[]])])
      | some (.tables items) => .ok (put key (.tables ([] :: items)) es)
      | some _               => .error .duplicate
  | key :: path => within false key es fun _ inner => openElement inner path

/-- Changes the entries of the table that the last header opened. -/
def atHeader (f : Entries → Except SyntaxError Entries) (es : Entries) :
    List String → Except SyntaxError Entries
  | []          => f es
  | key :: path => within false key es fun _ inner => atHeader f inner path

mutual

/-- The value of a finished tree. -/
def toValue : Tree → Value
  | .value v      => v
  | .table _ es   => .table (toEntries es)
  | .tables items => .array (toItems items).reverse

def toEntries : List (String × Tree) → List (String × Value)
  | []           => []
  | (k, t) :: es => (k, toValue t) :: toEntries es

def toItems : List (List (String × Tree)) → List Value
  | []       => []
  | es :: is => .table (toEntries es) :: toItems is

end

end Tree

end Graft.Toml
