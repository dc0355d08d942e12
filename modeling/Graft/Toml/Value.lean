import Graft.Decimal
import Graft.Text

/-!
# TOML values

What a TOML document holds.  A table keeps its keys in the order in which they were first written.
-/

namespace Graft.Toml

/-- A floating-point number. -/
inductive Real where
  | finite (b : Decimal.Binary)
  | infinite (negative : Bool)
  | notANumber
  deriving DecidableEq, Repr

def Real.text : Real → String
  | .finite b       => b.text
  | .infinite false => "inf"
  | .infinite true  => "-inf"
  | .notANumber     => "NaN"

/-- A value. -/
inductive Value where
  | string (s : String)
  | integer (n : Int)
  | real (x : Real)
  | boolean (b : Bool)
  | datetime
  | array (items : List Value)
  | table (entries : List (String × Value))
  deriving Repr

/-- Why a text is no TOML document. -/
inductive SyntaxError where
  | key
  | value
  | string
  | number
  | duplicate
  | unclosed
  | line
  | depth
  deriving DecidableEq, Repr

def SyntaxError.message : SyntaxError → String
  | .key       => "invalid key"
  | .value     => "invalid value"
  | .string    => "invalid string"
  | .number    => "invalid number"
  | .duplicate => "duplicate key"
  | .unclosed  => "unclosed array or table"
  | .line      => "unexpected text on a line"
  | .depth     => "values are nested too deeply"

end Graft.Toml
