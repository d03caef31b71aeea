import Foreman.Toml.Fault

/-! Values of a TOML document, each with the place where it is written. -/

namespace Foreman.Toml

/-- How a table came about, which decides what may be added to it later. -/
inductive Origin where
  | inline
  /-- Named on the way to a table under it. -/
  | implied
  | dotted
  | heading
  deriving DecidableEq, Repr

inductive Value where
  | string (s : String)
  | integer (n : Int)
  | float (text : String)
  | boolean (b : Bool)
  | moment (text : String)
  | array (items : List (Span × Value))
  | table (origin : Origin) (entries : List (String × Span × Value))
  | tables (items : List (Span × List (String × Span × Value)))
  deriving Repr

abbrev Node := Span × Value

abbrev Entries := List (String × Node)

namespace Value

def items? : Value → Option (List Node)
  | .array vs => some vs
  | .tables ts => some (ts.map fun (place, es) => (place, .table .heading es))
  | _ => none

/-- The one key under which the text of a point in time stands when a table is wanted. -/
def momentKey : String := "$__toml_private_datetime"

def entries? (span : Span) : Value → Option Entries
  | .table _ es => some es
  | .moment text => some [(momentKey, span, .string text)]
  | _ => none

def kind : Value → String
  | .string _ => "string"
  | .integer _ => "integer"
  | .float _ => "float"
  | .boolean _ => "boolean"
  | .moment _ => "datetime"
  | .array _ | .tables _ => "array"
  | .table .. => "table"

def found : Value → String
  | .string s => "string " ++ Text.Quoted.encode s
  | .integer n => "integer " ++ ticked (toString n)
  | .float text => "floating point " ++ ticked text
  | .boolean b => "boolean " ++ ticked (if b then "true" else "false")
  | .array _ | .tables _ => "sequence"
  | .moment _ | .table .. => "map"

end Value
end Foreman.Toml
