import Gateway.Decimal.Shortest

/-! Values of TOML documents. A table keeps its keys in the order in which they came. While a document is read, a
    table also knows how it came to be, because that decides what may still be added to it. -/

namespace Gateway.Toml

/-- How a table came to be. -/
inductive Making
  /-- By a header of its own, or in braces. -/
  | header
  /-- By the header of a table within it. -/
  | within
  /-- By a dotted key. -/
  | dotted
deriving DecidableEq, Repr

inductive Value
  | text (text : String)
  | integer (n : Int)
  | float (x : Float)
  | boolean (b : Bool)
  | datetime (text : String)
  | array (elements : List Value)
  /-- A table in braces. -/
  | inline (making : Making) (entries : List (String × Value))
  /-- A table with a header. -/
  | table (making : Making) (entries : List (String × Value))
  /-- Tables that have one header each. -/
  | tables (elements : List (List (String × Value)))

abbrev Entries := List (String × Value)

namespace Value

/-- What a value is called. -/
def sort : Value → String
  | text _ => "string"
  | integer _ => "integer"
  | float _ => "float"
  | boolean _ => "boolean"
  | datetime _ => "datetime"
  | array _ => "array"
  | inline .. => "inline table"
  | table .. => "table"
  | tables _ => "array of tables"

end Value

namespace Entries

def find? (entries : Entries) (key : String) : Option Value := entries.lookup key

def replace (entries : Entries) (key : String) (value : Value) : Entries :=
  entries.map fun e => if e.1 = key then (key, value) else e

def remove (entries : Entries) (key : String) : Entries := entries.filter (·.1 != key)

end Entries
end Gateway.Toml
