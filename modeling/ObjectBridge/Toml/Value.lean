import ObjectBridge.Decoding.Fault
import ObjectBridge.Number.Decimal

/-!
# Documents of tables

The data of a TOML document: a table of keys and values, where a value is a
scalar, an array or again a table.  An array of tables that headers have opened
one by one stays apart from an array that is written as a value.  The entries of
a table stand in the order in which they were defined.

Main results:

- Definition `Toml.Value.items?`: the items of either kind of array.
- Definition `Toml.Value.found`: how a value is described when another one was
  expected.
-/

namespace ObjectBridge.Toml

/-- A value of a document. -/
inductive Value where
  | string (s : String)
  | integer (n : Int)
  | float (x : Double)
  | boolean (b : Bool)
  | datetime (text : String)
  | array (items : List Value)
  | table (entries : List (String × Value))
  | tables (items : List (List (String × Value)))
deriving Repr, Inhabited

/-- A table of a document, and a document itself. -/
abbrev Table := List (String × Value)

namespace Value

/-- The items of an array, of either kind. -/
def items? : Value → Option (List Value)
  | array items => some items
  | tables items => some (items.map table)
  | _ => none

/-- The value as a decoder finds it; a date or time counts as a table. -/
def found : Value → Found
  | string s => .text s
  | integer n => .integer n
  | float x => .float x.fractionText
  | boolean b => .boolean b
  | datetime _ => .mapping
  | array _ => .sequence
  | table _ => .mapping
  | tables _ => .sequence

/-- The name of the type of a value. -/
def typeName : Value → String
  | string _ => "string"
  | integer _ => "integer"
  | float _ => "float"
  | boolean _ => "boolean"
  | datetime _ => "datetime"
  | array _ => "array"
  | table _ => "table"
  | tables _ => "array of tables"

end Value

end ObjectBridge.Toml
