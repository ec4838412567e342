import ObjectBridge.Number.Decimal
import ObjectBridge.Text.Quoted
import ObjectBridge.Value

/-!
# Descriptions of values

The description of a value names its kind and its content, down to every depth.

Main results:

- Definition `Value.describe`: the description of a value.
- Definition `describeEntries`: the description of a map.
-/

namespace ObjectBridge

/-- The description of a map whose values are described already. -/
def describeEntries (entries : List (String × String)) : String :=
  let shown := entries.map fun entry => Text.quoted entry.1 ++ ": " ++ entry.2
  "\x7b" ++ ", ".intercalate shown ++ "\x7d"

namespace Value

mutual

/-- The description of a value. -/
def describe : Value → String
  | none => "None"
  | bool b => s!"Bool({b})"
  | int n => s!"Int({n.toInt})"
  | float x => s!"Float({x.describedText})"
  | str s => s!"Str({Text.quoted s})"
  | list items => s!"List({Text.bracketed (describeItems items)})"
  | map entries => s!"Map({describeEntries (describeFields entries)})"
  | object o => s!"Object({o.describe})"

/-- The descriptions of the items of a list. -/
def describeItems : List Value → List String
  | [] => []
  | v :: vs => describe v :: describeItems vs

/-- The descriptions of the values of a map, under their keys. -/
def describeFields : List (String × Value) → List (String × String)
  | [] => []
  | (key, v) :: vs => (key, describe v) :: describeFields vs

end

end Value

end ObjectBridge
