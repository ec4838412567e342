import ObjectBridge.Text.Quoted

/-!
# Faults of decoding

What can be wrong with structured data that is read into a native type: data of
another type, a number out of range, a sequence of another length, a missing
field or an unknown alternative.  The wording of all of them is in one place.

Main results:

- Definition `DecodeFault.message`: the wording of every fault.
-/

namespace ObjectBridge

/-- The data met where something else was expected.  A float comes with the text it has in the
notation of the data. -/
inductive Found where
  | null
  | boolean (b : Bool)
  | integer (n : Int)
  | float (written : String)
  | text (s : String)
  | sequence
  | mapping
deriving DecidableEq, Repr

/-- How the data is described. -/
def Found.describe : Found → String
  | null => "null"
  | boolean b => s!"boolean `{b}`"
  | integer n => s!"integer `{n}`"
  | float written => s!"floating point `{written}`"
  | text s => s!"string {Text.quoted s}"
  | sequence => "sequence"
  | mapping => "map"

/-- A fault met while decoding. -/
inductive DecodeFault where
  /-- Data of another type. -/
  | invalidType (found : Found) (expected : String)
  /-- Data of the right type outside of the range of values. -/
  | invalidValue (found : Found) (expected : String)
  /-- A sequence with another number of elements. -/
  | invalidLength (length : Nat) (expected : String)
  /-- A field that is required and absent. -/
  | missingField (name : String)
  /-- A name that is none of the alternatives. -/
  | unknownVariant (name : String) (variants : List String)
  /-- A choice given neither by its name nor as a table. -/
  | choiceType
  /-- A choice given as a table without entries. -/
  | choiceEmpty
  /-- A choice given as a table of several entries. -/
  | choiceSeveral
  /-- A plain alternative that carries a table or an array with content. -/
  | choiceTable
  /-- A plain alternative that carries an array of tables. -/
  | choiceArray
  /-- A plain alternative that carries something else. -/
  | choiceContent (found : String)
deriving DecidableEq, Repr

namespace DecodeFault

/-- The alternatives as they are listed to a reader. -/
def alternatives : List String → String
  | [] => "there are no variants"
  | [a] => s!"expected `{a}`"
  | [a, b] => s!"expected `{a}` or `{b}`"
  | names => "expected one of " ++ ", ".intercalate (names.map fun a => s!"`{a}`")

/-- The wording of a fault. -/
def message : DecodeFault → String
  | invalidType found expected => s!"invalid type: {found.describe}, expected {expected}"
  | invalidValue found expected => s!"invalid value: {found.describe}, expected {expected}"
  | invalidLength length expected => s!"invalid length {length}, expected {expected}"
  | missingField name => s!"missing field `{name}`"
  | unknownVariant name variants => s!"unknown variant `{name}`, {alternatives variants}"
  | choiceType => "wanted string or table"
  | choiceEmpty => "wanted exactly 1 element, found 0 elements"
  | choiceSeveral => "wanted exactly 1 element, more than 1 element"
  | choiceTable => "expected empty table"
  | choiceArray => "expected empty array"
  | choiceContent found => s!"expected table, found {found}"

end DecodeFault

end ObjectBridge
