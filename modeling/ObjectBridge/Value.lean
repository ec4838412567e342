import ObjectBridge.Entries
import ObjectBridge.Number.Double

/-!
# Values

A value is what native code sees of the data that crosses the bridge.  An object
of the interpreter that has no primitive form stays a handle: two objects are
the same when their handles are, whatever type names they carry.

Main results:

- Definition `Value.numEq`: equality of values, in which floats compare as
  numbers, objects by handle and maps entry by entry.
- Theorem `Kind.parse_name`: every kind is read back from its name.
- Theorem `Kind.parse_eq_some_iff`: nothing but the name of a kind is read as
  that kind.
-/

namespace ObjectBridge

/-! ## Foreign objects -/

/-- A handle to a living object of the interpreter, with the type name reported for it. -/
structure ForeignObject where
  handle : Nat
  typeName : String
deriving DecidableEq, Repr

/-- Whether two handles refer to the same object. -/
def ForeignObject.same (a b : ForeignObject) : Bool :=
  a.handle == b.handle

/-- The description of an object; the digits of its address say nothing and are left out. -/
def ForeignObject.describe (o : ForeignObject) : String :=
  s!"ForeignObject({o.typeName} @ 0x?)"

/-! ## Values -/

/-- Data that crosses the bridge.  The entries of a map stand in ascending order of their keys. -/
inductive Value where
  | none
  | bool (b : Bool)
  | int (n : Int64)
  | float (x : Double)
  | str (s : String)
  | list (items : List Value)
  | map (entries : List (String × Value))
  | object (o : ForeignObject)
deriving Repr, Inhabited

/-- The declared type of a constructor argument. -/
inductive Kind where
  | any
  | none
  | bool
  | int
  | float
  | str
  | list
  | map
  | object
deriving DecidableEq, Repr

namespace Kind

/-- The name of a kind. -/
def name : Kind → String
  | any => "any"
  | none => "none"
  | bool => "bool"
  | int => "int"
  | float => "float"
  | str => "str"
  | list => "list"
  | map => "map"
  | object => "object"

/-- All kinds, in the order in which they are listed to a reader. -/
def all : List Kind :=
  [any, none, bool, int, float, str, list, map, object]

/-- The kind of a name. -/
def parse (text : String) : Option Kind :=
  all.find? fun kind => kind.name == text

/-- A kind is read back from its name. -/
theorem parse_name (kind : Kind) : parse kind.name = some kind := by
  cases kind <;> decide

/-- The kinds have different names. -/
theorem parse_eq_some_iff {text : String} {kind : Kind} :
    parse text = some kind ↔ kind.name = text := by
  constructor
  · intro h
    have := List.find?_some h
    simpa using this
  · rintro rfl
    exact parse_name kind

end Kind

namespace Value

/-- The kind of a value. -/
def kind : Value → Kind
  | none => .none
  | bool _ => .bool
  | int _ => .int
  | float _ => .float
  | str _ => .str
  | list _ => .list
  | map _ => .map
  | object _ => .object

/-- The type name of a value in messages; an object reports its own. -/
def typeName : Value → String
  | object o => o.typeName
  | v => v.kind.name

/-- Whether a value is the missing one. -/
def isNone : Value → Bool
  | none => true
  | _ => false

/-- The boolean a value holds. -/
def asBool : Value → Option Bool
  | bool b => some b
  | _ => Option.none

/-- The integer a value holds. -/
def asInt : Value → Option Int64
  | int n => some n
  | _ => Option.none

/-- The float a value holds. -/
def asFloat : Value → Option Double
  | float x => some x
  | _ => Option.none

/-- The text a value holds. -/
def asStr : Value → Option String
  | str s => some s
  | _ => Option.none

/-- The items a value holds. -/
def asList : Value → Option (List Value)
  | list items => some items
  | _ => Option.none

/-- The object a value holds. -/
def asObject : Value → Option ForeignObject
  | object o => some o
  | _ => Option.none

/-- The map of a list of entries; of several entries with one key the last one counts. -/
def ofEntries (entries : List (String × Value)) : Value :=
  map (Entries.ofList entries)

/-- The missing value, which stands where nothing was given. -/
def default : Value := none

/-! ## Equality -/

mutual

/-- Equality of values: floats compare as numbers, objects by handle. -/
def numEq : Value → Value → Bool
  | none, none => true
  | bool a, bool b => a == b
  | int a, int b => a == b
  | float a, float b => a.numEq b
  | str a, str b => a == b
  | list as, list bs => numEqItems as bs
  | map as, map bs => numEqEntries as bs
  | object a, object b => a.same b
  | _, _ => false

/-- Equality of lists, item by item. -/
def numEqItems : List Value → List Value → Bool
  | [], [] => true
  | a :: as, b :: bs => numEq a b && numEqItems as bs
  | _, _ => false

/-- Equality of maps, entry by entry in the order of the keys. -/
def numEqEntries : List (String × Value) → List (String × Value) → Bool
  | [], [] => true
  | (k, a) :: as, (l, b) :: bs => k == l && numEq a b && numEqEntries as bs
  | _, _ => false

end

instance : BEq Value := ⟨numEq⟩

end Value

/-- Whether a value may stand where a kind is declared. -/
def Kind.accepts (kind : Kind) (v : Value) : Bool :=
  kind == any || v.kind == kind

end ObjectBridge
