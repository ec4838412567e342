import ObjectBridge.Error
import ObjectBridge.Value

/-!
# Structural form of values

The structural form of a value is a tree of plain data.  Integers stay apart
from floats.  Objects of the interpreter and floats that are not finite have no
structural form; the first of them, in the order of the data, is reported.

Main results:

- Definition `Value.toJson`: the structural form of a value.
- Definition `Json.numEq`: equality of structural forms, in which floats compare
  as numbers.
-/

namespace ObjectBridge

/-- A tree of plain data.  The fields of a record stand in ascending order of their names. -/
inductive Json where
  | null
  | bool (b : Bool)
  | int (n : Int64)
  | float (x : Double)
  | str (s : String)
  | list (items : List Json)
  | record (fields : List (String × Json))
deriving Repr, Inhabited

namespace Json

/-- The datum as a decoder finds it. -/
def found : Json → Found
  | null => .null
  | bool b => .boolean b
  | int n => .integer n.toInt
  | float x => .float x.structuralText
  | str s => .text s
  | list _ => .sequence
  | record _ => .mapping

mutual

/-- Equality of trees: integers and floats never agree, and floats compare as numbers. -/
def numEq : Json → Json → Bool
  | null, null => true
  | bool a, bool b => a == b
  | int a, int b => a == b
  | float a, float b => a.numEq b
  | str a, str b => a == b
  | list as, list bs => numEqItems as bs
  | record as, record bs => numEqFields as bs
  | _, _ => false

/-- Equality of lists, item by item. -/
def numEqItems : List Json → List Json → Bool
  | [], [] => true
  | a :: as, b :: bs => numEq a b && numEqItems as bs
  | _, _ => false

/-- Equality of records, field by field. -/
def numEqFields : List (String × Json) → List (String × Json) → Bool
  | [], [] => true
  | (k, a) :: as, (l, b) :: bs => k == l && numEq a b && numEqFields as bs
  | _, _ => false

end

end Json

namespace Value

mutual

/-- The structural form of a value. -/
def toJson : Value → Except BridgeError Json
  | none => .ok .null
  | bool b => .ok (.bool b)
  | int n => .ok (.int n)
  | float x => if x.isFinite then .ok (.float x) else .error (.conversion "float" (.notFinite x))
  | str s => .ok (.str s)
  | list items => (toJsonItems items).map .list
  | map entries => (toJsonEntries entries).map .record
  | object o => .error (.conversion o.typeName .noNativeForm)

/-- The structural forms of the items of a list. -/
def toJsonItems : List Value → Except BridgeError (List Json)
  | [] => .ok []
  | v :: vs => do
    let j ← toJson v
    let js ← toJsonItems vs
    .ok (j :: js)

/-- The structural forms of the entries of a map. -/
def toJsonEntries : List (String × Value) → Except BridgeError (List (String × Json))
  | [] => .ok []
  | (key, v) :: vs => do
    let j ← toJson v
    let js ← toJsonEntries vs
    .ok ((key, j) :: js)

end

end Value

end ObjectBridge
