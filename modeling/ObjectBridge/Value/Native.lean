import ObjectBridge.Error
import ObjectBridge.Value

/-!
# Native types

The native types that values are converted from and to, as codes with the type
of their members.  Encoding never fails.  Decoding is strict: it accepts a value
of the very form of the type, an integer only within its range, and reports the
first position, in the order of the data, that does not conform.

Main results:

- Definition `NativeType.encode`: the value of a native datum.
- Definition `NativeType.decode`: the native datum of a value, or the error of
  the first position that does not conform.
- Definition `NativeType.conforms`: the values that a type accepts.
-/

namespace ObjectBridge

/-! ## Integer types -/

/-- The integer types of native code; the two of the machine's own size have 64 bits. -/
inductive IntType where
  | int8
  | int16
  | int32
  | int64
  | intSize
  | word8
  | word16
  | word32
  | word64
  | wordSize
deriving DecidableEq, Repr

namespace IntType

/-- The name of an integer type in messages. -/
def name : IntType → String
  | int8 => "i8"
  | int16 => "i16"
  | int32 => "i32"
  | int64 => "i64"
  | intSize => "isize"
  | word8 => "u8"
  | word16 => "u16"
  | word32 => "u32"
  | word64 => "u64"
  | wordSize => "usize"

/-- The smallest member. -/
def min : IntType → Int
  | int8 => -128
  | int16 => -32768
  | int32 => -2147483648
  | int64 | intSize => -9223372036854775808
  | word8 | word16 | word32 | word64 | wordSize => 0

/-- The largest member. -/
def max : IntType → Int
  | int8 => 127
  | int16 => 32767
  | int32 => 2147483647
  | int64 | intSize => 9223372036854775807
  | word8 => 255
  | word16 => 65535
  | word32 => 4294967295
  | word64 | wordSize => 18446744073709551615

/-- Whether an integer is a member. -/
def holds (t : IntType) (n : Int) : Prop :=
  t.min ≤ n ∧ n ≤ t.max

instance (t : IntType) (n : Int) : Decidable (t.holds n) :=
  inferInstanceAs (Decidable (_ ∧ _))

/-- All integer types. -/
def all : List IntType :=
  [int8, int16, int32, int64, intSize, word8, word16, word32, word64, wordSize]

end IntType

/-! ## Codes and members -/

/-- The native types that values are converted from and to. -/
inductive NativeType where
  | int (type : IntType)
  | single
  | double
  | bool
  | text
  | unit
  | value
  | object
  | option (inner : NativeType)
  | list (inner : NativeType)
  | map (inner : NativeType)
deriving DecidableEq, Repr

namespace NativeType

/-- The types that are not built from others, by their short names. -/
def scalars : List (String × NativeType) :=
  IntType.all.map (fun t => (t.name, int t)) ++
    [("f32", single), ("f64", double), ("bool", bool), ("str", text), ("string", text),
      ("unit", unit), ("value", value), ("object", object)]

/-- The ways of building a type from another one, by their short names.  Native types that differ
only in how they keep the same members are one type here. -/
def builders : List (String × (NativeType → NativeType)) :=
  [("option", option), ("vec", list), ("slice", list), ("btree", map), ("hash", map), ("ref", id)]

/-- The type of a short name: the builders from the outermost on and a scalar. -/
def ofNames? : List String → Option NativeType
  | [] => none
  | [name] => scalars.lookup name
  | name :: rest => (builders.lookup name).bind fun build => (ofNames? rest).map build

/-- The members of a native type.  A map is given by its entries in ascending order of the keys. -/
def Carrier : NativeType → Type
  | int type => { n : Int // type.holds n }
  | single => Single
  | double => Double
  | bool => Bool
  | text => String
  | unit => Unit
  | value => Value
  | object => ForeignObject
  | option inner => Option inner.Carrier
  | list inner => List inner.Carrier
  | map inner => List (String × inner.Carrier)

/-- The name of a type where a value of it is expected. -/
def expectation : NativeType → String
  | int type => type.name
  | single | double => "f64"
  | bool => "bool"
  | text => "str"
  | unit => "unit"
  | value => "value"
  | object => "foreign object"
  | option inner => inner.expectation
  | list _ => "list"
  | map _ => "map"

/-! ## Encoding -/

/-- The value of a native datum.  An integer is carried in a word of 64 bits, which holds the
members of every type but the two of unsigned 64 bits. -/
def encode : (t : NativeType) → t.Carrier → Value
  | int _, n => .int (Int64.ofInt n.val)
  | single, x => .float (Single.toDouble x)
  | double, x => .float x
  | bool, b => .bool b
  | text, s => .str s
  | unit, _ => .none
  | value, v => v
  | object, o => .object o
  | option _, none => .none
  | option inner, some x => inner.encode x
  | list inner, items => .list (List.map inner.encode items)
  | map inner, entries => .map (List.map (fun entry => (entry.1, inner.encode entry.2)) entries)

/-! ## Decoding -/

/-- The error of a value that stands where another type is expected. -/
def mismatch (v : Value) (expected : String) : BridgeError :=
  .conversion v.typeName (.expected expected)

/-- An integer of a type, if it is in range. -/
def decodeInt (type : IntType) (n : Int64) : Except BridgeError { n : Int // type.holds n } :=
  if h : type.holds n.toInt then .ok ⟨n.toInt, h⟩
  else .error (.conversion "int" (.outOfRange n.toInt type.name))

/-- The entries of a map with their values decoded, up to the first that fails. -/
def decodeEntries {α : Type} (decode : Value → Except BridgeError α) :
    List (String × Value) → Except BridgeError (List (String × α))
  | [] => .ok []
  | (key, v) :: rest => do
    let x ← decode v
    let xs ← decodeEntries decode rest
    .ok ((key, x) :: xs)

/-- The native datum of a value, or the error of the first position that does not conform. -/
def decode : (t : NativeType) → Value → Except BridgeError t.Carrier
  | int type, v =>
    match v with
    | .int n => decodeInt type n
    | v => .error (mismatch v type.name)
  | single, v =>
    match v with
    | .float x => .ok x.toSingle
    | .int n => .ok (Double.ofInt n.toInt).toSingle
    | v => .error (mismatch v "f64")
  | double, v =>
    match v with
    | .float x => .ok x
    | .int n => .ok (Double.ofInt n.toInt)
    | v => .error (mismatch v "f64")
  | bool, v =>
    match v with
    | .bool b => .ok b
    | v => .error (mismatch v "bool")
  | text, v =>
    match v with
    | .str s => .ok s
    | v => .error (mismatch v "str")
  | unit, _ => .ok ()
  | value, v => .ok v
  | object, v =>
    match v with
    | .object o => .ok o
    | v => .error (mismatch v "foreign object")
  | option inner, v =>
    match v with
    | .none => .ok none
    | v => (inner.decode v).map some
  | list inner, v =>
    match v with
    | .list items => items.mapM inner.decode
    | v => .error (mismatch v "list")
  | map inner, v =>
    match v with
    | .map entries => decodeEntries inner.decode entries
    | v => .error (mismatch v "map")

/-- Whether a type accepts a value. -/
def conforms : NativeType → Value → Bool
  | int type, .int n => decide (type.holds n.toInt)
  | single, .float _ | single, .int _ | double, .float _ | double, .int _ => true
  | bool, .bool _ => true
  | text, .str _ => true
  | unit, _ | value, _ => true
  | object, .object _ => true
  | option _, .none => true
  | option inner, v => inner.conforms v
  | list inner, .list items => items.all inner.conforms
  | map inner, .map entries => entries.all fun entry => inner.conforms entry.2
  | _, _ => false

end NativeType

end ObjectBridge
