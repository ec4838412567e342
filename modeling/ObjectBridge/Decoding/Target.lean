import ObjectBridge.Interface
import ObjectBridge.Value.Json

/-!
# Targets

A target is a native type that structured data is decoded into: its identity and
its decoder.  A decoder takes the data in order and reports the first fault.

Main results:

- Definitions `Target.option`, `Target.list`, `Target.pair`, `Target.map`:
  targets built from targets.
-/

namespace ObjectBridge

/-- A native type that structured data is decoded into. -/
structure Target (α : Type) where
  type : TypeId
  decode : Json → Except DecodeFault α

namespace Target

variable {α β : Type}

/-- The target of a type name. -/
def of (typeName : String) (decode : Json → Except DecodeFault α) : Target α :=
  ⟨⟨typeName⟩, decode⟩

/-- The fault of data that stands where something else is expected. -/
def mismatch (j : Json) (expected : String) : Except DecodeFault α :=
  .error (.invalidType j.found expected)

/-! ## Plain targets -/

/-- Integers of 64 bits. -/
def int64 : Target Int64 :=
  .of "i64" fun j =>
    match j with
    | .int n => .ok n
    | j => mismatch j "i64"

/-- Bytes. -/
def word8 : Target UInt8 :=
  .of "u8" fun j =>
    match j with
    | .int n =>
      if 0 ≤ n.toInt ∧ n.toInt < 256 then .ok n.toInt.toNat.toUInt8
      else .error (.invalidValue j.found "u8")
    | j => mismatch j "u8"

/-- Floats, which integers are taken for too. -/
def double : Target Double :=
  .of "f64" fun j =>
    match j with
    | .float x => .ok x
    | .int n => .ok (.ofInt n.toInt)
    | j => mismatch j "f64"

/-- Truth values. -/
def bool : Target Bool :=
  .of "bool" fun j =>
    match j with
    | .bool b => .ok b
    | j => mismatch j "a boolean"

/-- Texts. -/
def text : Target String :=
  .of "alloc::string::String" fun j =>
    match j with
    | .str s => .ok s
    | j => mismatch j "a string"

/-- The type of a single member. -/
def unit : Target Unit :=
  .of "()" fun j =>
    match j with
    | .null => .ok ()
    | j => mismatch j "unit"

/-- Structured data itself. -/
def json : Target Json :=
  .of "serde_json::value::Value" .ok

/-! ## Targets built from targets -/

/-- A member of a target, or nothing. -/
def option (t : Target α) : Target (Option α) :=
  .of s!"core::option::Option<{t.type.name}>" fun j =>
    match j with
    | .null => .ok none
    | j => (t.decode j).map some

/-- Members of a target in a row. -/
def list (t : Target α) : Target (List α) :=
  .of s!"alloc::vec::Vec<{t.type.name}>" fun j =>
    match j with
    | .list items => items.mapM t.decode
    | j => mismatch j "a sequence"

/-- The fault of a row that is too long, once all expected elements are read. -/
def noFurther (length : Nat) (rest : List Json) : Except DecodeFault Unit :=
  if rest.isEmpty then .ok () else .error (.invalidLength length "fewer elements in array")

/-- A member of each of two targets. -/
def pair (s : Target α) (t : Target β) : Target (α × β) :=
  .of s!"({s.type.name}, {t.type.name})" fun j =>
    match j with
    | .list [] => .error (.invalidLength 0 "a tuple of size 2")
    | .list (first :: rest) => do
      let a ← s.decode first
      match rest with
      | [] => .error (.invalidLength 1 "a tuple of size 2")
      | second :: more =>
        let b ← t.decode second
        noFurther (rest.length + 1) more
        .ok (a, b)
    | j => mismatch j "a tuple of size 2"

/-- The fields of a record decoded in order. -/
def decodeFields (t : Target α) : List (String × Json) → Except DecodeFault (Entries α)
  | [] => .ok []
  | (key, j) :: rest => do
    let x ← t.decode j
    let xs ← decodeFields t rest
    .ok ((key, x) :: xs)

/-- Members of a target under names. -/
def map (t : Target α) : Target (Entries α) :=
  .of s!"alloc::collections::btree::map::BTreeMap<{text.type.name}, {t.type.name}>" fun j =>
    match j with
    | .record fields => decodeFields t fields
    | j => mismatch j "a map"

end Target

end ObjectBridge
