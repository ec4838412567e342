import ObjectBridge.Interface.Binding
import ObjectBridge.Text.Address

/-!
# Interfaces

An interface is a native set of operations.  A forwarded operation is passed on
to an object of the interpreter, under its own name or another one; a native one
never leaves native code.

Main results:

- Theorem `Interface.requireBinding_eq_ok_iff`: the binding an instance needs is
  the one the interface carries.
-/

namespace ObjectBridge

/-- One operation of an interface. -/
structure Operation where
  name : String
  rename : Option String
  arity : Nat
  forwarded : Bool
deriving DecidableEq, Repr

namespace Operation

/-- An operation passed on to the object under its own name. -/
def forward (name : String) (arity : Nat) : Operation :=
  ⟨name, none, arity, true⟩

/-- An operation carried out in native code. -/
def native (name : String) (arity : Nat) : Operation :=
  ⟨name, none, arity, false⟩

/-- The operation with another name on the object's side. -/
def renamed (op : Operation) (foreign : String) : Operation :=
  { op with rename := some foreign }

/-- The name of the operation on the object's side. -/
def foreignName (op : Operation) : String :=
  op.rename.getD op.name

end Operation

/-- A native interface that objects of a foreign class can stand behind. -/
structure Interface where
  name : String
  binding : Option Binding
  operations : List Operation
deriving DecidableEq, Repr

namespace Interface

/-- An interface without binding and operations. -/
def named (name : String) : Interface :=
  ⟨name, none, []⟩

/-- The interface bound to a class. -/
def withBinding (i : Interface) (binding : Binding) : Interface :=
  { i with binding := some binding }

/-- The interface with one more operation at the end. -/
def withOperation (i : Interface) (op : Operation) : Interface :=
  { i with operations := i.operations ++ [op] }

/-- The first operation of a name. -/
def operation (i : Interface) (name : String) : Option Operation :=
  i.operations.find? fun op => op.name == name

/-- The operations passed on to the object. -/
def forwarded (i : Interface) : List Operation :=
  i.operations.filter fun op => op.forwarded

/-- The binding, which creating an instance needs. -/
def requireBinding (i : Interface) : Except BridgeError Binding :=
  match i.binding with
  | some binding => .ok binding
  | none => .error (.configuration i.name .noBinding)

/-- Whether the binding, if there is one, is valid. -/
def validate (i : Interface) : Except BridgeError Unit :=
  match i.binding with
  | some binding => binding.validate i.name
  | none => .ok ()

/-- The binding that an interface is required to have is the one that it has. -/
theorem requireBinding_eq_ok_iff {i : Interface} {binding : Binding} :
    i.requireBinding = .ok binding ↔ i.binding = some binding := by
  unfold requireBinding
  cases i.binding <;> simp

end Interface

/-! ## Keys -/

/-- The identity of a native type, given by its full name. -/
structure TypeId where
  name : String
deriving DecidableEq, Repr

/-- The identity of a type as it is shown; its digits say nothing and are left out. -/
def TypeId.text (_ : TypeId) : String :=
  "TypeId(0x?)"

/-- What an interface is known by: its native type, or its name when it is described at run
time. -/
inductive InterfaceKey where
  | type (id : TypeId)
  | named (name : String)
deriving DecidableEq, Repr

/-- A key as it is shown. -/
def InterfaceKey.text : InterfaceKey → String
  | type id => id.text
  | named name => name

end ObjectBridge
