import ObjectBridge.Bridge.Marshalling
import ObjectBridge.Bridge.Resolution
import ObjectBridge.Decoding.Target

/-!
# Instances and their native form

A class is instantiated by a call.  The instance may be taken out of the
interpreter altogether: its structure is read as plain data and decoded into a
native target.

Main results:

- Definition `Bridge.instantiate`: a new object of a class.
- Definition `Bridge.coerceTo`: the native form of an object.
-/

namespace ObjectBridge.Bridge

variable {σ α : Type}

/-- A new object of a class. -/
def instantiate (b : Bridge σ) (s : ManagedState) (c : ResolvedClass) (arguments : Arguments) :
    Action σ ForeignObject := do
  let object ← b.ask (.call s.token c.callable arguments) fun e =>
    .instantiation c.qualifiedName (.raised e)
  note (.objectInstantiated s.id c.qualifiedName arguments.count)
  return object

/-- The native form of the plain data of an object, or why it has none. -/
def decodeNative (target : Target α) (v : Value) : Except Cause α :=
  match v.toJson with
  | .error (.conversion typeName cause) => .error (.unconvertible typeName cause)
  | .error e => .error e.cause
  | .ok j => (target.decode j).mapError .undecodable

/-- The native form of an object. -/
def coerceTo (b : Bridge σ) (s : StateToken) (o : ForeignObject) (target : Target α) :
    Action σ α := do
  let failure cause := BridgeError.coercion o.typeName target.type.name cause
  let v ← b.ask (.coerce s o) fun e => failure (.raised e)
  (decodeNative target v).mapError failure

end ObjectBridge.Bridge
