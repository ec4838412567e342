import ObjectBridge.Host.Fixtures

/-!
# Sample interfaces

Interfaces of native code with typed methods, of all shapes an interface can
have: several results taken as a list, arguments of many types, declared kinds of
constructor arguments, no binding at all, a method without a proper name.  The
full names of their types start with the name of the scope they are declared in.

Main results:

- Definition `Sample.all`: the interfaces with their methods.
- Definition `TypedMethod.call`: a call of a typed method.
-/

namespace ObjectBridge

/-- A method of a native interface that is passed on: the types of its arguments and of its
result. -/
structure TypedMethod where
  operation : String
  arguments : List NativeType
  result : NativeType
deriving DecidableEq, Repr

namespace TypedMethod

variable {σ : Type}

/-- The value of an argument; one that is missing or of another type becomes empty. -/
def argument : NativeType → Option Value → Value
  | .list _, some (.list items) => .list (items.filter fun v => v.asStr.isSome)
  | .option _, some (.str s) => .str s
  | .option _, _ => .none
  | .text, some (.str s) => .str s
  | .text, _ => .str ""
  | .double, some (.float x) => .float x
  | .double, _ => .float ⟨0⟩
  | .int type, some (.int n) => .int (if type.holds n.toInt then n else 0)
  | .int _, _ => .int 0
  | _, _ => .list []

/-- A call of a method. -/
def call (b : Bridge σ) (p : Proxy) (m : TypedMethod) (given : List Value) :
    Action σ m.result.Carrier :=
  b.invokeAs p m.result m.operation
    (m.arguments.zipIdx.map fun a => argument a.1 given[a.2]?)

end TypedMethod

/-- A native interface with its methods. -/
structure Sample where
  interface : NativeInterface
  methods : List TypedMethod

namespace Sample

/-- The interface of a name in a scope. -/
def declare (scope name : String) (binding : Option Binding) (operations : List Operation)
    (methods : List TypedMethod) : Sample :=
  ⟨⟨⟨s!"dyn {scope}::{name}"⟩, ⟨name, binding, operations⟩⟩, methods⟩

/-- The interface of a car. -/
def car : Sample :=
  ⟨Car.interface,
    [⟨"get_number_plate", [], .option .text⟩, ⟨"set_number_plate", [.text], .unit⟩,
      ⟨"specs", [], .list .value⟩, ⟨"honk", [], .unit⟩]⟩

/-- The interface of a car of which only the results of one method matter. -/
def wheelCount (scope : String) : Sample :=
  declare scope "WheelCount" (some Car.binding)
    [(Operation.forward "specs" 0).renamed "getSpecs"]
    [⟨"specs", [], .list .value⟩]

/-- The interface of a truck, with arguments of many types. -/
def truck (scope : String) : Sample :=
  declare scope "Truck" (some ⟨"Fleet", "Truck", []⟩) [.forward "type" 0, .forward "load" 4]
    [⟨"type", [], .text⟩,
      ⟨"load", [.list .text, .double, .int .word8, .option .text], .map (.int .int64)⟩]

/-- The interface of a building whose constructor declares the kinds of its arguments. -/
def typedBuilding (scope : String) : Sample :=
  declare scope "TypedBuilding" (some ⟨"Building", "Building", [.int, .str, .any]⟩)
    [(Operation.forward "id" 0).renamed "getBuildingId",
      (Operation.forward "set_id" 1).renamed "setBuildingId",
      (Operation.forward "building_name" 0).renamed "getBuildingName",
      .native "label" 0]
    [⟨"id", [], .int .word8⟩, ⟨"set_id", [.int .int64], .unit⟩,
      ⟨"building_name", [], .option .text⟩]

/-- An interface without a binding. -/
def unbound (scope : String) : Sample :=
  declare scope "Unbound" none [.forward "anything" 0] [⟨"anything", [], .value⟩]

/-- An interface with a method that is passed on under no proper name. -/
def badName (scope : String) : Sample :=
  declare scope "BadName" (some Car.binding) [(Operation.forward "plate" 0).renamed "get plate"]
    [⟨"plate", [], .unit⟩]

/-- The interfaces with their methods. -/
def all (scope : String) : List Sample :=
  [car, wheelCount scope, truck scope, typedBuilding scope, unbound scope, badName scope]

/-- The method of an operation behind a proxy. -/
def method? (scope : String) (p : Proxy) (operation : String) : Option TypedMethod :=
  ((all scope).find? fun s => .type s.interface.type = p.type.key).bind fun s =>
    s.methods.find? fun m => m.operation == operation

/-- The number and the name of a building, for which two calls are made in any case. -/
def label {σ : Type} (b : Bridge σ) (building : Proxy) : Action σ String := do
  let id ← attempt (b.invokeAs building (.int .word8) "id" [])
  let name : Except BridgeError (Option String) ←
    attempt (b.invokeAs building (.option .text) "building_name" [])
  match id, name with
  | .ok id, .ok name => return s!"{id.val}:" ++ name.getD ""
  | _, _ => return "?"

end Sample

end ObjectBridge
