import ObjectBridge.Bridge.Creation
import ObjectBridge.Host.Script

/-!
# Two classes to try things out with

A car has an optional number plate and is used through a proxy.  A building has
three fields and is taken out of the interpreter as native data.

Main results:

- Definition `Car.interface`: the interface of a car.
- Definition `Building.target`: buildings as native data.
-/

namespace ObjectBridge

/-! ## Cars -/

namespace Car

/-- A new car, given its number plate by position or by name, or none. -/
def construct : Constructor := fun positional keywords =>
  let car (plate : Value) : Attributes := [("numberPlate", plate), ("wheels", .int 4)]
  match positional, keywords with
  | [], [] => .ok (car .none)
  | [plate], [] => .ok (car plate)
  | [], [("number_plate", plate)] => .ok (car plate)
  | _, _ =>
    let given := positional.length + keywords.length + 1
    .error (.wrongType
      s!"__init__() takes from 1 to 2 positional arguments but {given} were given")

/-- The class of cars. -/
def hostClass : HostClass :=
  { HostClass.scripted "Car" none
      [("getNumberPlate", .read ["numberPlate"]), ("setNumberPlate", .write "numberPlate"),
        ("getSpecs", .read ["wheels", "numberPlate"]),
        ("honk", .raise ⟨"RuntimeError", "horn is broken"⟩)] with
    construct := some construct }

/-- The class of cars as interfaces are bound to it. -/
def binding : Binding := ⟨"Car", "Car", []⟩

/-- The interface of a car. -/
def interface : NativeInterface where
  type := ⟨"dyn pyproxy::testing::fixtures::Car"⟩
  interface := ⟨"Car", some binding,
    [(Operation.forward "get_number_plate" 0).renamed "getNumberPlate",
      (Operation.forward "set_number_plate" 1).renamed "setNumberPlate",
      (Operation.forward "specs" 0).renamed "getSpecs",
      .forward "honk" 0,
      .native "describe" 0]⟩

/-- The car in words. -/
def describe {σ : Type} (b : Bridge σ) (car : Proxy) : Action σ String := do
  let plate : Except BridgeError (Option String) ←
    attempt (b.invokeAs car (.option .text) "get_number_plate" [])
  match plate with
  | .ok (some plate) => return s!"car {plate}"
  | _ => return "unregistered car"

end Car

/-! ## Buildings -/

/-- A building in native form. -/
structure Building where
  id : Int64
  name : String
  address : String
deriving DecidableEq, Repr

namespace Building

/-- A new building, given all three fields by position. -/
def construct : Constructor := fun positional _ =>
  match positional with
  | [id, name, address] => .ok [("address", address), ("id", id), ("name", name)]
  | _ =>
    .error (.wrongType
      s!"__init__() takes 4 positional arguments but {positional.length + 1} were given")

/-- The class of buildings. -/
def hostClass : HostClass :=
  { HostClass.scripted "Building" none
      [("getBuildingId", .read ["id"]), ("setBuildingId", .write "id"),
        ("getBuildingName", .read ["name"]), ("setBuildingName", .write "name"),
        ("getBuildingAddress", .read ["address"]), ("setBuildingAddress", .write "address")] with
    construct := some construct }

/-- The fields of a building met so far. -/
structure Draft where
  id : Option Int64
  name : Option String
  address : Option String

/-- The draft with one more field; fields of other names are passed over. -/
def Draft.add (draft : Draft) (field : String × Json) : Except DecodeFault Draft :=
  match field.1 with
  | "id" => return { draft with id := some (← Target.int64.decode field.2) }
  | "name" => return { draft with name := some (← Target.text.decode field.2) }
  | "address" => return { draft with address := some (← Target.text.decode field.2) }
  | _ => .ok draft

/-- The building of a draft without gaps. -/
def Draft.building (draft : Draft) : Except DecodeFault Building :=
  match draft.id, draft.name, draft.address with
  | none, _, _ => .error (.missingField "id")
  | _, none, _ => .error (.missingField "name")
  | _, _, none => .error (.missingField "address")
  | some id, some name, some address => .ok ⟨id, name, address⟩

/-- What a building is decoded from, as it is named in messages. -/
def expectation : String := "struct Building"

/-- The fault of a row that ends too early. -/
def shortRow {α : Type} (length : Nat) : Except DecodeFault α :=
  .error (.invalidLength length (expectation ++ " with 3 elements"))

/-- The building of a row of fields. -/
def ofRow : List Json → Except DecodeFault Building
  | [] => shortRow 0
  | id :: rest => do
    let id ← Target.int64.decode id
    match rest with
    | [] => shortRow 1
    | name :: rest =>
      let name ← Target.text.decode name
      match rest with
      | [] => shortRow 2
      | address :: rest =>
        let address ← Target.text.decode address
        Target.noFurther (rest.length + 3) rest
        .ok ⟨id, name, address⟩

/-- Buildings as native data, given as a record or as a row in the order of the fields. -/
def target : Target Building :=
  .of "pyproxy::testing::fixtures::Building" fun j =>
    match j with
    | .record fields => do (← fields.foldlM Draft.add ⟨none, none, none⟩).building
    | .list items => ofRow items
    | j => Target.mismatch j expectation

end Building

/-! ## Hosts -/

/-- The host with the modules of both classes. -/
def Host.fixtures : Host :=
  (Host.empty.defineModule "Car" [Car.hostClass]).defineModule "Building" [Building.hostClass]

end ObjectBridge
