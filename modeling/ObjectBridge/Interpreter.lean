import ObjectBridge.Duration
import ObjectBridge.Error
import ObjectBridge.Path
import ObjectBridge.Value

/-!
# Interpreters

An interpreter is known to the bridge by its answers to ten kinds of requests.
Requests are data; a request that cannot be granted is answered by an exception.
What an interpreter keeps between two requests is its world, of which the bridge
knows nothing.

Main results:

- Definition `Request.Answer`: what is answered to a request that is granted.
- Definition `Interpreter.impaired`: an interpreter some of whose primitives are
  out of order.
-/

namespace ObjectBridge

/-! ## Requests -/

/-- A state of an interpreter, by the number it was handed out under. -/
structure StateToken where
  index : Nat
deriving DecidableEq, Repr

/-- The primitives of an interpreter. -/
inductive Primitive where
  | createState
  | extendSearchPath
  | searchPath
  | builtin
  | call
  | getAttribute
  | callMethod
  | toForeign
  | toNative
  | coerce
deriving DecidableEq, Repr

namespace Primitive

/-- The name of a primitive. -/
def name : Primitive → String
  | createState => "create_state"
  | extendSearchPath => "extend_search_path"
  | searchPath => "search_path"
  | builtin => "builtin"
  | call => "call"
  | getAttribute => "get_attr"
  | callMethod => "call_method"
  | toForeign => "to_foreign"
  | toNative => "to_native"
  | coerce => "coerce"

/-- All primitives. -/
def all : List Primitive :=
  [createState, extendSearchPath, searchPath, builtin, call, getAttribute, callMethod, toForeign,
    toNative, coerce]

/-- The primitive of a name. -/
def ofName? (text : String) : Option Primitive :=
  all.find? fun p => p.name == text

end Primitive

/-- Objects given to a call by position and by name. -/
structure Arguments where
  positional : List ForeignObject
  keywords : List (String × ForeignObject)
deriving DecidableEq, Repr

/-- The number of all arguments. -/
def Arguments.count (a : Arguments) : Nat :=
  a.positional.length + a.keywords.length

/-- A request to an interpreter. -/
inductive Request where
  /-- A new, independent state. -/
  | createState
  /-- Paths added to the search path of a state. -/
  | extendSearchPath (state : StateToken) (entries : List Path)
  /-- The search path of a state. -/
  | searchPath (state : StateToken)
  /-- An object every state knows by name. -/
  | builtin (state : StateToken) (name : String)
  /-- A call of an object, such as a class. -/
  | call (state : StateToken) (callable : ForeignObject) (arguments : Arguments)
  /-- An attribute of an object. -/
  | getAttribute (state : StateToken) (object : ForeignObject) (name : String)
  /-- A call of a method, which may return any number of results. -/
  | callMethod (state : StateToken) (object : ForeignObject) (name : String)
      (positional : List ForeignObject)
  /-- An object that stands for a value. -/
  | toForeign (state : StateToken) (value : Value)
  /-- The value of an object, which may be the object itself. -/
  | toNative (state : StateToken) (object : ForeignObject)
  /-- The structure of an object as plain data. -/
  | coerce (state : StateToken) (object : ForeignObject)
deriving Repr

namespace Request

/-- The primitive a request asks for. -/
def primitive : Request → Primitive
  | createState => .createState
  | extendSearchPath .. => .extendSearchPath
  | searchPath .. => .searchPath
  | builtin .. => .builtin
  | call .. => .call
  | getAttribute .. => .getAttribute
  | callMethod .. => .callMethod
  | toForeign .. => .toForeign
  | toNative .. => .toNative
  | coerce .. => .coerce

/-- What is answered to a request that is granted. -/
abbrev Answer : Request → Type
  | createState => StateToken
  | extendSearchPath .. => Unit
  | searchPath .. => List Path
  | builtin .. => ForeignObject
  | call .. => ForeignObject
  | getAttribute .. => ForeignObject
  | callMethod .. => List ForeignObject
  | toForeign .. => ForeignObject
  | toNative .. => Value
  | coerce .. => Value

end Request

/-! ## Interpreters -/

/-- An interpreter whose world is of type `σ`, with a clock that runs in this world. -/
structure Interpreter (σ : Type) where
  name : String
  perform : (r : Request) → σ → Except ForeignError r.Answer × σ
  clock : σ → Duration

/-- A world in which some primitives are out of order, each with the exception it raises. -/
structure Impaired (σ : Type) where
  world : σ
  faults : List (Primitive × ForeignError)

namespace Impaired

variable {σ : Type}

/-- The exception of a primitive that is out of order. -/
def fault? (w : Impaired σ) (p : Primitive) : Option ForeignError :=
  (w.faults.find? fun entry => entry.1 = p).map Prod.snd

/-- The world with a primitive put back into order. -/
def repair (w : Impaired σ) (p : Primitive) : Impaired σ :=
  { w with faults := w.faults.filter fun entry => entry.1 ≠ p }

/-- The world with a primitive put out of order; the exception replaces an earlier one. -/
def damage (w : Impaired σ) (p : Primitive) (e : ForeignError) : Impaired σ :=
  { w with faults := (p, e) :: (w.repair p).faults }

end Impaired

/-- The interpreter with primitives out of order: their requests fail without reaching it. -/
def Interpreter.impaired {σ : Type} (i : Interpreter σ) : Interpreter (Impaired σ) where
  name := i.name
  perform r w :=
    match w.fault? r.primitive with
    | some e => (.error e, w)
    | none =>
      let (answer, world) := i.perform r w.world
      (answer, { w with world })
  clock w := i.clock w.world

end ObjectBridge
