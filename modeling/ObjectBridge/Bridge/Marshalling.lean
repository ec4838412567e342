import ObjectBridge.Session

/-!
# Marshalling

Values are given to the interpreter as objects and its results come back as
values.  An object passes through untouched in both directions.  The results of
one call become one value: none at all, the only one, or the list of them.

Main results:

- Definition `Bridge.marshal`: the objects of arguments.
- Definition `collapse`: the one value of any number of results.
-/

namespace ObjectBridge

/-- The one value that any number of results become. -/
def collapse : List Value → Value
  | [] => .none
  | [v] => v
  | vs => .list vs

namespace Bridge

variable {σ : Type}

/-- The object of a value. -/
def toForeign (b : Bridge σ) (s : StateToken) (v : Value) : Action σ ForeignObject :=
  match v with
  | .object o => return o
  | v => b.ask (.toForeign s v) fun e => .conversion v.typeName (.raised e)

/-- The objects of arguments, those by position first. -/
def marshal (b : Bridge σ) (s : StateToken) (positional : List Value)
    (keywords : List (String × Value)) : Action σ Arguments := do
  let positional ← positional.mapM (b.toForeign s)
  let keywords ← keywords.mapM fun entry => return (entry.1, ← b.toForeign s entry.2)
  return ⟨positional, keywords⟩

/-- The value of an object. -/
def toNative (b : Bridge σ) (s : StateToken) (o : ForeignObject) : Action σ Value :=
  b.ask (.toNative s o) fun e => .conversion o.typeName (.raised e)

/-- The values of objects, one by one. -/
def toNativeEach (b : Bridge σ) (s : StateToken) (objects : List ForeignObject) :
    Action σ (List Value) :=
  objects.mapM (b.toNative s)

/-- The one value of the results of a call. -/
def unmarshal (b : Bridge σ) (s : StateToken) (results : List ForeignObject) : Action σ Value :=
  return collapse (← b.toNativeEach s results)

end Bridge

end ObjectBridge
