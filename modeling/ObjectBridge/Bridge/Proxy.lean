import ObjectBridge.Bridge.Marshalling
import ObjectBridge.Value.Native

/-!
# Proxies

A proxy stands before one object.  An operation of its interface is passed on if
the dispatch table has a route for it and the number of arguments fits; a method
may also be called by its own name, past the table.  Each call that is passed on
is counted and leaves a span in the trace, whether it succeeds or not.

Main results:

- Definition `Bridge.forward`: a call passed on to the object.
- Definition `Bridge.invoke`: an operation of the interface.
-/

namespace ObjectBridge

/-- An object with the dispatch table of its interface and the state it lives in. -/
structure Proxy where
  type : ProxyType
  object : ForeignObject
  state : ManagedState
deriving DecidableEq, Repr

namespace Proxy

/-- The name of the interface. -/
def interfaceName (p : Proxy) : String :=
  p.type.interface.name

/-- The description of a proxy. -/
def describe (p : Proxy) : String :=
  Text.masked <|
    s!"ProxyInstance \x7b interface: {Text.quoted p.interfaceName}, " ++
      s!"object: {p.object.describe}, state: {p.state.id} \x7d"

/-- The route of an operation that is given some number of arguments. -/
def route (p : Proxy) (operation : String) (supplied : Nat) : Except BridgeError Route :=
  match p.type.lookup operation with
  | none => .error (.invocation p.interfaceName operation .notForwarded)
  | some route =>
    if supplied = route.arity then .ok route
    else .error (.invocation p.interfaceName operation (.operationArity route.arity supplied))

end Proxy

namespace Bridge

variable {σ : Type}

/-- The value a method of the object returns. -/
def callObject (b : Bridge σ) (p : Proxy) (operation foreignName : String)
    (arguments : List Value) : Action σ Value := do
  let token := p.state.token
  let marshalled ← b.marshal token arguments []
  let results ← b.ask (.callMethod token p.object foreignName marshalled.positional) fun e =>
    .invocation p.interfaceName operation (.raisedBy e foreignName)
  b.unmarshal token results

/-- A call passed on to the object, counted and traced. -/
def forward (b : Bridge σ) (p : Proxy) (operation foreignName : String)
    (arguments : List Value) : Action σ Value := do
  enterTrace (.opened ⟨p.interfaceName, operation, foreignName, p.state.id⟩)
  enterTrace .entered
  let started ← b.now
  let outcome ← attempt (b.callObject p operation foreignName arguments)
  count (.callDispatched ((← b.now).since started))
  match outcome with
  | .ok _ => note .callReturned
  | .error e =>
    count .failed
    note (.callFailed p.interfaceName operation e)
  enterTrace .left
  outcome

/-- An operation of the interface. -/
def invoke (b : Bridge σ) (p : Proxy) (operation : String) (arguments : List Value) :
    Action σ Value := do
  let route ← p.route operation arguments.length
  b.forward p operation route.foreignName arguments

/-- An operation of the interface whose result is decoded into a native type. -/
def invokeAs (b : Bridge σ) (p : Proxy) (t : NativeType) (operation : String)
    (arguments : List Value) : Action σ t.Carrier := do
  t.decode (← b.invoke p operation arguments)

/-- A method of the object, called by its own name. -/
def invokeMethod (b : Bridge σ) (p : Proxy) (name : String) (arguments : List Value) :
    Action σ Value :=
  b.forward p name name arguments

end Bridge

end ObjectBridge
