import ObjectBridge.Bridge.Instantiation
import ObjectBridge.Bridge.Interfaces
import ObjectBridge.Bridge.Proxy
import ObjectBridge.Bridge.States

/-!
# Creation of instances and proxies

There are two ways to use a class of the interpreter.  An instance may be taken
out as native data, or stay where it is behind a proxy, for an interface of
native code or for one described at run time.  All that can fail without the
interpreter is checked before it is reached.  An operation that fails is counted
and leaves a notice.

Main results:

- Definition `Bridge.createInstance`: a new instance in native form.
- Definitions `Bridge.createProxy`, `Bridge.createDynamicProxy`: a new instance
  behind a proxy.
- Definition `Bridge.wrap`: a proxy for an object that is already there.
-/

namespace ObjectBridge

/-- An interface of native code, with the identity of its type. -/
structure NativeInterface where
  type : TypeId
  interface : Interface
deriving DecidableEq, Repr

namespace Bridge

variable {σ α : Type}

/-- An operation whose failure is counted and leaves a notice. -/
def observed (operation subject : String) (action : Action σ α) : Action σ α := do
  let outcome ← attempt action
  if let .error e := outcome then
    count .failed
    note (.operationFailed operation subject e)
  outcome

/-- A new object of the class of a binding, in the state of a key. -/
def newObject (b : Bridge σ) (s : ManagedState) (binding : Binding) (arguments : List Value)
    (keywords : List (String × Value)) : Action σ ForeignObject := do
  let c ← b.resolveBinding s binding
  let marshalled ← b.marshal s.token arguments keywords
  b.instantiate s c marshalled

/-- A new instance of a class in native form. -/
def createInstance (b : Bridge σ) (target : Target α) (moduleName className : String)
    (arguments : List Value) : Action σ α :=
  observed "create_instance" target.type.name do
    let binding : Binding := ⟨moduleName, className, []⟩
    binding.validate target.type.name
    let s ← b.state (b.stateKey (.type target.type))
    let object ← b.newObject s binding arguments []
    let x ← b.coerceTo s.token object target
    count .instanceCreated
    note (.nativeInstanceCreated binding.qualifiedName target.type.name)
    return x

/-- A new instance behind a proxy. -/
def instantiateProxy (b : Bridge σ) (key : InterfaceKey) (stateKey : StateKey) (i : Interface)
    (arguments : List Value) (keywords : List (String × Value)) : Action σ Proxy := do
  let binding ← i.requireBinding
  if b.configuration.checkArity then
    binding.checkArity (arguments.length + keywords.length)
  let type ← b.proxyType key i
  let s ← b.state (b.stateKey stateKey)
  let object ← b.newObject s binding arguments keywords
  count .instanceCreated
  note (.proxyInstanceCreated i.name binding.qualifiedName s.id)
  return ⟨type, object, s⟩

/-- A new instance behind a proxy for an interface of native code. -/
def createProxy (b : Bridge σ) (i : NativeInterface) (arguments : List Value)
    (keywords : List (String × Value)) : Action σ Proxy :=
  observed "create_proxy_instance" i.type.name do
    let kept ← b.interface (.type i.type) i.interface
    b.instantiateProxy (.type i.type) (.type i.type) kept arguments keywords

/-- A new instance behind a proxy for an interface described at run time. -/
def createDynamicProxy (b : Bridge σ) (i : Interface) (arguments : List Value) : Action σ Proxy :=
  observed "create_dynamic_proxy" i.name do
    let kept ← b.register i
    b.instantiateProxy (.named i.name) (.named i.name) kept arguments []

/-- A proxy for an object that is already there. -/
def wrap (b : Bridge σ) (i : NativeInterface) (object : ForeignObject) (s : ManagedState) :
    Action σ Proxy :=
  observed "wrap" i.type.name do
    let kept ← b.interface (.type i.type) i.interface
    return ⟨← b.proxyType (.type i.type) kept, object, s⟩

/-- The end of the bridge's work: all states are let go of. -/
def shutdown (b : Bridge σ) : Action σ Unit :=
  b.releaseStates

end Bridge

end ObjectBridge
