import ObjectBridge.Session

/-!
# Interfaces of a session

The metadata of an interface are checked once and kept; so is its dispatch table.
A rejected interface leaves nothing behind.

Main results:

- Definition `Bridge.interface`: the interface kept under a key.
- Definition `Bridge.proxyType`: the dispatch table kept under a key.
-/

namespace ObjectBridge.Bridge

variable {σ : Type}

/-- An interface whose binding, if there is one, is valid. -/
def checkInterface (i : Interface) : Action σ Interface := do
  i.validate
  note (.bindingResolved i)
  return i

/-- The interface kept under a key: the one given, unless another one came first. -/
def interface (_ : Bridge σ) (key : InterfaceKey) (i : Interface) : Action σ Interface :=
  keep Ledger.interfacesPlace key (checkInterface i)

/-- The interface described at run time that is kept under its own name. -/
def register (b : Bridge σ) (i : Interface) : Action σ Interface :=
  b.interface (.named i.name) i

/-- A new dispatch table. -/
def createProxyType (key : InterfaceKey) (i : Interface) : Action σ ProxyType := do
  match ProxyType.build key i with
  | .error e =>
    note (.proxyGenerationFailed i.name e)
    throw e
  | .ok t =>
    count .proxyTypeGenerated
    note (.proxyTypeGenerated i.name t.forwardedOperations)
    return t

/-- The dispatch table kept under a key, drawn up on its first use. -/
def proxyType (_ : Bridge σ) (key : InterfaceKey) (i : Interface) : Action σ ProxyType :=
  keep Ledger.proxyTypesPlace key (createProxyType key i)

end ObjectBridge.Bridge
