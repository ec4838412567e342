import ObjectBridge.Session
import ObjectBridge.Text.Segments

/-!
# Resolution of classes

A class is found by its module and its name.  The importer of the interpreter is
given the whole name of the module and answers with the first package of it; the
other segments are attributes, read one after another, and so is the class.

Main results:

- Definition `Bridge.resolveModule`: the module of a dotted name.
- Definition `Bridge.resolveBinding`: the class of a binding, by means of the
  importer kept for the state.
-/

namespace ObjectBridge

/-- A class found in a state. -/
structure ResolvedClass where
  qualifiedName : String
  callable : ForeignObject
deriving DecidableEq, Repr

namespace Bridge

variable {σ : Type}

/-- The name every state knows its importer by. -/
def importerName : String := "__import__"

/-- The error of a name that cannot be found. -/
def notFound (target : String) (e : ForeignError) : BridgeError :=
  .lookup target (.raised e)

/-- The importer of a state, as the interpreter knows it. -/
def resolveImporter (b : Bridge σ) (s : ManagedState) : Action σ ForeignObject :=
  b.ask (.builtin s.token importerName) (notFound importerName)

/-- The importer kept for a state. -/
def importer (b : Bridge σ) (s : ManagedState) : Action σ ForeignObject :=
  keep Ledger.importersPlace s.number.place (b.resolveImporter s)

/-- The attribute at the end of a walk along names, from a module whose path is given. -/
def walk (b : Bridge σ) (s : ManagedState) (module : ForeignObject) (path : String) :
    List String → Action σ ForeignObject
  | [] => return module
  | name :: rest => do
    let path := path ++ "." ++ name
    let next ← b.ask (.getAttribute s.token module name) (notFound path)
    walk b s next path rest

/-- The module of a dotted name. -/
def resolveModule (b : Bridge σ) (s : ManagedState) (importer : ForeignObject) (name : String) :
    Action σ ForeignObject := do
  let argument ← b.ask (.toForeign s.token (.str name)) (notFound name)
  let package ← b.ask (.call s.token importer ⟨[argument], []⟩) (notFound name)
  let segments := Text.textSegments '.' name
  let module ← b.walk s package (segments.headD name) segments.tail
  note (.moduleResolved s.id name)
  return module

/-- The class of a name in the module of a dotted name. -/
def resolveClass (b : Bridge σ) (s : ManagedState) (importer : ForeignObject)
    (moduleName className : String) : Action σ ResolvedClass := do
  let module ← b.resolveModule s importer moduleName
  let qualifiedName := moduleName ++ "." ++ className
  let callable ← b.ask (.getAttribute s.token module className) (notFound qualifiedName)
  note (.classResolved s.id qualifiedName)
  return ⟨qualifiedName, callable⟩

/-- The class of a binding. -/
def resolveBinding (b : Bridge σ) (s : ManagedState) (binding : Binding) :
    Action σ ResolvedClass := do
  b.resolveClass s (← b.importer s) binding.moduleName binding.className

end Bridge

end ObjectBridge
