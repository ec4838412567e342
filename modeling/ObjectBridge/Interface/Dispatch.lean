import ObjectBridge.Interface
import ObjectBridge.Text.Letter

/-!
# Dispatch tables

A proxy type is the dispatch table of one interface: for each forwarded
operation the method it is passed on to and its number of arguments.  The table
is drawn up from the operations one after another.  An operation may be declared
again only in the same words, methods have identifiers as names, and two
operations passed on to one method agree on the number of arguments.

Main results:

- Definition `ProxyType.build`: the table of an interface, or why there is none.
- Theorem `ProxyType.build_interface`: a table belongs to the interface and the
  key it was drawn up for.
-/

namespace ObjectBridge

/-- Where a forwarded operation goes. -/
structure Route where
  foreignName : String
  arity : Nat
deriving DecidableEq, Repr

/-- The dispatch table of an interface, in ascending order of the operations' names. -/
structure ProxyType where
  key : InterfaceKey
  interface : Interface
  table : Entries Route
deriving DecidableEq, Repr

namespace ProxyType

/-- A table being drawn up: the operations met, for each method the operation that was last passed
on to it with its number of arguments, and the routes so far. -/
structure Draft where
  seen : Entries Operation
  methods : Entries (String × Nat)
  table : Entries Route

/-- The draft before the first operation. -/
def Draft.empty : Draft := ⟨[], [], []⟩

/-- The route of a forwarded operation met for the first time. -/
def Draft.route (draft : Draft) (op : Operation) : Except Cause Draft :=
  let foreign := op.foreignName
  if !Text.isIdentifier foreign then .error (.invalidForeignName op.name foreign)
  else
    let next : Draft :=
      { draft with
        methods := Entries.insert foreign (op.name, op.arity) draft.methods
        table := Entries.insert op.name ⟨foreign, op.arity⟩ draft.table }
    match Entries.lookup foreign draft.methods with
    | some (other, arity) =>
      if arity = op.arity then .ok next else .error (.foreignArity other op.name foreign)
    | none => .ok next

/-- The draft with one more operation. -/
def Draft.add (draft : Draft) (op : Operation) : Except Cause Draft :=
  let next := { draft with seen := Entries.insert op.name op draft.seen }
  match Entries.lookup op.name draft.seen with
  | some previous =>
    if previous = op then .ok next else .error (.conflictingOperation op.name)
  | none => if op.forwarded then next.route op else .ok next

/-- The draft of a list of operations. -/
def Draft.ofOperations (operations : List Operation) : Except Cause Draft :=
  operations.foldlM Draft.add Draft.empty

/-- The dispatch table of an interface. -/
def build (key : InterfaceKey) (interface : Interface) : Except BridgeError ProxyType :=
  match Draft.ofOperations interface.operations with
  | .ok draft => .ok ⟨key, interface, draft.table⟩
  | .error cause => .error (.proxyGeneration interface.name cause)

/-- The route of an operation; native and unknown operations have none. -/
def lookup (t : ProxyType) (operation : String) : Option Route :=
  Entries.lookup operation t.table

/-- Whether an operation is passed on. -/
def forwards (t : ProxyType) (operation : String) : Bool :=
  (t.lookup operation).isSome

/-- The names of the operations that are passed on, in ascending order. -/
def forwardedOperations (t : ProxyType) : List String :=
  Entries.keys t.table

/-- A proxy type is built for its own key and interface. -/
theorem build_interface {key : InterfaceKey} {interface : Interface} {t : ProxyType}
    (h : build key interface = .ok t) : t.key = key ∧ t.interface = interface := by
  unfold build at h
  split at h
  · cases h
    exact ⟨rfl, rfl⟩
  · cases h

end ProxyType

end ObjectBridge
