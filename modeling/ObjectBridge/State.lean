import ObjectBridge.Interface
import ObjectBridge.Interpreter

/-!
# Managed states

The bridge keeps one interpreter state for each key.  The key is that of an
interface or of a native target type, or the single key of a shared state.  A
managed state knows its number, its key and the paths that were added to its
search path.  The number that is shown is a word, so it tells states apart only
until it wraps around; the bridge itself tells them apart as the states they are.

Main results:

- Definition `StateKey.text`: a key as it is shown in messages.
- Definition `StateNumber.next`: the number of one more state.
- Definition `ManagedState.id`: the number of a managed state, as it is shown.
- Definition `ManagedState.describe`: the description of a managed state.
-/

namespace ObjectBridge

/-- What an interpreter state is kept under. -/
inductive StateKey where
  /-- The one state of shared mode. -/
  | shared
  /-- The state of a native type. -/
  | type (id : TypeId)
  /-- The state of an interface described at run time. -/
  | named (name : String)
deriving DecidableEq, Repr

namespace StateKey

/-- A key as it is shown. -/
def text : StateKey → String
  | shared => "global"
  | type id => id.text
  | named name => s!"'{name}'"

/-- The description of a key. -/
def describe : StateKey → String
  | shared => "Global"
  | type id => s!"Type({id.text})"
  | named name => s!"Named({Text.quoted name})"

end StateKey

/-- The number of a state among all that were ever made. -/
structure StateNumber where
  /-- Which of them it is: what is kept for one state is not found for another. -/
  place : Nat
  /-- The word that is shown for it. -/
  word : UInt64
deriving DecidableEq, Repr

namespace StateNumber

/-- The number of the first state. -/
def first : StateNumber :=
  ⟨1, 1⟩

/-- The number of the state after; the word wraps around. -/
def next (n : StateNumber) : StateNumber :=
  ⟨n.place + 1, n.word + 1⟩

end StateNumber

/-- An interpreter state kept by the bridge. -/
structure ManagedState where
  number : StateNumber
  key : StateKey
  token : StateToken
  injectedPath : List Path
deriving DecidableEq, Repr

/-- The number of a managed state, as it is shown. -/
def ManagedState.id (s : ManagedState) : Nat :=
  s.number.word.toNat

/-- The description of a managed state. -/
def ManagedState.describe (s : ManagedState) : String :=
  let paths := Text.bracketed (s.injectedPath.map Path.describe)
  Text.masked
    s!"RuntimeState \x7b id: {s.id}, key: {s.key.describe}, injected_path: {paths} \x7d"

end ObjectBridge
