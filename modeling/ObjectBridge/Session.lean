import ObjectBridge.Cache
import ObjectBridge.Counters
import ObjectBridge.Interface.Dispatch
import ObjectBridge.Trace

/-!
# Sessions

A session is what an operation of the bridge can change: the world of the
interpreter, the ledger of the bridge and the trace it leaves.  An action is a
step from session to session that ends in a result or an error; it keeps what it
did before it failed.

Main results:

- Definition `Bridge.ask`: a request to the interpreter, whose exception becomes
  an error of the bridge.
- Definitions `note`, `count`: a notice in the trace, an event in the counters.
-/

namespace ObjectBridge

/-- What the bridge has made so far, and its counters. -/
structure Ledger where
  /-- The interfaces whose metadata was checked. -/
  interfaces : Cache InterfaceKey Interface
  /-- The dispatch tables drawn up. -/
  proxyTypes : Cache InterfaceKey ProxyType
  /-- The states kept. -/
  states : Cache StateKey ManagedState
  /-- The importer of each state, by the place of the state among all that were made. -/
  importers : Cache Nat ForeignObject
  /-- The number of the next state. -/
  nextState : StateNumber
  counters : Counters

/-- The ledger of a new bridge. -/
def Ledger.new : Ledger :=
  ⟨.empty, .empty, .empty, .empty, .first, .zero⟩

/-- What an operation of the bridge can change. -/
structure Session (σ : Type) where
  world : σ
  ledger : Ledger
  trace : List TraceEntry

/-- A step from session to session that ends in a result or an error. -/
abbrev Action (σ α : Type) := ExceptT BridgeError (StateM (Session σ)) α

/-- An interpreter behind a configuration, in the surroundings of a process. -/
structure Bridge (σ : Type) where
  interpreter : Interpreter σ
  configuration : Configuration
  environment : Environment

variable {σ α : Type}

/-! ## Places in the ledger -/

namespace Ledger

/-- The interfaces of a session. -/
def interfacesPlace : Cache.Place (Session σ) InterfaceKey Interface where
  read s := s.ledger.interfaces
  write c s := { s with ledger := { s.ledger with interfaces := c } }

/-- The dispatch tables of a session. -/
def proxyTypesPlace : Cache.Place (Session σ) InterfaceKey ProxyType where
  read s := s.ledger.proxyTypes
  write c s := { s with ledger := { s.ledger with proxyTypes := c } }

/-- The states of a session. -/
def statesPlace : Cache.Place (Session σ) StateKey ManagedState where
  read s := s.ledger.states
  write c s := { s with ledger := { s.ledger with states := c } }

/-- The importers of a session. -/
def importersPlace : Cache.Place (Session σ) Nat ForeignObject where
  read s := s.ledger.importers
  write c s := { s with ledger := { s.ledger with importers := c } }

end Ledger

/-! ## Basic actions -/

/-- An entry at the end of the trace. -/
def enterTrace (entry : TraceEntry) : Action σ Unit :=
  modify fun s => { s with trace := s.trace ++ [entry] }

/-- A notice in the trace. -/
def note (notice : Notice) : Action σ Unit :=
  enterTrace (.notice notice)

/-- An event in the counters. -/
def count (tally : Tally) : Action σ Unit :=
  modify fun s => { s with ledger := { s.ledger with counters := s.ledger.counters.record tally } }

/-- What the ledger holds under a key, made on its first use. -/
def keep {κ : Type} [DecidableEq κ] (place : Cache.Place (Session σ) κ α) (key : κ)
    (create : Action σ α) : Action σ α :=
  Cache.fetch place key create

/-- The outcome of an action as a result of its own, so that what follows runs in any case. -/
def attempt (action : Action σ α) : Action σ (Except BridgeError α) :=
  fun s => let (outcome, s) := action s; (.ok outcome, s)

/-- An action that another thread carries out, which also leaves the notices. -/
def inThread (action : Action σ α) : Action σ α :=
  fun s =>
    let (outcome, t) := action { s with trace := [] }
    (outcome, { t with trace := s.trace ++ t.trace.map TraceEntry.toElsewhere })

namespace Bridge

/-- The bridge before its first operation: it has left the notice of its own creation. -/
def start (b : Bridge σ) (world : σ) : Session σ :=
  ⟨world, .new, [.notice (.bridgeCreated b.interpreter.name b.configuration.mode)]⟩

/-- A request to the interpreter; its exception becomes the given error. -/
def ask (b : Bridge σ) (request : Request) (failure : ForeignError → BridgeError) :
    Action σ request.Answer :=
  fun s =>
    let (answer, world) := b.interpreter.perform request s.world
    (answer.mapError failure, { s with world })

/-- The time on the interpreter's clock. -/
def now (b : Bridge σ) : Action σ Duration :=
  return b.interpreter.clock (← get).world

end Bridge

end ObjectBridge
