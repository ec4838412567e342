import ObjectBridge.Session

/-!
# States of a session

The states of the interpreter are made on the first use of their key, with the
configured paths on their search path, and kept until they are released all at
once.  The numbers count on over a release.

Main results:

- Definition `Bridge.state`: the state kept under a key.
- Definition `Bridge.statesOfThreads`: the states that several threads get.
- Definition `Bridge.releaseStates`: all states are let go of.
-/

namespace ObjectBridge.Bridge

variable {σ : Type}

/-- The number of the next state, which is used up. -/
def takeStateId : Action σ StateNumber := do
  let number := (← get).ledger.nextState
  modify fun s => { s with ledger := { s.ledger with nextState := number.next } }
  return number

/-- A new state with the configured paths on its search path. -/
def createState (b : Bridge σ) (key : StateKey) : Action σ ManagedState := do
  let failure e := BridgeError.state key.text (.raised e)
  let token ← b.ask .createState failure
  let paths := b.configuration.paths.resolve b.environment
  b.ask (.extendSearchPath token paths) failure
  let state := ManagedState.mk (← takeStateId) key token paths
  count .stateCreated
  note (.stateCreated b.interpreter.name state)
  return state

/-- The state kept under a key, made on its first use. -/
def state (b : Bridge σ) (key : StateKey) : Action σ ManagedState :=
  keep Ledger.statesPlace key (b.createState key)

/-- The numbers of the states that several threads get for one key, without repetitions in a row.
Every thread asks, even when another one fails; the first failure counts. -/
def statesOfThreads (b : Bridge σ) (key : StateKey) (threads : Nat) : Action σ (List Nat) := do
  let outcomes ← (List.replicate threads key).mapM fun key => attempt (inThread (b.state key))
  let states ← outcomes.mapM fun outcome => ExceptT.mk (pure outcome)
  return states.foldr (fun s ids => if ids.head? = some s.id then ids else s.id :: ids) []

/-- The key of the state that a part of the program with a key of its own works in. -/
def stateKey (b : Bridge σ) (own : StateKey) : StateKey :=
  match b.configuration.mode with
  | .shared => .shared
  | .perInterface => own

/-- All states are let go of; the next use of a key makes a new one. -/
def releaseStates (b : Bridge σ) : Action σ Unit := do
  let released := (← get).ledger.states.size
  modify fun s => { s with ledger := { s.ledger with states := .empty } }
  note (.statesReleased b.interpreter.name released)

end ObjectBridge.Bridge
