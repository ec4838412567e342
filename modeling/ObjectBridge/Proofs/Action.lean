import Mathlib.Order.Defs.Unbundled
import ObjectBridge.Bridge.Creation

/-!
# Laws of actions

An action takes a session to an outcome and a session.  This module says what
the basic actions do to a session, and how the session after a sequence of
actions is related to the one before.

Main results:

- Theorem `bind_apply`: a sequence of two actions ends with the first failure.
- Theorem `keep_apply`: what is kept is created at most once.
- Theorem `Within.bind`, `Within.mapM`: a preorder that the parts of an action
  respect is respected by the whole.
-/

namespace ObjectBridge

variable {ε ς σ α β : Type}

/-! ## Sequences -/

/-- A sequence stops at the first failure and keeps what was done before. -/
theorem bind_apply (a : ExceptT ε (StateM ς) α) (f : α → ExceptT ε (StateM ς) β) (s : ς) :
    (a >>= f) s =
      match a s with
      | (.ok x, t) => f x t
      | (.error e, t) => (.error e, t) := by
  show (match a s with | (r, t) => (ExceptT.bindCont f r : StateM ς (Except ε β)) t) = _
  rcases a s with ⟨r, t⟩
  cases r <;> rfl

/-- After a success the sequence goes on with its result. -/
theorem bind_apply_ok {a : ExceptT ε (StateM ς) α} {f : α → ExceptT ε (StateM ς) β} {s t : ς}
    {x : α} (h : a s = (.ok x, t)) : (a >>= f) s = f x t := by
  rw [bind_apply, h]

/-- After a failure nothing more is done. -/
theorem bind_apply_error {a : ExceptT ε (StateM ς) α} {f : α → ExceptT ε (StateM ς) β} {s t : ς}
    {e : ε} (h : a s = (.error e, t)) : (a >>= f) s = (.error e, t) := by
  rw [bind_apply, h]

/-- A result that is given needs nothing done. -/
theorem pure_apply (x : α) (s : ς) : (pure x : ExceptT ε (StateM ς) α) s = (.ok x, s) :=
  rfl

/-- A result or a failure that is given changes nothing. -/
theorem lift_apply (r : Except ε α) (s : ς) : (liftM r : ExceptT ε (StateM ς) α) s = (r, s) :=
  rfl

theorem get_apply (s : ς) : (get : ExceptT ε (StateM ς) ς) s = (.ok s, s) :=
  rfl

theorem modify_apply (f : ς → ς) (s : ς) :
    (modify f : ExceptT ε (StateM ς) Unit) s = (.ok (), f s) :=
  rfl

/-- A traversal by steps that only read is one of what they read. -/
theorem mapM_apply_of_reads {f : α → ExceptT ε (StateM ς) β} {g : α → Except ε β} {s : ς}
    (hf : ∀ x, f x s = (g x, s)) (xs : List α) : xs.mapM f s = (xs.mapM g, s) := by
  induction xs with
  | nil => rfl
  | cons x xs ih =>
      rw [List.mapM_cons, List.mapM_cons, bind_apply, hf x]
      cases g x with
      | error e => rfl
      | ok y =>
          simp only [bind_apply, ih]
          cases xs.mapM g <;> rfl

/-! ## Changes of a session -/

namespace Session

/-- The session with one more entry in its trace. -/
def entered (s : Session σ) (entry : TraceEntry) : Session σ :=
  { s with trace := s.trace ++ [entry] }

/-- The session with one more event in its counters. -/
def counted (s : Session σ) (tally : Tally) : Session σ :=
  { s with ledger := { s.ledger with counters := s.ledger.counters.record tally } }

/-- The session in another world. -/
def moved (s : Session σ) (world : σ) : Session σ :=
  { s with world }

/-- An entry in the trace leaves the world as it is. -/
@[simp] theorem entered_world (s : Session σ) (entry : TraceEntry) :
    (s.entered entry).world = s.world :=
  rfl

/-- An entry in the trace leaves the ledger as it is. -/
@[simp] theorem entered_ledger (s : Session σ) (entry : TraceEntry) :
    (s.entered entry).ledger = s.ledger :=
  rfl

/-- An event in the counters leaves the world as it is. -/
@[simp] theorem counted_world (s : Session σ) (tally : Tally) :
    (s.counted tally).world = s.world :=
  rfl

/-- An event in the counters changes nothing else in the ledger. -/
@[simp] theorem counted_ledger (s : Session σ) (tally : Tally) :
    (s.counted tally).ledger =
      { s.ledger with counters := s.ledger.counters.record tally } :=
  rfl

@[simp] theorem moved_world (s : Session σ) (world : σ) : (s.moved world).world = world :=
  rfl

/-- The ledger stays behind in another world. -/
@[simp] theorem moved_ledger (s : Session σ) (world : σ) :
    (s.moved world).ledger = s.ledger :=
  rfl

end Session

/-! ## Basic actions -/

/-- Entering something adds it at the end of the trace. -/
theorem enterTrace_apply (entry : TraceEntry) (s : Session σ) :
    enterTrace entry s = (.ok (), s.entered entry) :=
  rfl

/-- Counting an event records it in the counters. -/
theorem count_apply (tally : Tally) (s : Session σ) :
    count tally s = (.ok (), s.counted tally) :=
  rfl

/-- An attempt succeeds with the outcome of what was attempted. -/
theorem attempt_apply (a : Action σ α) (s : Session σ) :
    attempt a s = (.ok (a s).1, (a s).2) :=
  rfl

/-- A request moves the session on into the world that the interpreter leaves, and wraps its
failure. -/
theorem ask_apply (b : Bridge σ) (request : Request) (failure : ForeignError → BridgeError)
    (s : Session σ) :
    b.ask request failure s =
      ((b.interpreter.perform request s.world).1.mapError failure,
        s.moved (b.interpreter.perform request s.world).2) :=
  rfl

/-- A request that the interpreter grants. -/
theorem ask_granted {b : Bridge σ} {request : Request} {failure : ForeignError → BridgeError}
    {s : Session σ} {x : request.Answer} {world : σ}
    (h : b.interpreter.perform request s.world = (.ok x, world)) :
    b.ask request failure s = (.ok x, s.moved world) := by
  rw [ask_apply, h]
  rfl

/-- A request that the interpreter refuses. -/
theorem ask_refused {b : Bridge σ} {request : Request} {failure : ForeignError → BridgeError}
    {s : Session σ} {e : ForeignError} {world : σ}
    (h : b.interpreter.perform request s.world = (.error e, world)) :
    b.ask request failure s = (.error (failure e), s.moved world) := by
  rw [ask_apply, h]
  rfl

theorem now_apply (b : Bridge σ) (s : Session σ) :
    b.now s = (.ok (b.interpreter.clock s.world), s) :=
  rfl

/-- The next number is handed out, and the one after it will be next. -/
theorem takeStateId_apply (s : Session σ) :
    (Bridge.takeStateId : Action σ StateNumber) s =
      (.ok s.ledger.nextState,
        { s with ledger := { s.ledger with nextState := s.ledger.nextState.next } }) :=
  rfl

/-- What is kept under a key is fetched without any change; otherwise it is created and kept. -/
theorem keep_apply {κ : Type} [DecidableEq κ] (place : Cache.Place (Session σ) κ α) (key : κ)
    (create : Action σ α) (s : Session σ) :
    keep place key create s =
      match (place.read s).find? key with
      | some x => (.ok x, s)
      | none =>
        match create s with
        | (.ok x, t) => (.ok x, place.write ((place.read t).add key x) t)
        | (.error e, t) => (.error e, t) := by
  have here (t : Session σ) :
      (getThe (Session σ) : Action σ (Session σ)) t = (.ok t, t) := rfl
  rw [keep, Cache.fetch, bind_apply, here]
  cases h : (place.read s).find? key with
  | some x => simp only [h, pure_apply]
  | none =>
      -- The entry step looks a second time before it creates anything.
      simp only [h, Cache.enter]
      rw [bind_apply, here]
      simp only [h]
      rw [bind_apply]
      rcases create s with ⟨r, t⟩
      cases r <;> rfl

/-- What is there already is not created again. -/
theorem keep_found {κ : Type} [DecidableEq κ] {place : Cache.Place (Session σ) κ α} {key : κ}
    {create : Action σ α} {s : Session σ} {x : α} (h : (place.read s).find? key = some x) :
    keep place key create s = (.ok x, s) := by
  rw [keep_apply, h]

/-- What is missing is created and put under its key. -/
theorem keep_made {κ : Type} [DecidableEq κ] {place : Cache.Place (Session σ) κ α} {key : κ}
    {create : Action σ α} {s t : Session σ} {x : α} (h : (place.read s).find? key = none)
    (hcreate : create s = (.ok x, t)) :
    keep place key create s = (.ok x, place.write ((place.read t).add key x) t) := by
  rw [keep_apply, h, hcreate]

/-- What cannot be created leaves the cache without it. -/
theorem keep_failed {κ : Type} [DecidableEq κ] {place : Cache.Place (Session σ) κ α} {key : κ}
    {create : Action σ α} {s t : Session σ} {e : BridgeError}
    (h : (place.read s).find? key = none) (hcreate : create s = (.error e, t)) :
    keep place key create s = (.error e, t) := by
  rw [keep_apply, h, hcreate]

/-- An observed operation ends as the operation does; a failure is counted and noticed. -/
theorem observed_apply (operation subject : String) (a : Action σ α) (s : Session σ) :
    Bridge.observed operation subject a s =
      match a s with
      | (.ok x, t) => (.ok x, t)
      | (.error e, t) =>
        (.error e,
          (t.counted .failed).entered (.notice (.operationFailed operation subject e))) := by
  rw [Bridge.observed, bind_apply, attempt_apply]
  rcases a s with ⟨r, t⟩
  cases r <;> rfl

/-- Being observed does not change how an action ends. -/
theorem observed_outcome (operation subject : String) (a : Action σ α) (s : Session σ) :
    (Bridge.observed operation subject a s).1 = (a s).1 := by
  rw [observed_apply]
  rcases a s with ⟨r, t⟩
  cases r <;> rfl

/-! ## Operations in parts -/

namespace Bridge

/-- The check of the declared number of arguments, if it is on. -/
def checkDeclared (b : Bridge σ) (binding : Binding) (supplied : Nat) : Except BridgeError Unit :=
  if b.configuration.checkArity then binding.checkArity supplied else .ok ()

/-- A new instance behind a proxy, once the binding is known to fit the arguments. -/
def bindProxy (b : Bridge σ) (key : InterfaceKey) (own : StateKey) (i : Interface)
    (binding : Binding) (arguments : List Value) (keywords : List (String × Value)) :
    Action σ Proxy := do
  let type ← b.proxyType key i
  let m ← b.state (b.stateKey own)
  let object ← b.newObject m binding arguments keywords
  count .instanceCreated
  note (.proxyInstanceCreated i.name binding.qualifiedName m.id)
  return ⟨type, object, m⟩

/-- Before a proxy is bound, its interface has to have a binding that the arguments fit. -/
theorem instantiateProxy_eq (b : Bridge σ) (key : InterfaceKey) (own : StateKey) (i : Interface)
    (arguments : List Value) (keywords : List (String × Value)) :
    b.instantiateProxy key own i arguments keywords =
      (do
        let binding ← i.requireBinding
        b.checkDeclared binding (arguments.length + keywords.length)
        b.bindProxy key own i binding arguments keywords) := by
  rw [instantiateProxy]
  congr
  funext binding
  rw [checkDeclared]
  by_cases h : b.configuration.checkArity = true
  · rw [if_pos h, if_pos h]
    rfl
  · rw [if_neg h, if_neg h]
    rfl

/-- The session in which a call that started in another session is counted. -/
def timed (b : Bridge σ) (s t : Session σ) : Session σ :=
  t.counted (.callDispatched ((b.interpreter.clock t.world).since (b.interpreter.clock s.world)))

/-- A call that is passed on ends as the call of the method does, with one more call counted. -/
theorem forward_apply (b : Bridge σ) (p : Proxy) (operation foreignName : String)
    (arguments : List Value) (s : Session σ) :
    b.forward p operation foreignName arguments s =
      match b.callObject p operation foreignName arguments
        ((s.entered (.opened ⟨p.interfaceName, operation, foreignName, p.state.id⟩)).entered
          .entered) with
      | (.ok v, t) => (.ok v, ((b.timed s t).entered (.notice .callReturned)).entered .left)
      | (.error e, t) =>
        (.error e, (((b.timed s t).counted .failed).entered
          (.notice (.callFailed p.interfaceName operation e))).entered .left) := by
  simp only [forward, bind_apply, enterTrace_apply, now_apply, attempt_apply, count_apply]
  rcases b.callObject p operation foreignName arguments _ with ⟨r, t⟩
  cases r <;> rfl

/-- A call that succeeds is timed and noted before its span is left. -/
theorem forward_ok (b : Bridge σ) {p : Proxy} {operation foreignName : String}
    {arguments : List Value} {s t : Session σ} {v : Value}
    (h : b.callObject p operation foreignName arguments
      ((s.entered (.opened ⟨p.interfaceName, operation, foreignName, p.state.id⟩)).entered
        .entered) = (.ok v, t)) :
    b.forward p operation foreignName arguments s =
      (.ok v, ((b.timed s t).entered (.notice .callReturned)).entered .left) := by
  rw [forward_apply, h]

/-- A call that fails is timed too, and counted as a failure and noted. -/
theorem forward_error (b : Bridge σ) {p : Proxy} {operation foreignName : String}
    {arguments : List Value} {s t : Session σ} {e : BridgeError}
    (h : b.callObject p operation foreignName arguments
      ((s.entered (.opened ⟨p.interfaceName, operation, foreignName, p.state.id⟩)).entered
        .entered) = (.error e, t)) :
    b.forward p operation foreignName arguments s =
      (.error e, (((b.timed s t).counted .failed).entered
        (.notice (.callFailed p.interfaceName operation e))).entered .left) := by
  rw [forward_apply, h]

end Bridge

/-! ## Actions within a relation -/

/-- An action takes every session to one that is related to it. -/
def Within (R : ς → ς → Prop) (a : ExceptT ε (StateM ς) α) : Prop :=
  ∀ s, R s (a s).2

namespace Within

variable {R : ς → ς → Prop} [IsPreorder ς R]

theorem pure (x : α) : Within R (Pure.pure x : ExceptT ε (StateM ς) α) :=
  fun s => refl_of R s

theorem lift (r : Except ε α) : Within R (liftM r : ExceptT ε (StateM ς) α) :=
  fun s => refl_of R s

theorem throw (e : ε) : Within R (MonadExcept.throw e : ExceptT ε (StateM ς) α) :=
  fun s => refl_of R s

theorem get : Within R (MonadState.get : ExceptT ε (StateM ς) ς) :=
  fun s => refl_of R s

/-- A sequence stays within a preorder that both of its parts stay within. -/
theorem bind {a : ExceptT ε (StateM ς) α} {f : α → ExceptT ε (StateM ς) β}
    (ha : Within R a) (hf : ∀ x, Within R (f x)) : Within R (a >>= f) := by
  intro s
  have hfirst := ha s
  rw [bind_apply]
  rcases h : a s with ⟨r, t⟩
  rw [h] at hfirst
  cases r with
  | ok x => exact trans_of R hfirst (hf x t)
  | error e => exact hfirst

/-- So does a traversal of which every step does. -/
theorem mapM {f : α → ExceptT ε (StateM ς) β} (hf : ∀ x, Within R (f x)) (xs : List α) :
    Within R (xs.mapM f) := by
  induction xs with
  | nil => exact pure []
  | cons x xs ih =>
      rw [List.mapM_cons]
      exact bind (hf x) fun y => bind ih fun ys => pure (y :: ys)

/-- What is kept under a key is found there, or made and then written to its place. -/
theorem keep {R : Session σ → Session σ → Prop} [IsPreorder (Session σ) R] {κ : Type}
    [DecidableEq κ] {place : Cache.Place (Session σ) κ α} {create : Action σ α} {key : κ}
    (hcreate : Within R create) (hwrite : ∀ s c, R s (place.write c s)) :
    Within R (ObjectBridge.keep place key create) := by
  intro s
  have hmade := hcreate s
  rw [keep_apply]
  cases (place.read s).find? key with
  | some x => exact refl_of R s
  | none =>
      rcases h : create s with ⟨r, t⟩
      rw [h] at hmade
      cases r with
      | ok x => exact trans_of R hmade (hwrite t _)
      | error e => exact hmade

end Within

/-! ## What actions return -/

/-- Whatever an action returns when it succeeds has a property. -/
def Returns (P : α → Prop) (a : ExceptT ε (StateM ς) α) : Prop :=
  ∀ s x, (a s).1 = .ok x → P x

namespace Returns

theorem pure {P : α → Prop} {x : α} (h : P x) :
    Returns P (Pure.pure x : ExceptT ε (StateM ς) α) := by
  intro s y hy
  cases hy
  exact h

/-- A sequence returns what its last part returns. -/
theorem bind {P : β → Prop} (a : ExceptT ε (StateM ς) α) {f : α → ExceptT ε (StateM ς) β}
    (hf : ∀ x, Returns P (f x)) : Returns P (a >>= f) := by
  intro s y hy
  rw [bind_apply] at hy
  rcases h : a s with ⟨r, t⟩
  rw [h] at hy
  cases r with
  | ok x => exact hf x t y hy
  | error e => cases hy

end Returns

end ObjectBridge
