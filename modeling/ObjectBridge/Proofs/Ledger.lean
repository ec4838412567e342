import ObjectBridge.Proofs.Action

/-!
# What operations change in a ledger

Finding a class, marshalling, calls and coercion change nothing in the ledger of
a session but the importers kept for its states.  An interface, a dispatch table
or a state is added on the first use of its key and never replaced.

Main results:

- Theorems `Bridge.Carries.newObject`, `Bridge.Carries.callObject`: a property of
  actions that requests, notices and kept importers have is one of the whole way to
  a new object, and of a call.
- Theorem `Bridge.Tolerates.carries`: to stay within a relation between sessions is
  such a property.
- Theorems `interface_apply`, `proxyType_apply`: what is kept under a key.
- Theorems `state_kept`, `state_uncreated`, `state_unextended`, `state_made`: the
  four ways in which it goes with a state.
-/

namespace ObjectBridge

variable {σ α : Type}

/-! ## Properties that the ways to objects have -/

/-- Whether an error is found out before the interpreter is reached: by a check of an interface, of
its dispatch table, or of the declared number of arguments. -/
def BridgeError.isEarly : BridgeError → Bool
  | configuration .. | proxyGeneration .. | instantiation _ (.constructorArity ..) => true
  | _ => false

/-- Whether a notice is left on the way to a new object. -/
def Notice.isOnTheWay : Notice → Bool
  | moduleResolved .. | classResolved .. | objectInstantiated .. => true
  | _ => false

/-- Whether a request is made on the way to an object or in a call: not one about a state. -/
def Request.isOnTheWay : Request → Bool
  | createState | extendSearchPath .. | searchPath .. => false
  | _ => true

/-- A property of actions that sequences have by their parts, and that requests and notices on the
way to an object and kept importers have.  A request may come with a verdict on its answer. -/
structure Bridge.Carries (b : Bridge σ) (J : (α : Type) → Action σ α → Prop) : Prop where
  pure : ∀ {α : Type} (x : α), J α (Pure.pure x)
  bind : ∀ {α β : Type} {a : Action σ α} {f : α → Action σ β},
    J α a → (∀ x, J β (f x)) → J β (a >>= f)
  ask : ∀ (request : Request) {failure : ForeignError → BridgeError}, request.isOnTheWay = true →
    (∀ e, (failure e).isEarly = false) → J request.Answer (b.ask request failure)
  judge : ∀ {α : Type} (request : Request) {failure : ForeignError → BridgeError}
    {verdict : request.Answer → Except BridgeError α}, request.isOnTheWay = true →
    (∀ e, (failure e).isEarly = false) →
    (∀ x e, verdict x = .error e → e.isEarly = false) →
    J α (do verdict (← b.ask request failure))
  note : ∀ notice, notice.isOnTheWay = true → J Unit (ObjectBridge.note notice)
  importer : ∀ (place : Nat) {create : Action σ ForeignObject}, J ForeignObject create →
    J ForeignObject (keep Ledger.importersPlace place create)

/-- The native form of an object is not judged before the interpreter answered. -/
theorem Bridge.isEarly_of_decodeNative {target : Target α} {v : Value} {typeName name : String}
    {e : BridgeError}
    (h : (Bridge.decodeNative target v).mapError (BridgeError.coercion typeName name) = .error e) :
    e.isEarly = false := by
  cases hdecode : Bridge.decodeNative target v with
  | ok x =>
      rw [hdecode] at h
      cases h
  | error cause =>
      rw [hdecode] at h
      cases h
      rfl

namespace Bridge.Carries

variable {β : Type} {b : Bridge σ} {J : (α : Type) → Action σ α → Prop}

/-- A property that is carried by the parts of a call is carried by traversals. -/
theorem mapM (h : b.Carries J) {f : α → Action σ β} (hf : ∀ x, J β (f x)) (xs : List α) :
    J (List β) (xs.mapM f) := by
  induction xs with
  | nil => exact h.pure []
  | cons x xs ih =>
      rw [List.mapM_cons]
      exact h.bind (hf x) fun y => h.bind ih fun ys => h.pure (y :: ys)

/-- It is carried by storing a value. -/
theorem toForeign (h : b.Carries J) (token : StateToken) (v : Value) :
    J ForeignObject (b.toForeign token v) := by
  cases v with
  | object o => exact h.pure o
  | _ => exact h.ask (.toForeign token _) rfl fun _ => rfl

/-- It is carried by storing all arguments. -/
theorem marshal (h : b.Carries J) (token : StateToken) (positional : List Value)
    (keywords : List (String × Value)) : J Arguments (b.marshal token positional keywords) := by
  refine h.bind (h.mapM (h.toForeign token) positional) fun _ => ?_
  refine h.bind (h.mapM (fun entry => ?_) keywords) fun _ => h.pure _
  exact h.bind (h.toForeign token entry.2) fun _ => h.pure _

/-- It is carried by reading a value. -/
theorem toNative (h : b.Carries J) (token : StateToken) (o : ForeignObject) :
    J Value (b.toNative token o) :=
  h.ask (.toNative token o) rfl fun _ => rfl

/-- It is carried by reading all results. -/
theorem unmarshal (h : b.Carries J) (token : StateToken) (results : List ForeignObject) :
    J Value (b.unmarshal token results) :=
  h.bind (h.mapM (h.toNative token) results) fun _ => h.pure _

/-- It is carried by following attributes. -/
theorem walk (h : b.Carries J) (s : ManagedState) (names : List String)
    (module : ForeignObject) (path : String) : J ForeignObject (b.walk s module path names) := by
  induction names generalizing module path with
  | nil => exact h.pure module
  | cons name names ih =>
      refine h.bind (h.ask (.getAttribute s.token module name) rfl fun _ => rfl) fun next => ?_
      exact ih next _

/-- It is carried by importing a module. -/
theorem resolveModule (h : b.Carries J) (s : ManagedState) (importer : ForeignObject)
    (name : String) : J ForeignObject (b.resolveModule s importer name) := by
  refine h.bind (h.ask (.toForeign s.token (.str name)) rfl fun _ => rfl) fun argument => ?_
  refine h.bind (h.ask (.call s.token importer ⟨[argument], []⟩) rfl fun _ => rfl) fun _ => ?_
  exact h.bind (h.walk s _ _ _) fun _ => h.bind (h.note _ rfl) fun _ => h.pure _

/-- It is carried by getting the importer. -/
theorem keptImporter (h : b.Carries J) (s : ManagedState) : J ForeignObject (b.importer s) :=
  h.importer s.number.place (h.ask (.builtin s.token importerName) rfl fun _ => rfl)

/-- It is carried by resolving a binding. -/
theorem resolveBinding (h : b.Carries J) (s : ManagedState) (binding : Binding) :
    J ResolvedClass (b.resolveBinding s binding) := by
  refine h.bind (h.keptImporter s) fun importer => ?_
  refine h.bind (h.resolveModule s importer _) fun module => ?_
  refine h.bind (h.ask (.getAttribute s.token module binding.className) rfl fun _ => rfl)
    fun _ => ?_
  exact h.bind (h.note _ rfl) fun _ => h.pure _

/-- It is carried by making an object. -/
theorem newObject (h : b.Carries J) (s : ManagedState) (binding : Binding)
    (arguments : List Value) (keywords : List (String × Value)) :
    J ForeignObject (b.newObject s binding arguments keywords) := by
  refine h.bind (h.resolveBinding s binding) fun c => ?_
  refine h.bind (h.marshal _ arguments keywords) fun marshalled => ?_
  refine h.bind (h.ask (.call s.token c.callable marshalled) rfl fun _ => rfl) fun _ => ?_
  exact h.bind (h.note _ rfl) fun _ => h.pure _

/-- It is carried by coercing an object. -/
theorem coerceTo (h : b.Carries J) (token : StateToken) (o : ForeignObject)
    (target : Target α) : J α (b.coerceTo token o target) :=
  h.judge (.coerce token o) rfl (fun _ => rfl) fun _ _ => isEarly_of_decodeNative

/-- It is carried by calling an object. -/
theorem callObject (h : b.Carries J) (p : Proxy) (operation foreignName : String)
    (arguments : List Value) : J Value (b.callObject p operation foreignName arguments) := by
  refine h.bind (h.marshal _ arguments []) fun marshalled => ?_
  exact h.bind (h.ask (.callMethod p.state.token p.object foreignName marshalled.positional)
    rfl fun _ => rfl) fun results => h.unmarshal _ results

end Bridge.Carries

/-! ## Relations that the ways to objects respect -/

/-- A relation between sessions that no request and no notice on the way to an object and no kept
importer leaves. -/
structure Bridge.Tolerates (b : Bridge σ) (R : Session σ → Session σ → Prop) : Prop where
  preorder : IsPreorder (Session σ) R
  ask : ∀ (request : Request) (failure : ForeignError → BridgeError), request.isOnTheWay = true →
    Within R (b.ask request failure)
  note : ∀ notice, notice.isOnTheWay = true → Within R (ObjectBridge.note notice)
  importers : ∀ s c, R s (Ledger.importersPlace.write c s)

/-- To stay within a relation is a property of the ways to objects if their parts respect it. -/
theorem Bridge.Tolerates.carries {b : Bridge σ} {R : Session σ → Session σ → Prop}
    (h : b.Tolerates R) : b.Carries fun _ => Within R := by
  have := h.preorder
  exact
    { pure := .pure
      bind := .bind
      ask := fun request _ hway _ => h.ask request _ hway
      judge := fun request _ _ hway _ _ => .bind (h.ask request _ hway) fun _ => .lift _
      note := h.note
      importer := fun _ _ hcreate => .keep hcreate h.importers }

/-- Two sessions whose ledgers agree but for the importers. -/
def SameButImporters (s t : Session σ) : Prop :=
  t.ledger = { s.ledger with importers := t.ledger.importers }

instance : IsPreorder (Session σ) SameButImporters where
  refl _ := rfl
  trans s t u hst htu := by
    rw [SameButImporters] at hst htu ⊢
    rw [htu, hst]

/-- On the way to an object only the importers change in the ledger. -/
theorem tolerates_sameButImporters (b : Bridge σ) : b.Tolerates SameButImporters where
  preorder := inferInstance
  ask _ _ _ _ := rfl
  note _ _ _ := rfl
  importers _ _ := rfl

/-! ## What is kept -/

namespace Bridge

/-- The interface kept under a key is the first valid one. -/
theorem interface_apply (b : Bridge σ) (key : InterfaceKey) (i : Interface) (s : Session σ) :
    b.interface key i s =
      match s.ledger.interfaces.find? key with
      | some kept => (.ok kept, s)
      | none =>
        match i.validate with
        | .ok _ =>
          (.ok i, Ledger.interfacesPlace.write (s.ledger.interfaces.add key i)
            (s.entered (.notice (.bindingResolved i))))
        | .error e => (.error e, s) := by
  have hread : Ledger.interfacesPlace.read s = s.ledger.interfaces := rfl
  rw [interface, keep_apply, hread]
  cases s.ledger.interfaces.find? key with
  | some kept => rfl
  | none =>
      rw [checkInterface, bind_apply, lift_apply]
      cases i.validate <;> rfl

/-- The dispatch table kept under a key is the first that can be drawn up. -/
theorem proxyType_apply (b : Bridge σ) (key : InterfaceKey) (i : Interface) (s : Session σ) :
    b.proxyType key i s =
      match s.ledger.proxyTypes.find? key with
      | some kept => (.ok kept, s)
      | none =>
        match ProxyType.build key i with
        | .ok t =>
          (.ok t, Ledger.proxyTypesPlace.write (s.ledger.proxyTypes.add key t)
            ((s.counted .proxyTypeGenerated).entered
              (.notice (.proxyTypeGenerated i.name t.forwardedOperations))))
        | .error e => (.error e, s.entered (.notice (.proxyGenerationFailed i.name e))) := by
  have hread : Ledger.proxyTypesPlace.read s = s.ledger.proxyTypes := rfl
  rw [proxyType, keep_apply, hread]
  cases s.ledger.proxyTypes.find? key with
  | some kept => rfl
  | none =>
      rw [createProxyType]
      cases ProxyType.build key i <;> rfl

end Bridge

namespace StateNumber

/-- The number of the `n`-th state that is made. -/
def nth (n : Nat) : StateNumber :=
  ⟨n, .ofNat n⟩

/-- The number after `n` more states were made. -/
def after (k : StateNumber) (n : Nat) : StateNumber :=
  ⟨k.place + n, k.word + .ofNat n⟩

/-- The states are numbered without a gap. -/
@[simp]
theorem next_nth (n : Nat) : (nth n).next = nth (n + 1) := by
  rw [next, nth, nth, UInt64.ofNat_add]
  rfl

/-- No states after a number it is still that number. -/
@[simp]
theorem after_zero (k : StateNumber) : k.after 0 = k :=
  congrArg (StateNumber.mk k.place) (UInt64.add_zero k.word)

/-- Numbers go on where they were left. -/
theorem after_after (k : StateNumber) (m n : Nat) : (k.after m).after n = k.after (m + n) := by
  simp only [after, UInt64.ofNat_add, Nat.add_assoc, UInt64.add_assoc]

/-- After `n` states, the next one is the one after the `n`-th. -/
theorem first_after (n : Nat) : first.after n = nth (n + 1) := by
  rw [Nat.add_comm, nth, UInt64.ofNat_add]
  rfl

end StateNumber

/-- The ledger after a new state was kept. -/
def Ledger.keepState (l : Ledger) (key : StateKey) (m : ManagedState) : Ledger :=
  { l with
    states := l.states.add key m
    nextState := l.nextState.next
    counters := l.counters.record .stateCreated }

namespace Bridge

variable {b : Bridge σ} {key : StateKey} {s : Session σ}

/-- The paths on the search path of every state. -/
def statePaths (b : Bridge σ) : List Path :=
  b.configuration.paths.resolve b.environment

/-- A state that is there is got as it is. -/
theorem state_kept {m : ManagedState} (h : s.ledger.states.find? key = some m) :
    b.state key s = (.ok m, s) :=
  keep_found h

/-- A state that is not created changes nothing but the world. -/
theorem state_uncreated {e : ForeignError} {world : σ} (h : s.ledger.states.find? key = none)
    (hcreate : b.interpreter.perform .createState s.world = (.error e, world)) :
    b.state key s = (.error (.state key.text (.raised e)), s.moved world) := by
  have hfailed : b.createState key s = (.error (.state key.text (.raised e)), s.moved world) := by
    rw [createState, bind_apply_error (ask_refused hcreate)]
  exact keep_failed h hfailed

/-- A state that is created, but whose search path cannot be extended, is not kept. -/
theorem state_unextended {token : StateToken} {e : ForeignError} {world world' : σ}
    (h : s.ledger.states.find? key = none)
    (hcreate : b.interpreter.perform .createState s.world = (.ok token, world))
    (hextend : b.interpreter.perform (.extendSearchPath token b.statePaths) world =
      (.error e, world')) :
    b.state key s = (.error (.state key.text (.raised e)), s.moved world') := by
  have hfailed : b.createState key s = (.error (.state key.text (.raised e)), s.moved world') := by
    rw [createState, bind_apply_ok (ask_granted hcreate)]
    exact bind_apply_error (ask_refused hextend)
  exact keep_failed h hfailed

/-- The next state, which is kept once its search path is extended. -/
theorem state_made {token : StateToken} {world world' : σ}
    (h : s.ledger.states.find? key = none)
    (hcreate : b.interpreter.perform .createState s.world = (.ok token, world))
    (hextend : b.interpreter.perform (.extendSearchPath token b.statePaths) world =
      (.ok (), world')) :
    let m : ManagedState := ⟨s.ledger.nextState, key, token, b.statePaths⟩
    b.state key s = (.ok m, ⟨world', s.ledger.keepState key m,
      s.trace ++ [.notice (.stateCreated b.interpreter.name m)]⟩) := by
  intro m
  have hextended : b.interpreter.perform (.extendSearchPath token b.statePaths)
      (s.moved world).world = (.ok (), world') := hextend
  have hmade : b.createState key s = (.ok m, ⟨world',
      { s.ledger with
        nextState := s.ledger.nextState.next
        counters := s.ledger.counters.record .stateCreated },
      s.trace ++ [.notice (.stateCreated b.interpreter.name m)]⟩) := by
    rw [createState, bind_apply_ok (ask_granted hcreate)]
    exact bind_apply_ok (ask_granted hextended)
  exact keep_made h hmade

end Bridge

/-- How a state is got: it is there already, it cannot be made, or it is new. -/
inductive StateOutcome (key : StateKey) (l : Ledger) :
    Except BridgeError ManagedState → Ledger → Prop where
  | kept {m : ManagedState} (found : l.states.find? key = some m) : StateOutcome key l (.ok m) l
  | refused {e : BridgeError} (missing : l.states.find? key = none) :
      StateOutcome key l (.error e) l
  | made {m : ManagedState} (missing : l.states.find? key = none)
      (number : m.number = l.nextState) (own : m.key = key) :
      StateOutcome key l (.ok m) (l.keepState key m)

/-- A state that cannot be made leaves the ledger as it is. -/
theorem state_outcome (b : Bridge σ) (key : StateKey) (s : Session σ) :
    StateOutcome key s.ledger (b.state key s).1 (b.state key s).2.ledger := by
  cases hfound : s.ledger.states.find? key with
  | some m =>
      rw [Bridge.state_kept hfound]
      exact .kept hfound
  | none =>
      rcases hcreate : b.interpreter.perform .createState s.world with ⟨answer, world⟩
      cases answer with
      | error e =>
          rw [Bridge.state_uncreated hfound hcreate]
          exact .refused hfound
      | ok token =>
          rcases hextend : b.interpreter.perform (.extendSearchPath token b.statePaths) world with
            ⟨answer, world'⟩
          cases answer with
          | error e =>
              rw [Bridge.state_unextended hfound hcreate hextend]
              exact .refused hfound
          | ok _ =>
              rw [Bridge.state_made hfound hcreate hextend]
              exact .made hfound rfl rfl

end ObjectBridge
