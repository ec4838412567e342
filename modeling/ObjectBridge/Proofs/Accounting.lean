import Mathlib.Algebra.BigOperators.Group.List.Basic
import Mathlib.Algebra.GroupWithZero.Nat
import ObjectBridge.Proofs.Ledger
import ObjectBridge.Proofs.Projection
import ObjectBridge.Proofs.Run

/-!
# Accounting

The counters of a bridge are bumped in several places: where a state is kept,
where a dispatch table is drawn up, at the end of a creation, around a call that
is passed on, and where an operation fails.  Over any run, each of them is the
number of the events it stands for.

Main results:

- Definition `Ledger.Grows`: what the parts of an operation add to a ledger.
- Theorem `step_posted`: what a single call adds to the counters.
- Theorem `Bridge.counters_of_run`: the counters at the end of a run.
-/

namespace ObjectBridge

variable {σ α β : Type}

/-! ## Growth of a ledger -/

/-- A ledger after `m` dispatch tables and `n` states were added, and nothing else was counted. -/
structure Ledger.Grows (l l' : Ledger) (m n : Nat) : Prop where
  proxyTypes : l'.proxyTypes.size = l.proxyTypes.size + m
  states : l'.states.size = l.states.size + n
  nextState : l'.nextState = l.nextState.after n
  counters : l'.counters =
    { l.counters with
      statesCreated := l.counters.statesCreated + .ofNat n
      proxyTypesGenerated := l.counters.proxyTypesGenerated + .ofNat m }

namespace Ledger.Grows

/-- A ledger in which the same is stored and counted has not grown. -/
theorem of_eq {l l' : Ledger} (hproxyTypes : l'.proxyTypes = l.proxyTypes)
    (hstates : l'.states = l.states) (hnextState : l'.nextState = l.nextState)
    (hcounters : l'.counters = l.counters) : l.Grows l' 0 0 where
  proxyTypes := by rw [hproxyTypes, Nat.add_zero]
  states := by rw [hstates, Nat.add_zero]
  nextState := by rw [hnextState, StateNumber.after_zero]
  counters := by simp [hcounters]

/-- A ledger has not grown from itself. -/
theorem refl (l : Ledger) : l.Grows l 0 0 :=
  of_eq rfl rfl rfl rfl

/-- What a ledger grows by adds up. -/
theorem trans {l₁ l₂ l₃ : Ledger} {m m' n n' : Nat} (h : l₁.Grows l₂ m n)
    (h' : l₂.Grows l₃ m' n') : l₁.Grows l₃ (m + m') (n + n') where
  proxyTypes := by rw [h'.proxyTypes, h.proxyTypes, Nat.add_assoc]
  states := by rw [h'.states, h.states, Nat.add_assoc]
  nextState := by rw [h'.nextState, h.nextState, StateNumber.after_after]
  counters := by
    rw [h'.counters, h.counters]
    simp only [UInt64.ofNat_add, UInt64.add_assoc]

end Ledger.Grows

/-- Two sessions, the second of which has a ledger that grew out of that of the first. -/
def Grown (s t : Session σ) : Prop :=
  ∃ m n, s.ledger.Grows t.ledger m n

instance : IsPreorder (Session σ) Grown where
  refl s := ⟨0, 0, .refl s.ledger⟩
  trans _ _ _ h h' := by
    obtain ⟨m, n, h⟩ := h
    obtain ⟨m', n', h'⟩ := h'
    exact ⟨_, _, h.trans h'⟩

namespace Grown

/-- A session whose ledger changes in its importers only has grown by nothing. -/
theorem of_sameButImporters {s t : Session σ} (h : SameButImporters s t) : Grown s t := by
  refine ⟨0, 0, ?_⟩
  rw [h]
  exact .of_eq rfl rfl rfl rfl

/-- Actions that change no more than the importers add nothing to a ledger. -/
theorem within {a : Action σ α} (h : Within SameButImporters a) : Within Grown a :=
  fun s => of_sameButImporters (h s)

/-- The lookup of an interface makes a ledger grow by nothing. -/
theorem interface (b : Bridge σ) (key : InterfaceKey) (i : Interface) :
    Within Grown (b.interface key i) := by
  intro s
  refine ⟨0, 0, ?_⟩
  rw [Bridge.interface_apply]
  split
  · exact .refl _
  · cases i.validate <;> exact .of_eq rfl rfl rfl rfl

/-- That of a proxy type makes it grow by one type at most. -/
theorem proxyType (b : Bridge σ) (key : InterfaceKey) (i : Interface) :
    Within Grown (b.proxyType key i) := by
  intro s
  rw [Bridge.proxyType_apply]
  split
  · exact refl_of Grown s
  · cases ProxyType.build key i with
    | ok type =>
        refine ⟨1, 0, Cache.size_add .., rfl, (StateNumber.after_zero _).symm, ?_⟩
        simp [Ledger.proxyTypesPlace, Counters.record]
    | error e => exact ⟨0, 0, .refl _⟩

/-- That of a state makes it grow by one state at most. -/
theorem state (b : Bridge σ) (key : StateKey) : Within Grown (b.state key) := by
  intro s
  have h := state_outcome b key s
  generalize (b.state key s).1 = r at h
  unfold Grown
  generalize (b.state key s).2.ledger = l at h ⊢
  cases h with
  | kept | refused => exact ⟨0, 0, .refl _⟩
  | made =>
      refine ⟨0, 1, rfl, Cache.size_add .., rfl, ?_⟩
      simp [Ledger.keepState, Counters.record]

/-- Everything a new proxy takes is made before the instance is counted. -/
theorem newObject (b : Bridge σ) (m : ManagedState) (binding : Binding) (arguments : List Value)
    (keywords : List (String × Value)) : Within Grown (b.newObject m binding arguments keywords) :=
  within ((tolerates_sameButImporters b).carries.newObject m binding arguments keywords)

end Grown

/-! ## What an operation posts -/

/-- The ledger with events added to its counters. -/
def Ledger.post (l : Ledger) (events : List Tally) : Ledger :=
  { l with counters := l.counters.run events }

/-- An action whose parts may make the ledger grow, and that counts some events at its end. -/
def Posts (done failed : List Tally) (a : Action σ α) : Prop :=
  ∀ s, ∃ t, Grown s t ∧
    (a s).2.ledger = t.ledger.post (if (a s).1.isOk then done else failed)

namespace Posts

variable {done failed : List Tally}

/-- What makes a ledger grow posts nothing besides. -/
theorem of_within {a : Action σ α} (h : Within Grown a) : Posts [] [] a := by
  intro s
  refine ⟨(a s).2, h s, ?_⟩
  rw [ite_self]
  rfl

/-- What is posted after something that only grows is what the whole posts. -/
theorem bind {a : Action σ α} {f : α → Action σ β} (ha : Within Grown a)
    (hf : ∀ x, Posts done [] (f x)) : Posts done [] (a >>= f) := by
  intro s
  have hs := ha s
  rcases h : a s with ⟨r, t⟩
  rw [h] at hs
  cases r with
  | ok x =>
      obtain ⟨u, htu, hu⟩ := hf x t
      rw [bind_apply_ok h]
      exact ⟨u, trans_of Grown hs htu, hu⟩
  | error e =>
      rw [bind_apply_error h]
      exact ⟨t, hs, rfl⟩

/-- The end of a creation: the instance is counted. -/
theorem created (notice : Notice) (x : α) :
    Posts [.instanceCreated] []
      (do count .instanceCreated; note notice; return x : Action σ α) :=
  fun s => ⟨s, refl_of Grown s, rfl⟩

/-- A failed operation is counted once. -/
theorem observed {a : Action σ α} (h : Posts done [] a) (operation subject : String) :
    Posts done [.failed] (Bridge.observed operation subject a) := by
  intro s
  obtain ⟨t, hst, ht⟩ := h s
  refine ⟨t, hst, ?_⟩
  rw [observed_apply]
  rcases hr : a s with ⟨r, u⟩
  rw [hr] at ht
  cases r with
  | ok x => exact ht
  | error e =>
      show (u.counted .failed).ledger = _
      rw [Session.counted_ledger, ht]
      rfl

/-- A new instance in native form is posted, or its failure is. -/
theorem createInstance (b : Bridge σ) (target : Target α) (moduleName className : String)
    (arguments : List Value) :
    Posts [.instanceCreated] [.failed]
      (b.createInstance target moduleName className arguments) := by
  refine observed ?_ _ _
  refine bind (.lift _) fun _ => bind (Grown.state b _) fun m => ?_
  refine bind (Grown.newObject b m _ arguments []) fun o => ?_
  exact bind (Grown.within ((tolerates_sameButImporters b).carries.coerceTo _ o target)) fun x =>
    created _ x

/-- A new instance behind a proxy is posted. -/
theorem instantiateProxy (b : Bridge σ) (key : InterfaceKey) (own : StateKey) (i : Interface)
    (arguments : List Value) (keywords : List (String × Value)) :
    Posts [.instanceCreated] [] (b.instantiateProxy key own i arguments keywords) := by
  rw [Bridge.instantiateProxy_eq]
  refine bind (.lift _) fun binding => bind (.lift _) fun _ => ?_
  refine bind (Grown.proxyType b key i) fun type => bind (Grown.state b _) fun m => ?_
  exact bind (Grown.newObject b m binding arguments keywords) fun o => created _ _

/-- A proxy for a native interface is posted, or its failure is. -/
theorem createProxy (b : Bridge σ) (i : NativeInterface) (arguments : List Value)
    (keywords : List (String × Value)) :
    Posts [.instanceCreated] [.failed] (b.createProxy i arguments keywords) :=
  observed (bind (Grown.interface b _ _) fun kept => instantiateProxy b _ _ kept _ _) _ _

/-- So is a proxy for an interface of the run. -/
theorem createDynamicProxy (b : Bridge σ) (i : Interface) (arguments : List Value) :
    Posts [.instanceCreated] [.failed] (b.createDynamicProxy i arguments) :=
  observed (bind (Grown.interface b _ _) fun kept => instantiateProxy b _ _ kept _ _) _ _

/-- An object that is wrapped is not posted, but its failure is. -/
theorem wrap (b : Bridge σ) (i : NativeInterface) (object : ForeignObject) (m : ManagedState) :
    Posts [] [.failed] (b.wrap i object m) := by
  refine observed (bind (Grown.interface b _ _) fun kept => ?_) _ _
  exact bind (Grown.proxyType b _ kept) fun type => of_within (.pure _)

end Posts

/-- A call that is passed on is counted, and once more when the call of the method fails. -/
theorem Bridge.forward_posts (b : Bridge σ) (p : Proxy) (operation foreignName : String)
    (arguments : List Value) (s : Session σ) :
    ∃ t elapsed, Grown s t ∧
      (b.forward p operation foreignName arguments s).2.ledger =
        t.ledger.post (.callDispatched elapsed ::
          if (b.callObject p operation foreignName arguments s).1.isOk then [] else [.failed]) := by
  rw [forward_apply]
  set u := (s.entered _).entered .entered
  have houtcome : (b.callObject p operation foreignName arguments s).1 =
      (b.callObject p operation foreignName arguments u).1 := b.callObject_outcome _ _ _ _ rfl rfl
  have hcarries := (tolerates_sameButImporters b).carries
  have hgrown : Grown s (b.callObject p operation foreignName arguments u).2 :=
    Grown.within (hcarries.callObject p operation foreignName arguments) u
  rw [houtcome]
  rcases h : b.callObject p operation foreignName arguments u with ⟨r, t⟩
  rw [h] at hgrown
  cases r with
  | ok v => exact ⟨t, _, hgrown, rfl⟩
  | error e => exact ⟨t, _, hgrown, rfl⟩

/-! ## Steps -/

namespace Step

/-- Whether a step made a new instance. -/
def made (st : Step σ) : Bool :=
  st.call.creates && st.outcome.isOk

/-- Whether a step was to make an instance or a proxy and failed. -/
def failedToBuild (st : Step σ) : Bool :=
  st.call.builds && !st.outcome.isOk

/-- Whether the call of a step was passed on to an object. -/
def dispatched (st : Step σ) : Bool :=
  st.call.dispatch?.isSome

/-- The number of states that were made in a step. -/
def statesMade (st : Step σ) : Nat :=
  st.after.ledger.states.size - st.before.ledger.states.size

end Step

/-- Whether the call of a step was passed on and marshalling, the method or unmarshalling failed. -/
def Bridge.failedToCall (b : Bridge σ) (st : Step σ) : Bool :=
  st.call.dispatch?.any fun d =>
    !(b.callObject d.proxy d.operation d.foreignName d.arguments st.before).1.isOk

/-- What a step adds to the counters. -/
structure Bridge.Posted (b : Bridge σ) (st : Step σ) : Prop where
  instances : st.after.ledger.counters.instancesCreated =
    st.before.ledger.counters.instancesCreated + .ofNat st.made.toNat
  failures : st.after.ledger.counters.failures =
    st.before.ledger.counters.failures +
      .ofNat (st.failedToBuild.toNat + (b.failedToCall st).toNat)
  calls : st.after.ledger.counters.callsDispatched =
    st.before.ledger.counters.callsDispatched + .ofNat st.dispatched.toNat
  proxyTypes : ∃ m, st.after.ledger.proxyTypes.size = st.before.ledger.proxyTypes.size + m ∧
    st.after.ledger.counters.proxyTypesGenerated =
      st.before.ledger.counters.proxyTypesGenerated + .ofNat m
  nextState : st.after.ledger.nextState = st.before.ledger.nextState.after st.statesMade
  states : st.after.ledger.counters.statesCreated =
    st.before.ledger.counters.statesCreated + .ofNat st.statesMade

/-- The events a step counts beside its new dispatch tables and states. -/
theorem Bridge.Posted.of_events {b : Bridge σ} {st : Step σ} {t : Session σ} {events : List Tally}
    (hgrown : Grown st.before t) (hafter : st.after.ledger = t.ledger.post events)
    (hevents : ∀ c : Counters, c.run events = { c with
      instancesCreated := c.instancesCreated + .ofNat st.made.toNat
      failures := c.failures + .ofNat (st.failedToBuild.toNat + (b.failedToCall st).toNat)
      callsDispatched := c.callsDispatched + .ofNat st.dispatched.toNat
      dispatchNanos := (c.run events).dispatchNanos }) : b.Posted st := by
  obtain ⟨m, n, hgrows⟩ := hgrown
  have hcounters : st.after.ledger.counters = t.ledger.counters.run events :=
    congrArg Ledger.counters hafter
  have hsize : st.after.ledger.states.size = st.before.ledger.states.size + n := by
    rw [hafter]
    exact hgrows.states
  have hmade : st.statesMade = n := by
    rw [Step.statesMade, hsize]
    omega
  rw [hevents, hgrows.counters] at hcounters
  constructor
  · simp only [hcounters]
  · simp only [hcounters]
  · simp only [hcounters]
  · refine ⟨m, ?_, by simp only [hcounters]⟩
    rw [hafter]
    exact hgrows.proxyTypes
  · rw [hmade, hafter]
    exact hgrows.nextState
  · simp only [hcounters, hmade]

namespace Bridge

/-- A route that is found leads to the object. -/
theorem invoke_of_route (b : Bridge σ) {p : Proxy} {operation : String} {arguments : List Value}
    {route : Route} (h : p.route operation arguments.length = .ok route) :
    b.invoke p operation arguments = b.forward p operation route.foreignName arguments := by
  funext s
  rw [invoke, h]
  exact bind_apply_ok (lift_apply _ s)

/-- Without a route nothing happens at all. -/
theorem invoke_of_no_route (b : Bridge σ) {p : Proxy} {operation : String}
    {arguments : List Value} {e : BridgeError}
    (h : p.route operation arguments.length = .error e) (s : Session σ) :
    b.invoke p operation arguments s = (.error e, s) := by
  rw [invoke, h]
  exact bind_apply_error (lift_apply _ s)

/-- An operation that has no route changes nothing. -/
theorem invokeAs_of_no_route (b : Bridge σ) {p : Proxy} {operation : String}
    {arguments : List Value} {e : BridgeError}
    (h : p.route operation arguments.length = .error e) (type : NativeType) (s : Session σ) :
    b.invokeAs p type operation arguments s = (.error e, s) :=
  bind_apply_error (b.invoke_of_no_route h s)

/-- Decoding the result of an operation changes nothing. -/
theorem invokeAs_after (b : Bridge σ) (p : Proxy) (type : NativeType) (operation : String)
    (arguments : List Value) (s : Session σ) :
    (b.invokeAs p type operation arguments s).2 = (b.invoke p operation arguments s).2 := by
  rw [invokeAs, bind_apply]
  rcases b.invoke p operation arguments s with ⟨r, t⟩
  cases r <;> rfl

/-- A call that the dispatch table or the number of arguments rules out leaves everything as it
was. -/
theorem step_of_rejected (b : Bridge σ) (s : Session σ) {c : Call} (h : c.isRejected = true) :
    (b.step s c).after = s ∧ (b.step s c).outcome.isOk = false := by
  cases c with
  | invoke p operation arguments =>
      cases hroute : p.route operation arguments.length with
      | ok route => simp [Command.isRejected, hroute, Except.isOk, Except.toBool] at h
      | error e =>
          have hinvoke := b.invoke_of_no_route hroute s
          exact ⟨congrArg Prod.snd hinvoke, congrArg (fun r => r.1.isOk) hinvoke⟩
  | invokeAs p type operation arguments =>
      cases hroute : p.route operation arguments.length with
      | ok route => simp [Command.isRejected, hroute, Except.isOk, Except.toBool] at h
      | error e =>
          have hinvoke := b.invokeAs_of_no_route hroute type s
          exact ⟨congrArg Prod.snd hinvoke, congrArg (fun r => r.1.isOk) hinvoke⟩
  | _ => cases h

/-- A call that builds something counts the new instance or the failure at its end. -/
theorem posted_of_built (b : Bridge σ) (s : Session σ) {c : Call} (hbuilds : c.builds = true)
    (hdispatch : c.dispatch? = none)
    (h : Posts (if c.creates then [.instanceCreated] else []) [.failed] (c.perform b)) :
    b.Posted (b.step s c) := by
  obtain ⟨t, hst, ht⟩ := h s
  refine .of_events hst ht fun counters => ?_
  simp only [Step.made, Step.failedToBuild, failedToCall, Step.dispatched, step, hbuilds, hdispatch]
  cases (c.perform b s).1.isOk <;> cases c.creates <;> simp [Counters.run, Counters.record]

/-- A call that is forwarded counts its time at its end, and its failure. -/
theorem posted_of_dispatched (b : Bridge σ) (s : Session σ) {c : Call} {d : Dispatch}
    (hbuilds : c.builds = false) (hcreates : c.creates = false) (hdispatch : c.dispatch? = some d)
    (h : (c.perform b s).2 = (b.forward d.proxy d.operation d.foreignName d.arguments s).2) :
    b.Posted (b.step s c) := by
  obtain ⟨t, elapsed, hst, ht⟩ := b.forward_posts d.proxy d.operation d.foreignName d.arguments s
  rw [← h] at ht
  refine .of_events hst ht fun counters => ?_
  simp only [Step.made, Step.failedToBuild, failedToCall, Step.dispatched, step, hbuilds, hcreates,
    hdispatch]
  cases h : (b.callObject d.proxy d.operation d.foreignName d.arguments s).1.isOk <;>
    simp [Counters.run, Counters.record, h]

/-- A call that is rejected counts nothing. -/
theorem posted_of_rejected (b : Bridge σ) (s : Session σ) {c : Call} (hbuilds : c.builds = false)
    (hcreates : c.creates = false) (hdispatch : c.dispatch? = none) (h : c.isRejected = true) :
    b.Posted (b.step s c) := by
  have hafter : (b.step s c).after.ledger = s.ledger.post [] :=
    congrArg Session.ledger (b.step_of_rejected s h).1
  refine .of_events (refl_of Grown s) hafter fun counters => ?_
  simp [Step.made, Step.failedToBuild, failedToCall, Step.dispatched, step, hbuilds, hcreates,
    hdispatch, Counters.run]

/-- The call of an operation is passed on or rejected, whatever is then done with its result. -/
theorem posted_of_invoked (b : Bridge σ) (s : Session σ) {c : Call} {p : Proxy}
    {operation : String} {arguments : List Value} (hbuilds : c.builds = false)
    (hcreates : c.creates = false)
    (hdispatch : c.dispatch? = (Command.invoke p operation arguments : Call).dispatch?)
    (hrejected : c.isRejected = (Command.invoke p operation arguments : Call).isRejected)
    (h : (c.perform b s).2 = (b.invoke p operation arguments s).2) :
    b.Posted (b.step s c) := by
  simp only [Command.dispatch?] at hdispatch
  simp only [Command.isRejected] at hrejected
  cases hroute : p.route operation arguments.length with
  | ok route =>
      rw [hroute] at hdispatch
      rw [b.invoke_of_route hroute] at h
      exact b.posted_of_dispatched s hbuilds hcreates hdispatch h
  | error e =>
      rw [hroute] at hdispatch hrejected
      exact b.posted_of_rejected s hbuilds hcreates hdispatch hrejected

/-- Every call adds exactly its events to the counters. -/
theorem step_posted (b : Bridge σ) (s : Session σ) (c : Call) : b.Posted (b.step s c) := by
  cases c with
  | createInstance target moduleName className arguments =>
      exact b.posted_of_built s rfl rfl (.createInstance b target moduleName className arguments)
  | createProxy i arguments keywords =>
      exact b.posted_of_built s rfl rfl (.createProxy b i arguments keywords)
  | createDynamicProxy i arguments =>
      exact b.posted_of_built s rfl rfl (.createDynamicProxy b i arguments)
  | wrap i object m => exact b.posted_of_built s rfl rfl (.wrap b i object m)
  | invoke p operation arguments => exact b.posted_of_invoked s rfl rfl rfl rfl rfl
  | invokeAs p type operation arguments =>
      exact b.posted_of_invoked s rfl rfl rfl rfl (b.invokeAs_after p type operation arguments s)
  | invokeMethod p name arguments => exact b.posted_of_dispatched s rfl rfl rfl rfl
  | shutdown =>
      -- States are let go of here, so the ledger does not grow out of the one before.
      have hcounters : (b.step s .shutdown).after.ledger.counters = s.ledger.counters := rfl
      have hbefore : (b.step s .shutdown).before = s := rfl
      have hstates : (b.step s .shutdown).statesMade = 0 := Nat.zero_sub _
      have hmade : (b.step s .shutdown).made = false := rfl
      have hbuild : (b.step s .shutdown).failedToBuild = false := rfl
      have hcall : b.failedToCall (b.step s .shutdown) = false := rfl
      have hdispatched : (b.step s .shutdown).dispatched = false := rfl
      constructor
      · simp [hcounters, hbefore, hmade]
      · simp [hcounters, hbefore, hbuild, hcall]
      · simp [hcounters, hbefore, hdispatched]
      · exact ⟨0, rfl, by simp [hcounters, hbefore]⟩
      · rw [hstates, StateNumber.after_zero]
        rfl
      · simp [hcounters, hbefore, hstates]

/-! ## Runs -/

/-- A counter at the end of a run is what it was before and the sum of what the steps add. -/
theorem counter_finish {b : Bridge σ} {f : Ledger → UInt64} {g : Step σ → Nat}
    (hstep : ∀ st, b.Posted st → f st.after.ledger = f st.before.ledger + .ofNat (g st))
    (s : Session σ) (calls : List Call) :
    f (b.finish s calls).ledger = f s.ledger + .ofNat ((b.run s calls).map g).sum := by
  induction calls generalizing s with
  | nil => simp [finish, run]
  | cons c calls ih =>
      rw [finish, ih, hstep _ (b.step_posted s c), run, List.map_cons, List.sum_cons,
        UInt64.ofNat_add, UInt64.add_assoc]
      rfl

/-- After a run the number of the next state is as far on as states were made. -/
theorem nextState_finish (b : Bridge σ) (s : Session σ) (calls : List Call) :
    (b.finish s calls).ledger.nextState =
      s.ledger.nextState.after ((b.run s calls).map Step.statesMade).sum := by
  induction calls generalizing s with
  | nil => exact (StateNumber.after_zero _).symm
  | cons c calls ih =>
      rw [finish, ih, (b.step_posted s c).nextState, run, List.map_cons, List.sum_cons,
        StateNumber.after_after]
      rfl

/-- Every dispatch table that is kept was counted when it was drawn up. -/
theorem proxyTypes_finish (b : Bridge σ) (world : σ) (calls : List Call) :
    (b.finish (b.start world) calls).ledger.counters.proxyTypesGenerated =
      .ofNat (b.finish (b.start world) calls).ledger.proxyTypes.size := by
  refine finish_induction (I := fun s => s.ledger.counters.proxyTypesGenerated =
    .ofNat s.ledger.proxyTypes.size) (fun s c hs => ?_) _ calls rfl
  obtain ⟨m, hsize, hcounter⟩ := (b.step_posted s c).proxyTypes
  rw [hcounter, hsize, UInt64.ofNat_add]
  exact congrArg (· + UInt64.ofNat m) hs

/-- As many items are counted as have the property. -/
theorem sum_toNat_eq_countP {xs : List (Step σ)} (p : Step σ → Bool) :
    (xs.map fun x => (p x).toNat).sum = xs.countP p := by
  induction xs with
  | nil => rfl
  | cons x xs ih =>
      rw [List.map_cons, List.sum_cons, ih, List.countP_cons, Nat.add_comm]
      cases p x <;> rfl

/-- The counters at the end of a run are the numbers of the events of its steps: instances that
were made, operations that failed, calls that were passed on, and the tables and states that were
ever made.  A call that the dispatch table rejects changes nothing at all, and a result that
cannot be decoded is no failure. -/
theorem counters_of_run (b : Bridge σ) (world : σ) (calls : List Call) :
    let steps := b.run (b.start world) calls
    let l := (b.finish (b.start world) calls).ledger
    l.counters.instancesCreated = .ofNat (steps.countP Step.made) ∧
      l.counters.failures =
        .ofNat (steps.countP Step.failedToBuild + steps.countP b.failedToCall) ∧
      l.counters.callsDispatched = .ofNat (steps.countP Step.dispatched) ∧
      l.counters.proxyTypesGenerated = .ofNat l.proxyTypes.size ∧
      l.counters.statesCreated = .ofNat (steps.map Step.statesMade).sum ∧
      l.nextState = .nth ((steps.map Step.statesMade).sum + 1) ∧
      (∀ st ∈ steps, st.call.isRejected = true → st.after = st.before) ∧
      ∀ st ∈ steps, st.failedToBuild = false → b.failedToCall st = false →
        st.after.ledger.counters.failures = st.before.ledger.counters.failures := by
  intro steps l
  have hstart : (b.start world).ledger.counters = .zero := rfl
  refine ⟨?_, ?_, ?_, b.proxyTypes_finish world calls, ?_, ?_, ?_, ?_⟩
  · have h := counter_finish (f := fun l => l.counters.instancesCreated)
      (fun st (h : b.Posted st) => h.instances) (b.start world) calls
    rwa [sum_toNat_eq_countP, hstart, Counters.zero, UInt64.zero_add] at h
  · have h := counter_finish (f := fun l => l.counters.failures)
      (fun st (h : b.Posted st) => h.failures) (b.start world) calls
    rwa [List.sum_map_add, sum_toNat_eq_countP, sum_toNat_eq_countP, hstart, Counters.zero,
      UInt64.zero_add] at h
  · have h := counter_finish (f := fun l => l.counters.callsDispatched)
      (fun st (h : b.Posted st) => h.calls) (b.start world) calls
    rwa [sum_toNat_eq_countP, hstart, Counters.zero, UInt64.zero_add] at h
  · have h := counter_finish (f := fun l => l.counters.statesCreated)
      (fun st (h : b.Posted st) => h.states) (b.start world) calls
    rwa [hstart, Counters.zero, UInt64.zero_add] at h
  · rw [← StateNumber.first_after]
    exact b.nextState_finish (b.start world) calls
  · intro st hst hrejected
    obtain ⟨first, c, rest, -, rfl⟩ := mem_run_iff.mp hst
    exact (b.step_of_rejected _ hrejected).1
  · intro st hst hbuild hcall
    obtain ⟨first, c, rest, -, rfl⟩ := mem_run_iff.mp hst
    rw [(b.step_posted _ c).failures, hbuild, hcall]
    exact UInt64.add_zero _

end Bridge

end ObjectBridge
