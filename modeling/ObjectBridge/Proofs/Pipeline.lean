import ObjectBridge.Proofs.Boundary
import ObjectBridge.Proofs.Coupling
import ObjectBridge.Proofs.Outcomes
import ObjectBridge.Proofs.Resubmission

/-!
# Instances and proxies share a pipeline

With one state for all, an instance in native form and a proxy for an interface without operations
come from one and the same object.  Both ways are compared with `Bridge.sharedObject`, which makes
that object and does nothing else; the way of the instance goes on with a request for its native
form.

Main results:

- Definition `Aligned`: two sessions that differ in nothing an object is made from.
- Theorem `Bridge.createDynamicProxy_inStep`: making a proxy keeps in step with making its object.
- Theorems `Bridge.createInstance_uncreated`, `Bridge.createInstance_created`: what becomes of an
  instance whose object cannot be made, or is made.
- Theorem `Bridge.creations_share_pipeline`: the two ways side by side, request by request.
-/

namespace ObjectBridge

variable {σ α β : Type}

/-! ## Sessions that objects are made alike in -/

/-- The second session has the world, the states and the importers of the first. -/
structure Aligned (s t : Session σ) : Prop where
  world : t.world = s.world
  states : SameStates s.ledger t.ledger

namespace Aligned

/-- A session is aligned with itself. -/
theorem refl (s : Session σ) : Aligned s s :=
  ⟨rfl, rfl, rfl, rfl⟩

/-- Being aligned goes both ways. -/
theorem symm {s t : Session σ} (h : Aligned s t) : Aligned t s :=
  ⟨h.world.symm, h.states.states.symm, h.states.importers.symm, h.states.nextState.symm⟩

/-- Being aligned carries over. -/
theorem trans {s t u : Session σ} (h : Aligned s t) (h' : Aligned t u) : Aligned s u :=
  ⟨h'.world.trans h.world, h.states.trans h'.states⟩

end Aligned

/-- Two machines whose sessions stay aligned. -/
def Coupling.aligned : Coupling (Session σ) (Session σ) where
  rel := Aligned
  grows _ _ _ _ := True
  grows_refl _ _ := trivial
  grows_trans _ _ := trivial

namespace Aligned

/-- Two actions end alike from aligned sessions, and leave aligned sessions. -/
abbrev InStep (V : α → β → Prop) (a : Action σ α) (a' : Action σ β) (s t : Session σ) : Prop :=
  Coupling.aligned.InStep (fun _ _ => V) a a' s t

variable {V : α → β → Prop} {s s₁ t : Session σ}

/-- What the first machine does before, without any effect on objects, does not matter. -/
theorem InStep.skip {γ : Type} {a : Action σ γ} {f : γ → Action σ α} {a' : Action σ β} {x : γ}
    (ha : a s = (.ok x, s₁)) (h : InStep V (f x) a' s₁ t) : InStep V (a >>= f) a' s t := by
  constructor <;> rw [bind_apply_ok ha]
  · exact h.rel
  · trivial
  · exact h.agree

/-- A failure that is counted and noticed changes nothing an object is made from. -/
theorem observed_failed {tally : Tally} {entry : TraceEntry} :
    Aligned ((s.counted tally).entered entry) s :=
  ⟨rfl, rfl, rfl, rfl⟩

/-- Being observed does not put an action out of step. -/
theorem InStep.observed {a : Action σ α} {a' : Action σ β} {operation subject : String}
    (h : InStep V a a' s t) : InStep V (Bridge.observed operation subject a) a' s t := by
  obtain ⟨s₁, t₁, hrel, -, ⟨x, y, hs, ht, hxy⟩ | ⟨e, hs, ht⟩⟩ := h.outcome
  · have hobserved := observed_apply operation subject a s
    rw [hs] at hobserved
    exact .of_ok hobserved ht hrel trivial hxy
  · have hobserved := observed_apply operation subject a s
    rw [hs] at hobserved
    exact .of_error hobserved ht (observed_failed.trans hrel) trivial

/-- Changes that keep sessions aligned keep them in step. -/
theorem moves {f g : Session σ → Session σ}
    (h : ∀ {s t}, Aligned s t → Aligned (f s) (g t)) : Coupling.aligned.Moves f g :=
  fun _ _ hst => ⟨h hst, trivial⟩

variable (b : Bridge σ)

/-- A request is made in step. -/
theorem ask (request : Request) (failure : ForeignError → BridgeError) (hst : Aligned s t) :
    InStep Eq (b.ask request failure) (b.ask request failure) s t := by
  constructor
  · rw [ask_apply, ask_apply, hst.world]
    exact ⟨rfl, hst.states⟩
  · trivial
  · rw [ask_apply, ask_apply, hst.world]
    exact .refl (fun _ => rfl) _

/-- A notice is given in step. -/
theorem note (notice : Notice) (hst : Aligned s t) :
    InStep Eq (ObjectBridge.note notice : Action σ Unit) (ObjectBridge.note notice) s t :=
  .of_ok rfl rfl ⟨hst.world, hst.states⟩ trivial rfl

/-- The way to a new object is the same from aligned sessions. -/
theorem carries : b.Carries fun _ a => ∀ s t, Aligned s t → InStep Eq a a s t where
  pure _ _ _ hst := .pure hst rfl
  bind ha hf s t hst := (ha s t hst).bind fun hst₁ _ hxy => hxy ▸ hf _ _ _ hst₁
  ask request _ _ _ _ _ hst := ask b request _ hst
  judge request _ _ _ _ _ _ _ hst :=
    (ask b request _ hst).bind fun hst₁ _ hxy => hxy ▸ .same hst₁ _
  note notice _ _ _ hst := note notice hst
  importer id _ hcreate s t hst := by
    refine .keep (fun h => (Aligned.states h).importers.symm) (fun c => moves fun h => ?_) id hst
      (hcreate s t hst)
    exact ⟨h.world, h.states.states, rfl, h.states.nextState⟩

/-- A state is created in step. -/
theorem createState (key : StateKey) (hst : Aligned s t) :
    InStep Eq (b.createState key) (b.createState key) s t := by
  refine (ask b .createState _ hst).bind fun hst₁ _ htoken => ?_
  cases htoken
  refine (ask b (.extendSearchPath _ _) _ hst₁).bind fun {s₂ t₂ _ _} hst₂ _ _ => ?_
  have hnext : t₂.ledger.nextState = s₂.ledger.nextState := hst₂.states.nextState
  refine Coupling.InStep.bind (V := fun _ _ => Eq) (.of_ok (takeStateId_apply s₂)
    (takeStateId_apply t₂) ?_ trivial hnext.symm) fun hst₃ _ hnumber => ?_
  · exact ⟨hst₂.world, hst₂.states.states, hst₂.states.importers, congrArg StateNumber.next hnext⟩
  · cases hnumber
    refine Coupling.InStep.bind (V := fun _ _ => Eq) (.of_ok (count_apply _ _) (count_apply _ _)
      ⟨hst₃.world, hst₃.states.states, hst₃.states.importers, hst₃.states.nextState⟩ trivial rfl)
      fun hst₄ _ _ => ?_
    exact (note _ hst₄).bind fun hst₅ _ _ => .pure hst₅ rfl

/-- A state is got in step. -/
theorem state (key : StateKey) (hst : Aligned s t) :
    InStep Eq (b.state key) (b.state key) s t := by
  refine .keep (fun h => (Aligned.states h).states.symm) (fun c => moves fun h => ?_) key hst
    (createState b key hst)
  exact ⟨h.world, rfl, h.states.importers, h.states.nextState⟩

end Aligned

/-! ## The object behind both -/

/-- The error on behalf of another subject, if it is one of configuration. -/
def BridgeError.onBehalfOf (subject : String) : BridgeError → BridgeError
  | .configuration _ cause => .configuration subject cause
  | e => e

/-- The binding of a name and a class, without declared kinds of arguments, is judged alike whoever
asks. -/
theorem Binding.validate_onBehalfOf (binding : Binding) (first second : String) :
    binding.validate second = (binding.validate first).mapError (.onBehalfOf second) := by
  unfold validate
  split
  · rfl
  split
  · rfl
  split <;> rfl

namespace Bridge

/-- A new object of the class of a binding in the state that all share, and that state. -/
def sharedObject (b : Bridge σ) (binding : Binding) (arguments : List Value) :
    Action σ (ManagedState × ForeignObject) := do
  let m ← b.state .shared
  let object ← b.newObject m binding arguments []
  return (m, object)

variable (b : Bridge σ) {s t : Session σ} {binding : Binding} {arguments : List Value}

/-- No object fails to be made for a fault of configuration. -/
theorem onBehalfOf_of_sharedObject {e : BridgeError} (subject : String)
    (h : (b.sharedObject binding arguments s).1 = .error e) : e.onBehalfOf subject = e := by
  have hb : b.Advances fun _ _ => True := ⟨fun _ _ => trivial, fun _ _ => trivial⟩
  have hinside : Inside (fun _ _ => True) _ (b.sharedObject binding arguments) :=
    .bind hb (hb.state .shared) fun m => .bind hb (hb.carries.newObject m binding arguments [])
      fun o => .silent fun _ => ⟨rfl, rfl⟩
  have hlate := ((hinside s).2 e h).1
  cases e with
  | configuration subject cause => cases hlate
  | _ => rfl

/-! ## The way of a proxy -/

variable {name : String}

/-- Making a proxy for an interface without operations keeps in step with making its object. -/
theorem createDynamicProxy_inStep (arguments : List Value)
    (hmode : b.configuration.mode = .shared) (hkinds : binding.argumentKinds = [])
    (hvalid : binding.validate name = .ok ())
    (hfresh : s.ledger.interfaces.find? (.named name) = none) :
    Aligned.InStep (fun p made => p.state = made.1 ∧ p.object = made.2)
      (b.createDynamicProxy ⟨name, some binding, []⟩ arguments) (b.sharedObject binding arguments)
      s s := by
  have hkey : b.stateKey (.named name) = .shared := by rw [stateKey, hmode]
  have hdeclared : b.checkDeclared binding (arguments.length + 0) = .ok () := by
    rw [checkDeclared, Binding.checkArity_eq_ok_iff.2 (.inl hkinds), ite_self]
  have hregistered : (b.register ⟨name, some binding, []⟩ s).1 = .ok ⟨name, some binding, []⟩ ∧
      Aligned (b.register ⟨name, some binding, []⟩ s).2 s := by
    rw [register, interface_apply, hfresh]
    simp only [Interface.validate, hvalid]
    exact ⟨trivial, rfl, rfl, rfl, rfl⟩
  generalize hregister : b.register ⟨name, some binding, []⟩ s = registered at hregistered
  obtain ⟨r, s₁⟩ := registered
  obtain ⟨rfl, hs₁⟩ := hregistered
  have htyped : ∃ type, (b.proxyType (.named name) ⟨name, some binding, []⟩ s₁).1 = .ok type ∧
      Aligned (b.proxyType (.named name) ⟨name, some binding, []⟩ s₁).2 s₁ := by
    rw [proxyType_apply]
    cases s₁.ledger.proxyTypes.find? (.named name) with
    | some kept => exact ⟨kept, rfl, .refl s₁⟩
    | none => exact ⟨_, rfl, rfl, rfl, rfl, rfl⟩
  obtain ⟨type, htype, hs₂⟩ := htyped
  generalize hproxyType : b.proxyType (.named name) ⟨name, some binding, []⟩ s₁ = typed at htype hs₂
  obtain ⟨r, s₂⟩ := typed
  subst htype
  refine .observed (.skip hregister ?_)
  rw [instantiateProxy_eq]
  refine .skip (x := binding) rfl (.skip (x := ()) ?_ (.skip hproxyType ?_))
  · rw [List.length_nil, hdeclared]
    rfl
  · rw [hkey]
    refine (Aligned.state b .shared (hs₂.trans hs₁)).bind fun hst _ hm => hm ▸ ?_
    refine ((Aligned.carries b).newObject _ binding arguments [] _ _ hst).bind fun hst _ ho => ?_
    have hstates := hst.states
    exact .of_ok rfl rfl ⟨hst.world, hstates.states, hstates.importers, hstates.nextState⟩ trivial
      ⟨rfl, ho⟩

/-- An interface whose binding is not valid is turned down without any effect on objects. -/
theorem createDynamicProxy_refused (arguments : List Value) {e : BridgeError}
    (hinvalid : binding.validate name = .error e)
    (hfresh : s.ledger.interfaces.find? (.named name) = none) :
    (b.createDynamicProxy ⟨name, some binding, []⟩ arguments s).1 = .error e ∧
      Aligned (b.createDynamicProxy ⟨name, some binding, []⟩ arguments s).2 s := by
  have hrefused : (⟨name, some binding, []⟩ : Interface).validate = .error e := by
    simp only [Interface.validate, hinvalid]
  rw [b.createDynamicProxy_invalid arguments hfresh hrefused]
  exact ⟨rfl, Aligned.observed_failed⟩

/-! ## The way of an instance -/

/-- The native form that an object has by the answer to the request for it. -/
def coerced (target : Target α) (o : ForeignObject) (answer : Except ForeignError Value) :
    Except BridgeError α :=
  ((answer.mapError Cause.raised) >>= decodeNative target).mapError
    (.coercion o.typeName target.type.name)

/-- A coercion fails with an error of coercion. -/
theorem kind_of_coerced {target : Target α} {o : ForeignObject}
    {answer : Except ForeignError Value} {e : BridgeError}
    (h : coerced target o answer = .error e) : e.kind = "coercion" := by
  rw [coerced] at h
  cases hcause : (answer.mapError Cause.raised) >>= decodeNative target with
  | ok x =>
      rw [hcause] at h
      cases h
  | error cause =>
      rw [hcause] at h
      cases h
      rfl

/-- A coercion is one request, the answer of which is judged. -/
theorem coerceTo_apply (token : StateToken) (o : ForeignObject) (target : Target α)
    (s : Session σ) :
    b.coerceTo token o target s =
      (coerced target o (b.interpreter.perform (.coerce token o) s.world).1,
        s.moved (b.interpreter.perform (.coerce token o) s.world).2) := by
  rw [coerceTo, bind_apply, ask_apply, coerced]
  rcases b.interpreter.perform (.coerce token o) s.world with ⟨answer, world⟩
  cases answer with
  | error e => rfl
  | ok v => rfl

variable {target : Target α} {moduleName className : String}

/-- Making an instance is making its object and asking for its native form. -/
theorem createInstance_eq (hmode : b.configuration.mode = .shared)
    (hvalid : (⟨moduleName, className, []⟩ : Binding).validate target.type.name = .ok ()) :
    b.createInstance target moduleName className arguments =
      observed "create_instance" target.type.name (do
        let made ← b.sharedObject ⟨moduleName, className, []⟩ arguments
        let x ← b.coerceTo made.1.token made.2 target
        count .instanceCreated
        note (.nativeInstanceCreated (⟨moduleName, className, []⟩ : Binding).qualifiedName
          target.type.name)
        return x) := by
  have hkey : b.stateKey (.type target.type) = .shared := by rw [stateKey, hmode]
  rw [createInstance, sharedObject, hkey]
  simp only [hvalid, bind_assoc, pure_bind]
  rfl

/-- An instance fails when its object could not be made, and no differently. -/
theorem createInstance_uncreated (target : Target α) {e : BridgeError}
    (hmode : b.configuration.mode = .shared)
    (hvalid : (⟨moduleName, className, []⟩ : Binding).validate target.type.name = .ok ())
    (h : b.sharedObject ⟨moduleName, className, []⟩ arguments s = (.error e, t)) :
    (b.createInstance target moduleName className arguments s).1 = .error e ∧
      Aligned (b.createInstance target moduleName className arguments s).2 t := by
  rw [b.createInstance_eq hmode hvalid, observed_apply, bind_apply_error h]
  exact ⟨rfl, Aligned.observed_failed⟩

/-- Once its object is made, an instance is what comes of the request for its native form. -/
theorem createInstance_created (target : Target α) {m : ManagedState} {o : ForeignObject}
    (hmode : b.configuration.mode = .shared)
    (hvalid : (⟨moduleName, className, []⟩ : Binding).validate target.type.name = .ok ())
    (h : b.sharedObject ⟨moduleName, className, []⟩ arguments s = (.ok (m, o), t)) :
    let coercion := b.interpreter.perform (.coerce m.token o) t.world
    (b.createInstance target moduleName className arguments s).1 = coerced target o coercion.1 ∧
      (b.createInstance target moduleName className arguments s).2.world = coercion.2 ∧
      SameStates t.ledger (b.createInstance target moduleName className arguments s).2.ledger := by
  intro coercion
  rw [b.createInstance_eq hmode hvalid, observed_apply, bind_apply_ok h, bind_apply,
    coerceTo_apply]
  cases coerced target o (b.interpreter.perform (.coerce m.token o) t.world).1 with
  | ok x => exact ⟨rfl, rfl, rfl, rfl, rfl⟩
  | error e => exact ⟨rfl, rfl, rfl, rfl, rfl⟩

/-- A binding that is not valid is turned down without any effect on objects. -/
theorem createInstance_invalid (s : Session σ) (arguments : List Value) {e : BridgeError}
    (hinvalid : (⟨moduleName, className, []⟩ : Binding).validate target.type.name = .error e) :
    (b.createInstance target moduleName className arguments s).1 = .error e ∧
      Aligned (b.createInstance target moduleName className arguments s).2 s := by
  have hlift : (liftM ((⟨moduleName, className, []⟩ : Binding).validate target.type.name) :
      Action σ Unit) s = (.error e, s) := by rw [hinvalid]; rfl
  rw [createInstance, observed_apply, bind_apply_error hlift]
  exact ⟨rfl, Aligned.observed_failed⟩

/-! ## Side by side -/

/-- The two ways from one session: they fail alike, or they have the same object and the way of the
instance goes on with the request for its native form. -/
theorem creations_aligned (s : Session σ) (target : Target α)
    (name moduleName className : String) (arguments : List Value)
    (hmode : b.configuration.mode = .shared)
    (hfresh : s.ledger.interfaces.find? (.named name) = none) :
    let i : Interface := ⟨name, some ⟨moduleName, className, []⟩, []⟩
    let proxied := b.createDynamicProxy i arguments s
    let taken := b.createInstance target moduleName className arguments s
    (∀ e, proxied.1 = .error e →
      taken.1 = .error (e.onBehalfOf target.type.name) ∧ Aligned proxied.2 taken.2) ∧
    ∀ p, proxied.1 = .ok p →
      let coercion := b.interpreter.perform (.coerce p.state.token p.object) proxied.2.world
      taken.1 = coerced target p.object coercion.1 ∧ taken.2.world = coercion.2 ∧
        SameStates proxied.2.ledger taken.2.ledger ∧
        ∃ t, b.sharedObject ⟨moduleName, className, []⟩ arguments s = (.ok (p.state, p.object), t) ∧
          t.world = proxied.2.world := by
  intro i proxied taken
  have hboth := Binding.validate_onBehalfOf ⟨moduleName, className, []⟩ name target.type.name
  cases hvalid : (⟨moduleName, className, []⟩ : Binding).validate name with
  | error e =>
      rw [hvalid] at hboth
      obtain ⟨hproxied, hs⟩ := b.createDynamicProxy_refused arguments hvalid hfresh
      obtain ⟨htaken, hs'⟩ := b.createInstance_invalid s arguments hboth
      constructor
      · intro e' he'
        cases hproxied.symm.trans he'
        exact ⟨htaken, hs.trans hs'.symm⟩
      · intro p hp
        cases hproxied.symm.trans hp
  | ok _ =>
      rw [hvalid] at hboth
      obtain ⟨s₁, t, hst, -, ⟨p, made, hproxied, hmade, hstate, hobject⟩ | ⟨e, hproxied, hfails⟩⟩ :=
        (b.createDynamicProxy_inStep arguments hmode rfl hvalid hfresh).outcome
      · obtain ⟨m, o⟩ := made
        cases hstate
        cases hobject
        have hok : proxied.1 = .ok p := congrArg Prod.fst hproxied
        have hend : proxied.2 = s₁ := congrArg Prod.snd hproxied
        have htaken := b.createInstance_created target hmode hboth hmade
        have hworld : t.world = proxied.2.world := by rw [hst.world, hend]
        constructor
        · intro e he
          cases hok.symm.trans he
        · intro p' hp'
          cases hok.symm.trans hp'
          rw [hworld] at htaken
          obtain ⟨houtcome, hafter, hstates⟩ := htaken
          refine ⟨houtcome, hafter, ?_, t, hmade, hworld⟩
          rw [hend]
          exact hst.states.trans hstates
      · obtain ⟨htaken, ht⟩ := b.createInstance_uncreated target hmode hboth hfails
        have herror : proxied.1 = .error e := congrArg Prod.fst hproxied
        have hend : proxied.2 = s₁ := congrArg Prod.snd hproxied
        constructor
        · intro e' he'
          cases herror.symm.trans he'
          rw [b.onBehalfOf_of_sharedObject target.type.name (congrArg Prod.fst hfails), hend]
          exact ⟨htaken, Aligned.trans hst ht.symm⟩
        · intro p hp
          cases herror.symm.trans hp

/-- The last request on the way to an object is the call of its class. -/
theorem sharedObject_recorded (binding : Binding) (arguments : List Value)
    (s : Session (Recorded σ)) :
    Ends (fun made t => ∃ before callable given,
        t.world.log = before ++ [⟨.call made.1.token callable given, .ok made.2⟩])
      (fun _ _ => True) (b.recorded.sharedObject binding arguments) s := by
  rw [sharedObject]
  refine (Ends.trivial _ s).bind fun m s₁ _ => ?_
  refine Ends.bind (Q := fun o t => ∃ before callable given,
    t.world.log = before ++ [⟨.call m.token callable given, .ok o⟩]) ?_ fun o t h => .pure h
  rw [newObject]
  refine (Ends.trivial _ s₁).bind fun c s₂ _ => ?_
  refine (Ends.trivial _ s₂).bind fun marshalled s₃ _ => ?_
  rw [instantiate]
  refine Ends.bind (Q := fun o t => t.world.log =
    s₃.world.log ++ [⟨.call m.token c.callable marshalled, .ok o⟩]) ?_ fun o t h => ?_
  · refine .ask (fun o w hperform => ?_) fun _ _ _ => trivial
    have hanswer : (b.interpreter.perform (.call m.token c.callable marshalled)
        s₃.world.world).1 = .ok o := congrArg Prod.fst hperform
    have hlog : s₃.world.log ++ [⟨.call m.token c.callable marshalled, _⟩] = w.log :=
      congrArg (fun q => q.2.log) hperform
    rw [Session.moved_world, ← hlog, ← hanswer]
  · exact ⟨_, _, _, h⟩

/-- With one state for all, and for an interface that is new and has no operations, the two ways of
creation fail in the same way after the same requests, or make the same object by the same
requests, after which an instance is only asked for its native form.  Worlds, states and importers
are the same in both cases. -/
theorem creations_share_pipeline (b : Bridge σ) (s : Session σ) (target : Target α)
    (name moduleName className : String) (arguments : List Value)
    (hmode : b.configuration.mode = .shared)
    (hfresh : s.ledger.interfaces.find? (.named name) = none) :
    let i : Interface := ⟨name, some ⟨moduleName, className, []⟩, []⟩
    let proxied := b.createDynamicProxy i arguments s
    let taken := b.createInstance target moduleName className arguments s
    let log := b.exchanges s (.createDynamicProxy i arguments)
    let log' := b.exchanges s (.createInstance target moduleName className arguments)
    SameStates proxied.2.ledger taken.2.ledger ∧
    (∀ e, proxied.1 = .error e →
      taken.1 = .error (e.onBehalfOf target.type.name) ∧
        taken.2.world = proxied.2.world ∧ log' = log) ∧
    ∀ p, proxied.1 = .ok p →
      let coercion := b.interpreter.perform (.coerce p.state.token p.object) proxied.2.world
      taken.1 = coerced target p.object coercion.1 ∧
        (∀ e, taken.1 = .error e → e.kind = "coercion") ∧
        taken.2.world = coercion.2 ∧
        log' = log ++ [⟨.coerce p.state.token p.object, coercion.1⟩] ∧
        ∃ before callable given,
          log = before ++ [⟨.call p.state.token callable given, .ok p.object⟩] := by
  intro i proxied taken log log'
  obtain ⟨hproxied, hproxiedWorld, hproxiedLedger⟩ :=
    b.recorded_perform s (.createDynamicProxy i arguments)
  obtain ⟨htaken, htakenWorld, htakenLedger⟩ :=
    b.recorded_perform s (.createInstance target moduleName className arguments)
  -- Both ways are compared under watch, where the world holds the record of the requests.
  obtain ⟨hfail, hmake⟩ := b.recorded.creations_aligned s.recorded target name moduleName
    className arguments hmode hfresh
  have hsame {l l' : Ledger} (h : SameStates l l')
      (hl : l = proxied.2.ledger) (hl' : l' = taken.2.ledger) :
      SameStates proxied.2.ledger taken.2.ledger := hl ▸ hl' ▸ h
  cases houtcome : proxied.1 with
  | error e =>
      obtain ⟨hfailed, hst⟩ := hfail e (hproxied.trans houtcome)
      refine ⟨hsame hst.states hproxiedLedger htakenLedger, fun e' he' => ?_, nofun⟩
      cases he'
      refine ⟨htaken.symm.trans hfailed, ?_, congrArg Recorded.log hst.world⟩
      exact htakenWorld.symm.trans ((congrArg Recorded.world hst.world).trans hproxiedWorld)
  | ok p =>
      obtain ⟨hmade, hafter, hstates, t, hobject, ht⟩ := hmake p (hproxied.trans houtcome)
      refine ⟨hsame hstates hproxiedLedger htakenLedger, nofun, fun p' hp' => ?_⟩
      cases hp'
      have hanswer : b.interpreter.perform (.coerce p.state.token p.object)
          (b.recorded.createDynamicProxy i arguments s.recorded).2.world.world =
            b.interpreter.perform (.coerce p.state.token p.object) proxied.2.world :=
        congrArg _ hproxiedWorld
      have htakenOutcome : taken.1 = coerced target p.object
          (b.interpreter.perform (.coerce p.state.token p.object) proxied.2.world).1 := by
        rw [← hanswer]
        exact htaken.symm.trans hmade
      refine ⟨htakenOutcome, fun e he => ?_, ?_, ?_, ?_⟩
      · exact kind_of_coerced (htakenOutcome.symm.trans he)
      · rw [← hanswer]
        exact htakenWorld.symm.trans (congrArg Recorded.world hafter)
      · rw [← hanswer]
        exact congrArg Recorded.log hafter
      · obtain ⟨before, callable, given, hlog⟩ := (b.sharedObject_recorded _ arguments _).ok
          (congrArg Prod.fst hobject)
        refine ⟨before, callable, given, ?_⟩
        rw [hobject, ht] at hlog
        exact hlog

end Bridge

/-- A building made after a car, in the state that the car is in already: as native data it takes
one request more than behind a proxy. -/
theorem Building.ways_share_pipeline :
    let b := Bridge.onHost { Configuration.isolated with mode := .shared } ⟨none, fun _ => none⟩
    let s := b.finish (b.start Host.fixtures) [.createProxy Car.interface [] []]
    let i : Interface := ⟨"Home", some ⟨"Building", "Building", []⟩, []⟩
    let arguments : List Value := [.int 7, .str "Town hall", .str "Market 1"]
    b.configuration.mode = .shared ∧ s.ledger.interfaces.find? (.named "Home") = none ∧
      ∃ p, (b.createDynamicProxy i arguments s).1 = .ok p ∧
        ∃ answer, b.exchanges s (.createInstance target "Building" "Building" arguments) =
          b.exchanges s (.createDynamicProxy i arguments) ++
            [⟨.coerce p.state.token p.object, answer⟩] := by
  intro b s i arguments
  have hfresh : s.ledger.interfaces.find? (.named "Home") = none := by decide +kernel
  have hok : (b.createDynamicProxy i arguments s).1.isOk = true := by decide +kernel
  obtain ⟨-, -, hmade⟩ :=
    b.creations_share_pipeline s target "Home" "Building" "Building" arguments rfl hfresh
  refine ⟨rfl, hfresh, ?_⟩
  -- Nothing is to be computed here, so the values are put out of sight.
  clear_value s arguments b
  cases hp : (b.createDynamicProxy i arguments s).1 with
  | error e =>
      rw [hp] at hok
      cases hok
  | ok p => exact ⟨p, rfl, _, (hmade p hp).2.2.2.1⟩

end ObjectBridge
