import ObjectBridge.Proofs.Decoding
import ObjectBridge.Proofs.Ledger
import ObjectBridge.Proofs.Stages

/-!
# Failures by stages

Each call goes through stages in a fixed order.  All that can fail without the
interpreter is checked first, then the state, the class, the arguments and the
object are asked for one after another.  What is kept in the ledger is neither
checked nor asked for again.

Main results:

- Definition `Command.stages`: the stages of a call, with the requests of each.
- Theorem `Bridge.perform_passage`: every call goes through its stages and fails
  in the first of them that fails.
-/

namespace ObjectBridge

variable {σ α β : Type}

/-! ## Plans -/

/-- The requests that give a value to the interpreter; an object is there already. -/
def Value.plan : Value → List Primitive
  | .object _ => []
  | _ => [.toForeign]

namespace Ledger

/-- The requests for the state of a key. -/
def statePlan (l : Ledger) (key : StateKey) : List Primitive :=
  if (l.states.find? key).isSome then [] else [.createState, .extendSearchPath]

/-- The number of the state that is used for a key. -/
def stateNumber (l : Ledger) (key : StateKey) : StateNumber :=
  ((l.states.find? key).map ManagedState.number).getD l.nextState

/-- The requests for the class of a binding: the importer, unless it is kept for the state, the
name of the module and its first package, the other segments, and the class. -/
def classPlan (l : Ledger) (key : StateKey) (binding : Binding) : List Primitive :=
  (if (l.importers.find? (l.stateNumber key).place).isSome then [] else [.builtin]) ++
    (.toForeign :: .call :: binding.moduleSegments.tail.map fun _ => .getAttribute) ++
    [.getAttribute]

end Ledger

/-- The requests that give all arguments to the interpreter. -/
def argumentPlan (arguments : List Value) (keywords : List (String × Value)) : List Primitive :=
  arguments.flatMap Value.plan ++ keywords.flatMap fun entry => entry.2.plan

/-! ## Stages of calls -/

/-- The stages on the way to a new object: lookup, marshalling and the call of the class. -/
def Ledger.objectStages (l : Ledger) (key : StateKey) (binding : Binding)
    (arguments : List Value) (keywords : List (String × Value)) : List Stage :=
  [.requests "lookup" (l.classPlan key binding) ForeignError.message,
    .requests "conversion" (argumentPlan arguments keywords) ForeignError.message,
    .requests "instantiation" [.call] ForeignError.message]

/-- The interface that is used for a key: the one kept, or else the one submitted. -/
def Ledger.interfaceFor (l : Ledger) (key : InterfaceKey) (i : Interface) : Interface :=
  (l.interfaces.find? key).getD i

/-- The check of an interface, which is left out when one is kept for the key. -/
def Ledger.validation (l : Ledger) (key : InterfaceKey) (i : Interface) :
    Except BridgeError Interface :=
  match l.interfaces.find? key with
  | some kept => .ok kept
  | none => i.validate.map fun _ => i

/-- The dispatch table for a key: the one kept, or else a new one. -/
def Ledger.tableFor (l : Ledger) (key : InterfaceKey) (i : Interface) :
    Except BridgeError ProxyType :=
  match l.proxyTypes.find? key with
  | some kept => .ok kept
  | none => ProxyType.build key i

namespace Bridge

/-- The stages of a new instance in native form. -/
def instanceStages (b : Bridge σ) (l : Ledger) (target : TypeId) (binding : Binding)
    (arguments : List Value) : List Stage :=
  let key := b.stateKey (.type target)
  [.check "configuration" (binding.validate target.name),
    .requests "state" (l.statePlan key) ForeignError.message] ++
    l.objectStages key binding arguments [] ++
    [.requests "coercion" [.coerce] ForeignError.message, .judged "coercion"]

/-- The stages of a new instance behind a proxy. -/
def proxyStages (b : Bridge σ) (l : Ledger) (key : InterfaceKey) (own : StateKey) (i : Interface)
    (arguments : List Value) (keywords : List (String × Value)) : List Stage :=
  let i' := l.interfaceFor key i
  let state := b.stateKey own
  [.check "configuration" (l.validation key i), .check "configuration" i'.requireBinding] ++
    match i'.binding with
    | none => []
    | some binding =>
      [.check "instantiation" (b.checkDeclared binding (arguments.length + keywords.length)),
        .check "proxy_generation" (l.tableFor key i'),
        .requests "state" (l.statePlan state) ForeignError.message] ++
        l.objectStages state binding arguments keywords

/-- The stages of a call that is passed on to an object. -/
def forwardStages (foreignName : String) (arguments : List Value) : List Stage :=
  [.requests "conversion" (argumentPlan arguments []) ForeignError.message,
    .requests "invocation" [.callMethod] fun e =>
      s!"{e.message} (foreign method '{foreignName}')",
    .each "conversion" .toNative ForeignError.message]

/-- The stages of an operation of an interface. -/
def invokeStages (p : Proxy) (operation : String) (arguments : List Value) : List Stage :=
  .check "invocation" (p.route operation arguments.length) ::
    match p.route operation arguments.length with
    | .ok route => forwardStages route.foreignName arguments
    | .error _ => []

end Bridge

/-- The stages of a call. -/
def Command.stages (b : Bridge σ) (l : Ledger) : Call → List Stage
  | createInstance target moduleName className arguments =>
    b.instanceStages l target.type ⟨moduleName, className, []⟩ arguments
  | createProxy i arguments keywords =>
    b.proxyStages l (.type i.type) (.type i.type) i.interface arguments keywords
  | createDynamicProxy i arguments =>
    b.proxyStages l (.named i.name) (.named i.name) i arguments []
  | wrap i _ _ =>
    [.check "configuration" (l.validation (.type i.type) i.interface),
      .check "proxy_generation"
        (l.tableFor (.type i.type) (l.interfaceFor (.type i.type) i.interface))]
  | invoke p operation arguments => Bridge.invokeStages p operation arguments
  | invokeAs p _ operation arguments =>
    Bridge.invokeStages p operation arguments ++ [.judged "conversion"]
  | invokeMethod _ name arguments => Bridge.forwardStages name arguments
  | shutdown => []

/-! ## Kinds of native failures -/

/-- An invalid binding is an error of configuration. -/
theorem Binding.kind_of_validate {binding : Binding} {interface : String} {e : BridgeError}
    (h : binding.validate interface = .error e) : e.kind = "configuration" := by
  unfold Binding.validate at h
  split at h
  · cases h
    rfl
  · split at h
    · cases h
      rfl
    · split at h
      · cases h
        rfl
      · cases h

/-- An invalid interface is an error of configuration. -/
theorem Interface.kind_of_validate {i : Interface} {e : BridgeError}
    (h : i.validate = .error e) : e.kind = "configuration" := by
  unfold Interface.validate at h
  split at h
  · exact Binding.kind_of_validate h
  · cases h

/-- A missing binding is an error of configuration. -/
theorem Interface.kind_of_requireBinding {i : Interface} {e : BridgeError}
    (h : i.requireBinding = .error e) : e.kind = "configuration" := by
  unfold Interface.requireBinding at h
  split at h
  · cases h
  · cases h
    rfl

/-- The only way in which the check of the declared number of arguments fails. -/
theorem Bridge.error_of_checkDeclared {b : Bridge σ} {binding : Binding} {supplied : Nat}
    {e : BridgeError} (h : b.checkDeclared binding supplied = .error e) :
    e = .instantiation binding.qualifiedName
      (.constructorArity binding.argumentKinds.length supplied) := by
  unfold Bridge.checkDeclared Binding.checkArity at h
  split at h
  · dsimp only at h
    split at h
    · cases h
    · cases h
      rfl
  · cases h

/-- A wrong number of declared arguments is an error of instantiation. -/
theorem Bridge.kind_of_checkDeclared {b : Bridge σ} {binding : Binding} {supplied : Nat}
    {e : BridgeError} (h : b.checkDeclared binding supplied = .error e) :
    e.kind = "instantiation" := by
  rw [Bridge.error_of_checkDeclared h]
  rfl

/-- A table that cannot be built is an error of the generation of proxies. -/
theorem ProxyType.kind_of_build {key : InterfaceKey} {i : Interface} {e : BridgeError}
    (h : ProxyType.build key i = .error e) : e.kind = "proxy_generation" := by
  unfold ProxyType.build at h
  split at h
  · cases h
  · cases h
    rfl

/-- An operation that is refused before it is forwarded is an error of invocation. -/
theorem Proxy.kind_of_route {p : Proxy} {operation : String} {supplied : Nat} {e : BridgeError}
    (h : p.route operation supplied = .error e) : e.kind = "invocation" := by
  unfold Proxy.route at h
  split at h
  · cases h
    rfl
  · split at h
    · cases h
    · cases h
      rfl

/-- The check of an interface fails with an error of configuration only. -/
theorem Ledger.kind_of_validation {l : Ledger} {key : InterfaceKey} {i : Interface}
    {e : BridgeError} (h : l.validation key i = .error e) : e.kind = "configuration" := by
  unfold Ledger.validation at h
  split at h
  · cases h
  · cases hvalid : i.validate with
    | ok u =>
        rw [hvalid] at h
        cases h
    | error e' =>
        rw [hvalid] at h
        cases h
        exact Interface.kind_of_validate hvalid

/-- The lookup of a table fails with an error of the generation of proxies only. -/
theorem Ledger.kind_of_tableFor {l : Ledger} {key : InterfaceKey} {i : Interface}
    {e : BridgeError} (h : l.tableFor key i = .error e) : e.kind = "proxy_generation" := by
  unfold Ledger.tableFor at h
  split at h
  · cases h
  · exact ProxyType.kind_of_build h

/-! ## What is kept -/

/-- An interface that passes its check is the one that is used. -/
theorem Ledger.interfaceFor_of_validation {l : Ledger} {key : InterfaceKey} {i kept : Interface}
    (h : l.validation key i = .ok kept) : kept = l.interfaceFor key i := by
  unfold Ledger.validation at h
  unfold Ledger.interfaceFor
  cases hfound : l.interfaces.find? key with
  | some i' =>
      rw [hfound] at h
      cases h
      rfl
  | none =>
      rw [hfound] at h
      cases hvalid : i.validate with
      | ok u =>
          rw [hvalid] at h
          cases h
          rfl
      | error e =>
          rw [hvalid] at h
          cases h

/-- The number of the next state, the states and the importers are as they were. -/
structure SameStates (l l' : Ledger) : Prop where
  states : l'.states = l.states
  importers : l'.importers = l.importers
  nextState : l'.nextState = l.nextState

namespace SameStates

variable {l l' l'' : Ledger}

/-- States that are kept twice are kept. -/
theorem trans (h : SameStates l l') (h' : SameStates l' l'') : SameStates l l'' :=
  ⟨h'.states.trans h.states, h'.importers.trans h.importers, h'.nextState.trans h.nextState⟩

/-- Kept states mean the same requests for a state. -/
theorem statePlan (h : SameStates l l') (key : StateKey) : l'.statePlan key = l.statePlan key := by
  rw [Ledger.statePlan, Ledger.statePlan, h.states]

/-- Kept states mean the same number for a state. -/
theorem stateNumber (h : SameStates l l') (key : StateKey) :
    l'.stateNumber key = l.stateNumber key := by
  rw [Ledger.stateNumber, Ledger.stateNumber, h.states, h.nextState]

end SameStates

namespace Bridge

/-- Getting the interface of a key is the check of it; neither the world nor states change. -/
theorem interface_outcome (b : Bridge σ) (key : InterfaceKey) (i : Interface) (s : Session σ) :
    (b.interface key i s).1 = s.ledger.validation key i ∧
      (b.interface key i s).2.world = s.world ∧
      (b.interface key i s).2.ledger.proxyTypes = s.ledger.proxyTypes ∧
      SameStates s.ledger (b.interface key i s).2.ledger := by
  rw [interface_apply, Ledger.validation]
  cases s.ledger.interfaces.find? key with
  | some kept => exact ⟨rfl, rfl, rfl, rfl, rfl, rfl⟩
  | none => cases i.validate <;> exact ⟨rfl, rfl, rfl, rfl, rfl, rfl⟩

/-- So is getting the dispatch table of a key. -/
theorem proxyType_outcome (b : Bridge σ) (key : InterfaceKey) (i : Interface) (s : Session σ) :
    (b.proxyType key i s).1 = s.ledger.tableFor key i ∧
      (b.proxyType key i s).2.world = s.world ∧
      SameStates s.ledger (b.proxyType key i s).2.ledger := by
  rw [proxyType_apply, Ledger.tableFor]
  cases s.ledger.proxyTypes.find? key with
  | some kept => exact ⟨rfl, rfl, rfl, rfl, rfl⟩
  | none => cases ProxyType.build key i <;> exact ⟨rfl, rfl, rfl, rfl, rfl⟩

end Bridge

/-! ## Parts of operations -/

namespace Runs

variable (b : Bridge σ) {s : Session (Recorded σ)} {m : ManagedState}

/-- The interface is checked, and then it is the one for its key. -/
theorem interface (key : InterfaceKey) (i : Interface) :
    Runs (.check "configuration" (s.ledger.validation key i)) (b.recorded.interface key i) s
      fun kept t => kept = s.ledger.interfaceFor key i ∧
        t.ledger.proxyTypes = s.ledger.proxyTypes ∧ SameStates s.ledger t.ledger := by
  obtain ⟨houtcome, hworld, hproxyTypes, hstates⟩ := b.recorded.interface_outcome key i s
  refine checked (congrArg Recorded.log hworld) (by rw [houtcome])
    (fun _ => Ledger.kind_of_validation) fun kept hkept => ?_
  rw [houtcome] at hkept
  exact ⟨Ledger.interfaceFor_of_validation hkept, hproxyTypes, hstates⟩

/-- The table is looked up or built, and the states are kept. -/
theorem proxyType (key : InterfaceKey) (i : Interface) :
    Runs (.check "proxy_generation" (s.ledger.tableFor key i)) (b.recorded.proxyType key i) s
      fun _ t => SameStates s.ledger t.ledger := by
  obtain ⟨houtcome, hworld, hstates⟩ := b.recorded.proxyType_outcome key i s
  exact checked (congrArg Recorded.log hworld) (by rw [houtcome])
    (fun _ => Ledger.kind_of_tableFor) fun _ _ => hstates

/-- A state is asked for with the requests of its plan, and has the number that was foreseen. -/
theorem state (key : StateKey) :
    Runs (.requests "state" (s.ledger.statePlan key) ForeignError.message) (b.recorded.state key) s
      fun m t => m.number = s.ledger.stateNumber key ∧ t.ledger.importers = s.ledger.importers := by
  unfold Ledger.statePlan Ledger.stateNumber
  cases hfound : s.ledger.states.find? key with
  | some m => exact no_requests (keep_found hfound) rfl ⟨rfl, rfl⟩
  | none =>
      refine keep hfound (Q := fun m t => m.number = s.ledger.nextState ∧
        t.ledger.importers = s.ledger.importers) ?_ fun _ _ h => ⟨rfl, h⟩
      refine requests_bind (p := [.createState]) (q := [.extendSearchPath])
        (ask b .createState fun _ => ⟨rfl, rfl⟩) fun token t ht => ?_
      refine requests_bind (p := [.extendSearchPath]) (q := [])
        (ask b (.extendSearchPath token _) fun _ => ⟨rfl, rfl⟩) fun _ u hu => ?_
      have hnumber : u.ledger.nextState = s.ledger.nextState := congrArg _ (hu.trans ht)
      have himporters : u.ledger.importers = s.ledger.importers := congrArg _ (hu.trans ht)
      exact no_requests rfl rfl ⟨hnumber, himporters⟩

/-- A value is given to the interpreter by the requests of its plan. -/
theorem toForeign (token : StateToken) (v : Value) :
    Runs (.requests "conversion" v.plan ForeignError.message) (b.recorded.toForeign token v) s
      (SameLedger s) := by
  cases v with
  | object o => exact no_requests (pure_apply o s) rfl rfl
  | _ => exact ask b (.toForeign token _) fun _ => ⟨rfl, rfl⟩

/-- All arguments are given to it by theirs. -/
theorem marshal (token : StateToken) (arguments : List Value) (keywords : List (String × Value)) :
    Runs (.requests "conversion" (argumentPlan arguments keywords) ForeignError.message)
      (b.recorded.marshal token arguments keywords) s (SameLedger s) := by
  refine requests_bind (mapM (fun v s => toForeign b token v) arguments s) fun xs t ht => ?_
  rw [← List.append_nil (keywords.flatMap _)]
  refine requests_bind (mapM (fun entry s => ?_) keywords t) fun ys u hu => ?_
  · rw [← List.append_nil entry.2.plan]
    exact requests_bind (toForeign b token entry.2) fun o t ht =>
      no_requests (pure_apply _ t) rfl ht
  · exact no_requests (pure_apply _ u) rfl (hu.trans ht)

/-- The importer is asked for unless it is kept for the state. -/
theorem importer :
    Runs (.requests "lookup"
      (if (s.ledger.importers.find? m.number.place).isSome then [] else [.builtin])
      ForeignError.message) (b.recorded.importer m) s fun _ _ => True := by
  cases hfound : s.ledger.importers.find? m.number.place with
  | some o => exact no_requests (keep_found hfound) rfl trivial
  | none =>
      refine keep hfound (Q := fun _ _ => True) ?_ fun _ _ _ => ⟨rfl, trivial⟩
      have hask : Runs (.requests "lookup" [.builtin] ForeignError.message)
          (b.recorded.resolveImporter m) s (SameLedger s) :=
        ask b (.builtin m.token Bridge.importerName) fun _ => ⟨rfl, rfl⟩
      exact hask.mono (fun _ _ => id) fun _ _ _ => trivial

/-- Each name is one request for an attribute. -/
theorem walk (names : List String) (o : ForeignObject) (path : String) :
    Runs (.requests "lookup" (names.map fun _ => .getAttribute) ForeignError.message)
      (b.recorded.walk m o path names) s fun _ _ => True := by
  induction names generalizing s o path with
  | nil => exact no_requests (pure_apply o s) rfl trivial
  | cons name names ih =>
      exact requests_bind (p := [.getAttribute])
        (ask b (.getAttribute m.token o name) fun _ => ⟨rfl, rfl⟩) fun next _ _ => ih next _

/-- A module takes its name, a call of the importer and a request for each segment but the first. -/
theorem resolveModule (o : ForeignObject) (name : String) :
    Runs (.requests "lookup" (.toForeign :: .call ::
      (Text.textSegments '.' name).tail.map fun _ => .getAttribute) ForeignError.message)
      (b.recorded.resolveModule m o name) s fun _ _ => True := by
  refine requests_bind (p := [.toForeign])
    (ask b (.toForeign m.token (.str name)) fun _ => ⟨rfl, rfl⟩) fun argument _ _ => ?_
  refine requests_bind (p := [.call])
    (ask b (.call m.token o ⟨[argument], []⟩) fun _ => ⟨rfl, rfl⟩) fun package _ _ => ?_
  rw [← List.append_nil (List.map _ _)]
  exact requests_bind (walk b _ package _) fun module _ _ => no_requests rfl rfl trivial

/-- A class takes the importer, the module and one request more. -/
theorem resolveBinding (binding : Binding) :
    Runs (.requests "lookup"
      ((if (s.ledger.importers.find? m.number.place).isSome then [] else [.builtin]) ++
        (.toForeign :: .call :: binding.moduleSegments.tail.map fun _ => .getAttribute) ++
        [.getAttribute]) ForeignError.message)
      (b.recorded.resolveBinding m binding) s fun _ _ => True := by
  rw [List.append_assoc]
  refine requests_bind (importer b) fun o _ _ => ?_
  refine requests_bind (resolveModule b o binding.moduleName) fun module _ _ => ?_
  refine requests_bind (p := [.getAttribute]) (q := [])
    (ask b (.getAttribute m.token module binding.className) fun _ => ⟨rfl, rfl⟩)
    fun callable _ _ => ?_
  exact no_requests rfl rfl trivial

/-- A new object takes the lookup of its class, its arguments and the call of the class. -/
theorem newObject {l : Ledger} {key : StateKey} (binding : Binding) (arguments : List Value)
    (keywords : List (String × Value)) (hnumber : m.number = l.stateNumber key)
    (himporters : s.ledger.importers = l.importers) :
    Runs (Passage (l.objectStages key binding arguments keywords))
      (b.recorded.newObject m binding arguments keywords) s fun _ _ => True := by
  have hclass := resolveBinding (s := s) (m := m) b binding
  rw [himporters, hnumber] at hclass
  refine cons hclass fun c t _ => ?_
  refine cons (marshal b m.token arguments keywords) fun a u _ => ?_
  refine single (requests_bind (p := [.call]) (q := [])
    (ask b (.call m.token c.callable a) fun _ => ⟨rfl, rfl⟩) fun o _ _ => ?_)
  exact no_requests rfl rfl trivial

/-- The end of a creation makes no requests. -/
theorem created {x : α} (notice : Notice) :
    Runs (Passage []) (do count .instanceCreated; note notice; return x) s fun _ _ => True :=
  silent rfl rfl trivial

/-- An observed operation leaves the record of the operation. -/
theorem observed {S : Stage} {a : Action (Recorded σ) α} (h : Runs S a s fun _ _ => True)
    (operation subject : String) :
    Runs S (Bridge.observed operation subject a) s fun _ _ => True := by
  obtain ⟨log, hlog, hS, -⟩ := h
  rw [Runs, observed_apply]
  rcases hs : a s with ⟨r, t⟩
  rw [hs] at hlog hS
  cases r <;> exact ⟨log, hlog, hS, fun _ _ => trivial⟩

/-! ## Operations -/

/-- The native form of what the interpreter answered is judged without a request. -/
theorem judged {kind : String} (r : Except BridgeError α)
    (hkind : ∀ e, r = .error e → e.kind = kind) :
    Runs (.judged kind) (liftM r) s fun _ _ => True := by
  refine ⟨[], (List.append_nil _).symm, ⟨rfl, fun e he => hkind e ?_⟩, fun _ _ => trivial⟩
  rw [lift_apply] at he
  cases r with
  | ok x => cases he
  | error e' => exact congrArg _ (Option.some.inj he)

/-- An object is coerced by one request, and its value judged. -/
theorem coerceTo (token : StateToken) (o : ForeignObject) (target : Target α) :
    Runs (Passage [.requests "coercion" [.coerce] ForeignError.message, .judged "coercion"])
      (b.recorded.coerceTo token o target) s fun _ _ => True := by
  refine cons (ask b (.coerce token o) fun _ => ⟨rfl, rfl⟩) fun v t _ => ?_
  refine single (judged _ fun e he => ?_)
  cases hdecode : Bridge.decodeNative target v with
  | ok x =>
      rw [hdecode] at he
      cases he
  | error cause =>
      rw [hdecode] at he
      cases he
      rfl

/-- A new instance in native form passes through its stages. -/
theorem createInstance (target : Target α) (moduleName className : String)
    (arguments : List Value) :
    Runs (Passage (b.instanceStages s.ledger target.type ⟨moduleName, className, []⟩ arguments))
      (b.recorded.createInstance target moduleName className arguments) s fun _ _ => True := by
  refine observed ?_ _ _
  refine cons (Q := fun _ t => t = s)
    (check _ (fun _ => Binding.kind_of_validate) fun _ _ => rfl) fun _ t ht => ?_
  cases ht
  refine cons (state b _) fun m t hm => ?_
  refine append (newObject b _ arguments [] hm.1 hm.2) fun o u _ => ?_
  exact append (coerceTo b m.token o target) fun x _ _ => created _

/-- A proxy is bound after the check of its table, from the state to the object. -/
theorem bindProxy (l : Ledger) (key : InterfaceKey) (own : StateKey) (i : Interface)
    (binding : Binding) (arguments : List Value) (keywords : List (String × Value))
    (hproxyTypes : s.ledger.proxyTypes = l.proxyTypes) (hstates : SameStates l s.ledger) :
    Runs (Passage ([.check "proxy_generation" (l.tableFor key i),
        .requests "state" (l.statePlan (b.stateKey own)) ForeignError.message] ++
        l.objectStages (b.stateKey own) binding arguments keywords))
      (b.recorded.bindProxy key own i binding arguments keywords) s fun _ _ => True := by
  have htable := proxyType (s := s) b key i
  rw [Ledger.tableFor, hproxyTypes] at htable
  refine cons htable fun type t ht => ?_
  -- The plans of the later stages are read off the ledger before the call.
  have hsame := hstates.trans ht
  have hstate := state (s := t) b (b.stateKey own)
  rw [hsame.statePlan, hsame.stateNumber, hsame.importers] at hstate
  refine cons hstate fun m u hm => ?_
  show Runs (Passage (l.objectStages (b.stateKey own) binding arguments keywords)) _ u _
  rw [← List.append_nil (l.objectStages ..)]
  exact append (newObject b binding arguments keywords hm.1 hm.2) fun o _ _ => created _

/-- A new proxy for the interface of a key: its stages after the check of the interface. -/
theorem instantiateProxy (l : Ledger) (key : InterfaceKey) (own : StateKey) (i : Interface)
    (arguments : List Value) (keywords : List (String × Value))
    (hproxyTypes : s.ledger.proxyTypes = l.proxyTypes) (hstates : SameStates l s.ledger) :
    Runs (Passage (.check "configuration" i.requireBinding ::
        match i.binding with
        | none => []
        | some binding =>
          [.check "instantiation" (b.checkDeclared binding (arguments.length + keywords.length)),
            .check "proxy_generation" (l.tableFor key i),
            .requests "state" (l.statePlan (b.stateKey own)) ForeignError.message] ++
            l.objectStages (b.stateKey own) binding arguments keywords))
      (b.recorded.instantiateProxy key own i arguments keywords) s fun _ _ => True := by
  rw [Bridge.instantiateProxy_eq]
  refine cons (Q := fun binding t => i.binding = some binding ∧ t = s)
    (check _ (fun _ => Interface.kind_of_requireBinding) fun _ h =>
      ⟨Interface.requireBinding_eq_ok_iff.mp h, rfl⟩) fun binding t ht => ?_
  obtain ⟨hbinding, rfl⟩ := ht
  rw [hbinding]
  refine cons (Q := fun _ u => u = t)
    (check _ (fun _ => Bridge.kind_of_checkDeclared) fun _ _ => rfl) fun _ u hu => ?_
  cases hu
  exact bindProxy b l key own i binding arguments keywords hproxyTypes hstates

/-- A new instance behind a proxy passes through its stages. -/
theorem creation (key : InterfaceKey) (own : StateKey) (i : Interface)
    (arguments : List Value) (keywords : List (String × Value)) :
    Runs (Passage (b.proxyStages s.ledger key own i arguments keywords))
      (b.recorded.interface key i >>= fun kept =>
        b.recorded.instantiateProxy key own kept arguments keywords) s fun _ _ => True := by
  refine cons (interface b key i) fun kept t ht => ?_
  obtain ⟨rfl, hproxyTypes, hstates⟩ := ht
  exact instantiateProxy b s.ledger key own _ arguments keywords hproxyTypes hstates

/-- An object is wrapped without any request. -/
theorem wrap (i : NativeInterface) (object : ForeignObject) (m : ManagedState) :
    Runs (Passage ((Command.wrap i object m : Call).stages b s.ledger)) (b.recorded.wrap i object m)
      s fun _ _ => True := by
  refine observed ?_ _ _
  refine cons (interface b _ _) fun kept t ht => ?_
  obtain ⟨rfl, hproxyTypes, -⟩ := ht
  have htable := proxyType (s := t) b (.type i.type)
    (s.ledger.interfaceFor (.type i.type) i.interface)
  rw [Ledger.tableFor, hproxyTypes] at htable
  exact cons htable fun type u _ => silent rfl rfl trivial

/-- Each of some objects is read by one request. -/
theorem toNativeEach (token : StateToken) (objects : List ForeignObject) :
    Runs (.each "conversion" .toNative ForeignError.message)
      (b.recorded.toNativeEach token objects) s fun _ _ => True := by
  have hone (o : ForeignObject) (s : Session (Recorded σ)) :
      Runs (.requests "conversion" [.toNative] ForeignError.message) (b.recorded.toNative token o) s
        (SameLedger s) :=
    ask b (.toNative token o) fun _ => ⟨rfl, rfl⟩
  have hplan : objects.flatMap (fun _ => [Primitive.toNative]) =
      List.replicate objects.length .toNative := by
    induction objects with
    | nil => rfl
    | cons o objects ih =>
        rw [List.flatMap_cons, ih]
        rfl
  have heach := mapM hone objects s
  rw [hplan] at heach
  exact heach.mono (fun log failure h => ⟨objects.length, h⟩) fun _ _ _ => trivial

/-- A call of an object gives the arguments, calls the method and reads the results. -/
theorem callObject (p : Proxy) (operation foreignName : String) (arguments : List Value) :
    Runs (Passage (Bridge.forwardStages foreignName arguments))
      (b.recorded.callObject p operation foreignName arguments) s fun _ _ => True := by
  refine cons (marshal b p.state.token arguments []) fun a t _ => ?_
  refine cons (ask b (.callMethod p.state.token p.object foreignName a.positional)
    fun _ => ⟨rfl, rfl⟩) fun results u _ => ?_
  exact cons (toNativeEach b p.state.token results) fun vs u _ => silent rfl rfl trivial

/-- Being observed adds no stage to it. -/
theorem forward (p : Proxy) (operation foreignName : String) (arguments : List Value) :
    Runs (Passage (Bridge.forwardStages foreignName arguments))
      (b.recorded.forward p operation foreignName arguments) s fun _ _ => True := by
  obtain ⟨log, hlog, hpassage, -⟩ := callObject
    (s := (s.entered (.opened ⟨p.interfaceName, operation, foreignName, p.state.id⟩)).entered
      .entered) b p operation foreignName arguments
  rw [Runs, Bridge.forward_apply]
  rcases h : b.recorded.callObject p operation foreignName arguments _ with ⟨r, t⟩
  rw [h] at hlog hpassage
  cases r <;> exact ⟨log, hlog, hpassage, fun _ _ => trivial⟩

/-- An operation is routed and then forwarded. -/
theorem invoke (p : Proxy) (operation : String) (arguments : List Value) :
    Runs (Passage (Bridge.invokeStages p operation arguments))
      (b.recorded.invoke p operation arguments) s fun _ _ => True := by
  refine cons (Q := fun route t => p.route operation arguments.length = .ok route)
    (check _ (fun _ => Proxy.kind_of_route) fun _ h => h) fun route t hroute => ?_
  rw [hroute]
  exact forward b p operation route.foreignName arguments

/-- The answer to an operation is judged at the end. -/
theorem invokeAs (p : Proxy) (type : NativeType) (operation : String) (arguments : List Value) :
    Runs (Passage (Bridge.invokeStages p operation arguments ++ [.judged "conversion"]))
      (b.recorded.invokeAs p type operation arguments) s fun _ _ => True :=
  append (invoke b p operation arguments) fun _ _ _ =>
    single (judged _ fun _ => NativeType.kind_of_decode)

/-- Every call leaves the record of its stages. -/
theorem perform (c : Call) :
    Runs (Passage (c.stages b s.ledger)) (c.perform b.recorded) s fun _ _ => True := by
  cases c with
  | createInstance target moduleName className arguments =>
      exact createInstance b target moduleName className arguments
  | createProxy i arguments keywords => exact observed (creation b _ _ _ arguments keywords) _ _
  | createDynamicProxy i arguments => exact observed (creation b _ _ _ arguments []) _ _
  | wrap i object m => exact wrap b i object m
  | invoke p operation arguments => exact invoke b p operation arguments
  | invokeAs p type operation arguments => exact invokeAs b p type operation arguments
  | invokeMethod p name arguments => exact forward b p name name arguments
  | shutdown => exact silent rfl rfl trivial

end Runs

/-! ## Calls -/

/-- Every call goes through its stages in order.  It fails with the error of the first stage that
fails and makes no further request; a refused request is named in the error word by word.  The
requests are those of the bridge itself, which ends alike whether it is watched or not. -/
theorem Bridge.perform_passage (b : Bridge σ) (s : Session σ) (c : Call) :
    Passage (c.stages b s.ledger) (b.exchanges s c) (failure? (c.perform b s).1) ∧
      (c.perform b.recorded s.recorded).1 = (c.perform b s).1 ∧
      (c.perform b.recorded s.recorded).2.world.world = (c.perform b s).2.world ∧
      (c.perform b.recorded s.recorded).2.ledger = (c.perform b s).2.ledger := by
  obtain ⟨log, hlog, hpassage, -⟩ := Runs.perform (s := s.recorded) b c
  have hrecorded := b.recorded_perform s c
  refine ⟨?_, hrecorded⟩
  rw [hrecorded.1] at hpassage
  rw [Bridge.exchanges, hlog]
  exact hpassage

end ObjectBridge
