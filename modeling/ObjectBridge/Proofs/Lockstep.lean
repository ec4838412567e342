import ObjectBridge.Proofs.Coupling

/-!
# Bridges in lockstep

Two bridges work side by side.  If their interpreters answer related requests
alike, and the same interfaces and dispatch tables are kept, then every operation
of the one keeps in step with the same operation of the other.  What is related, as
objects, values and states, is left to the pair of bridges.

Main results:

- Definition `Lockstep`: what two bridges must have in common.
- Theorems `Lockstep.createInstance`, `Lockstep.createProxy`,
  `Lockstep.createDynamicProxy`, `Lockstep.wrap`: creations keep in step.
- Theorems `Lockstep.invoke`, `Lockstep.invokeAs`, `Lockstep.invokeMethod`: so do
  calls on related proxies.
-/

namespace ObjectBridge

variable {σ τ α : Type}

/-! ## Values that are objects -/

/-- Only a value that is an object holds one. -/
theorem Value.asObject_eq_some_iff {v : Value} {o : ForeignObject} :
    v.asObject = some o ↔ v = .object o := by
  cases v <;> simp [asObject]

/-- A value that is no object is given to the interpreter by a request. -/
theorem Bridge.toForeign_eq_ask (b : Bridge σ) (token : StateToken) {v : Value}
    (h : v.asObject = none) :
    b.toForeign token v =
      b.ask (.toForeign token v) fun e => .conversion v.typeName (.raised e) := by
  cases v with
  | object o => cases h
  | _ => rfl

/-! ## What two bridges have in common -/

/-- Two requests are answered alike, whatever their exceptions become. -/
def Coupling.Asks (K : Coupling (Session σ) (Session τ)) (b : Bridge σ) (b' : Bridge τ)
    (r r' : Request) (V : Session σ → Session τ → r.Answer → r'.Answer → Prop)
    (s : Session σ) (t : Session τ) : Prop :=
  ∀ failure, K.InStep V (b.ask r failure) (b'.ask r' failure) s t

/-- Two bridges whose interpreters answer related requests alike and that keep the same
interfaces and dispatch tables.  Objects are related as importers, as modules and classes, as new
objects, and as what is passed to calls and returned by them. -/
structure Lockstep (b : Bridge σ) (b' : Bridge τ) extends Coupling (Session σ) (Session τ) where
  imported : Session σ → Session τ → ForeignObject → ForeignObject → Prop
  symbol : Session σ → Session τ → ForeignObject → ForeignObject → Prop
  object : Session σ → Session τ → ForeignObject → ForeignObject → Prop
  passed : Session σ → Session τ → ForeignObject → ForeignObject → Prop
  value : Session σ → Session τ → Value → Value → Prop
  state : Session σ → Session τ → ManagedState → ManagedState → Prop
  carrier : Session σ → Session τ → (t : NativeType) → t.Carrier → t.Carrier → Prop
  imported_stable : toCoupling.Stable imported
  symbol_stable : toCoupling.Stable symbol
  object_stable : toCoupling.Stable object
  passed_stable : toCoupling.Stable passed
  value_stable : toCoupling.Stable value
  state_stable : toCoupling.Stable state
  object_typeName : ∀ {s t o o'}, object s t o o' → o.typeName = o'.typeName
  passed_typeName : ∀ {s t o o'}, passed s t o o' → o.typeName = o'.typeName
  value_typeName : ∀ {s t v v'}, value s t v v' → v.typeName = v'.typeName
  value_asObject : ∀ {s t v v'}, value s t v v' → Option.Rel (passed s t) v.asObject v'.asObject
  value_toJson : ∀ {s t v v'}, value s t v v' → v.toJson = v'.toJson
  value_none : ∀ {s t}, value s t .none .none
  value_str : ∀ {s t} text, value s t (.str text) (.str text)
  value_list : ∀ {s t vs vs'}, List.Forall₂ (value s t) vs vs' → value s t (.list vs) (.list vs')
  value_decode : ∀ {s t v v'} type, value s t v v' →
    Agree (carrier s t type) (type.decode v) (type.decode v')
  checkArity : b.configuration.checkArity = b'.configuration.checkArity
  enter : ∀ entry entry', toCoupling.Moves (·.entered entry) (·.entered entry')
  count : ∀ tally, toCoupling.Moves (·.counted tally) (·.counted tally)
  clock : ∀ {s t}, rel s t → b.interpreter.clock s.world = b'.interpreter.clock t.world
  interfaces : ∀ {s t}, rel s t → s.ledger.interfaces = t.ledger.interfaces
  proxyTypes : ∀ {s t}, rel s t → s.ledger.proxyTypes = t.ledger.proxyTypes
  keepInterfaces : ∀ c, toCoupling.Moves (Ledger.interfacesPlace.write c)
    (Ledger.interfacesPlace.write c)
  keepProxyTypes : ∀ c, toCoupling.Moves (Ledger.proxyTypesPlace.write c)
    (Ledger.proxyTypesPlace.write c)
  ownState : ∀ {s t} own, rel s t →
    toCoupling.InStep state (b.state (b.stateKey own)) (b'.state (b'.stateKey own)) s t
  importer : ∀ {s t m m'}, rel s t → state s t m m' →
    toCoupling.InStep imported (b.importer m) (b'.importer m') s t
  askToForeign : ∀ {s t m m' v v'}, rel s t → state s t m m' → value s t v v' →
    toCoupling.Asks b b' (.toForeign m.token v) (.toForeign m'.token v') passed s t
  askImport : ∀ {s t m m' i i' a a'}, rel s t → state s t m m' → imported s t i i' →
    List.Forall₂ (passed s t) a a' →
    toCoupling.Asks b b' (.call m.token i ⟨a, []⟩) (.call m'.token i' ⟨a', []⟩) symbol s t
  askAttribute : ∀ {s t m m' o o'} name, rel s t → state s t m m' → symbol s t o o' →
    toCoupling.Asks b b' (.getAttribute m.token o name) (.getAttribute m'.token o' name) symbol s t
  askCall : ∀ {s t m m' c c' a a'}, rel s t → state s t m m' → symbol s t c c' →
    List.Forall₂ (passed s t) a.positional a'.positional →
    List.Forall₂ (fun k k' => k.1 = k'.1 ∧ passed s t k.2 k'.2) a.keywords a'.keywords →
    toCoupling.Asks b b' (.call m.token c a) (.call m'.token c' a') object s t
  askMethod : ∀ {s t m m' o o' a a'} name, rel s t → state s t m m' → object s t o o' →
    List.Forall₂ (passed s t) a a' →
    toCoupling.Asks b b' (.callMethod m.token o name a) (.callMethod m'.token o' name a')
      (fun s t => List.Forall₂ (passed s t)) s t
  askToNative : ∀ {s t m m' o o'}, rel s t → state s t m m' → passed s t o o' →
    toCoupling.Asks b b' (.toNative m.token o) (.toNative m'.token o') value s t
  askCoerce : ∀ {s t m m' o o'}, rel s t → state s t m m' → object s t o o' →
    toCoupling.Asks b b' (.coerce m.token o) (.coerce m'.token o') value s t

namespace Lockstep

variable {b : Bridge σ} {b' : Bridge τ} (L : Lockstep b b') {s : Session σ} {t : Session τ}
  {m m' : ManagedState} {o o' : ForeignObject} {v v' : Value} {vs vs' : List Value}
  {ks ks' : List (String × Value)}

/-! ## Notices and counters -/

/-- Entries in the traces, which may differ, keep the sessions in step. -/
theorem enterTrace (entry entry' : TraceEntry) (hst : L.rel s t) :
    L.InStep (fun _ _ => Eq) (enterTrace entry) (ObjectBridge.enterTrace entry') s t :=
  ⟨(L.enter entry entry' hst).1, (L.enter entry entry' hst).2, .ok rfl⟩

/-- So do notices. -/
theorem note (notice notice' : Notice) (hst : L.rel s t) :
    L.InStep (fun _ _ => Eq) (note notice) (ObjectBridge.note notice') s t :=
  L.enterTrace (.notice notice) (.notice notice') hst

/-- An event that is counted on both sides is counted in step. -/
theorem counts (tally : Tally) (hst : L.rel s t) :
    L.InStep (fun _ _ => Eq) (ObjectBridge.count tally) (ObjectBridge.count tally) s t :=
  ⟨(L.count tally hst).1, (L.count tally hst).2, .ok rfl⟩

/-- The time is told in step. -/
theorem now (hst : L.rel s t) : L.InStep (fun _ _ => Eq) b.now b'.now s t :=
  ⟨hst, L.grows_refl s t, .ok (L.clock hst)⟩

/-- An observed operation keeps in step when the operation does. -/
theorem observed {α' : Type} {V : Session σ → Session τ → α → α' → Prop}
    (operation subject : String) {a : Action σ α} {a' : Action τ α'} (h : L.InStep V a a' s t) :
    L.InStep V (Bridge.observed operation subject a) (Bridge.observed operation subject a')
      s t := by
  refine h.attempt.bind fun hst₁ _ hagree => ?_
  cases hagree with
  | ok hx => exact .lift hst₁ (.ok hx)
  | error e =>
      refine (L.counts .failed hst₁).bind fun hst₂ _ _ => ?_
      exact (L.note _ _ hst₂).bind fun hst₃ _ _ => .lift hst₃ (.error e)

/-! ## Interfaces and dispatch tables -/

/-- An interface is looked up and stored in step. -/
theorem interface (key : InterfaceKey) (i : Interface) (hst : L.rel s t) :
    L.InStep (fun _ _ => Eq) (b.interface key i) (b'.interface key i) s t := by
  refine Coupling.InStep.keep L.interfaces L.keepInterfaces key hst ?_
  refine (Coupling.InStep.same hst _).bind fun hst₁ _ _ => ?_
  exact (L.note _ _ hst₁).bind fun hst₂ _ _ => .pure hst₂ rfl

/-- So is a proxy type. -/
theorem proxyType (key : InterfaceKey) (i : Interface) (hst : L.rel s t) :
    L.InStep (fun _ _ => Eq) (b.proxyType key i) (b'.proxyType key i) s t := by
  refine Coupling.InStep.keep L.proxyTypes L.keepProxyTypes key hst ?_
  rw [Bridge.createProxyType, Bridge.createProxyType]
  cases ProxyType.build key i with
  | ok type =>
      refine (L.counts _ hst).bind fun hst₁ _ _ => ?_
      exact (L.note _ _ hst₁).bind fun hst₂ _ _ => .pure hst₂ rfl
  | error e => exact (L.note _ _ hst).bind fun hst₁ _ _ => .lift hst₁ (.error e)

/-! ## Marshalling -/

/-- Values that correspond are stored as objects that do. -/
theorem toForeign (hst : L.rel s t) (hm : L.state s t m m') (hv : L.value s t v v') :
    L.InStep L.passed (b.toForeign m.token v) (b'.toForeign m'.token v') s t := by
  have hobject := L.value_asObject hv
  rcases h : v.asObject with _ | o <;> rcases h' : v'.asObject with _ | o'
  · rw [Bridge.toForeign_eq_ask b m.token h, Bridge.toForeign_eq_ask b' m'.token h',
      ← L.value_typeName hv]
    exact L.askToForeign hst hm hv _
  · rw [h, h'] at hobject
    cases hobject
  · rw [h, h'] at hobject
    cases hobject
  · rw [h, h'] at hobject
    cases hobject with
    | some hoo' =>
        rw [Value.asObject_eq_some_iff.mp h, Value.asObject_eq_some_iff.mp h']
        exact .pure hst hoo'

/-- Values under the same names, related one by one. -/
def Named (V : Session σ → Session τ → α → α → Prop) (s : Session σ) (t : Session τ)
    (k k' : String × α) : Prop :=
  k.1 = k'.1 ∧ V s t k.2 k'.2

/-- Related arguments of a call. -/
def Arguments (s : Session σ) (t : Session τ) (a a' : Arguments) : Prop :=
  List.Forall₂ (L.passed s t) a.positional a'.positional ∧
    List.Forall₂ (Named L.passed s t) a.keywords a'.keywords

/-- Related values that are given in related states. -/
def Given (m m' : ManagedState) (s : Session σ) (t : Session τ) (v v' : Value) : Prop :=
  L.state s t m m' ∧ L.value s t v v'

/-- A relation that lasts does so for values with the same name. -/
theorem named_stable {V : Session σ → Session τ → α → α → Prop} (hV : L.Stable V) :
    L.Stable (Named V) :=
  fun _ _ _ _ _ _ hgrows h => ⟨h.1, hV hgrows h.2⟩

/-- What is given to a state goes on being given to it. -/
theorem given_stable (m m' : ManagedState) : L.Stable (L.Given m m') :=
  fun _ _ _ _ _ _ hgrows h => ⟨L.state_stable hgrows h.1, L.value_stable hgrows h.2⟩

/-- Keywords are stored under the same names. -/
theorem keyword {k k' : String × Value} (hst : L.rel s t) (h : Named (L.Given m m') s t k k') :
    L.InStep (Named L.passed) (do return (k.1, ← b.toForeign m.token k.2))
      (do return (k'.1, ← b'.toForeign m'.token k'.2)) s t := by
  refine (L.toForeign hst h.2.1 h.2.2).bind fun {s₁ t₁ o o'} hst₁ _ ho => ?_
  have hentry : Named L.passed s₁ t₁ (k.1, o) (k'.1, o') := ⟨h.1, ho⟩
  exact .pure hst₁ hentry

/-- Arguments are stored in step, the positional ones and then those with a keyword. -/
theorem marshal (hst : L.rel s t) (hm : L.state s t m m')
    (hvs : List.Forall₂ (L.value s t) vs vs') (hks : List.Forall₂ (Named L.value s t) ks ks') :
    L.InStep L.Arguments (b.marshal m.token vs ks) (b'.marshal m'.token vs' ks') s t := by
  have hgiven : List.Forall₂ (L.Given m m' s t) vs vs' := hvs.imp fun _ _ hv => ⟨hm, hv⟩
  have hpositional := Coupling.InStep.mapM (L.given_stable m m') L.passed_stable
    (fun hst h => L.toForeign hst h.1 h.2) hst hgiven
  refine hpositional.bind fun hst₁ hgrows₁ ho => ?_
  have hgiven : List.Forall₂ (Named (L.Given m m') _ _) ks ks' :=
    hks.imp fun _ _ hk => ⟨hk.1, L.given_stable m m' hgrows₁ ⟨hm, hk.2⟩⟩
  have hkeywords := Coupling.InStep.mapM (L.named_stable (L.given_stable m m'))
    (L.named_stable L.passed_stable) (fun hst h => L.keyword hst h) hst₁ hgiven
  exact hkeywords.bind fun hst₂ hgrows₂ hk =>
    .pure hst₂ ⟨L.passed_stable.forall₂ hgrows₂ ho, hk⟩

/-- Objects that correspond are read as values that do. -/
theorem toNative (hst : L.rel s t) (hm : L.state s t m m') (ho : L.passed s t o o') :
    L.InStep L.value (b.toNative m.token o) (b'.toNative m'.token o') s t := by
  have hask := L.askToNative hst hm ho fun e => .conversion o.typeName (.raised e)
  rw [Bridge.toNative, Bridge.toNative, ← L.passed_typeName ho]
  exact hask

/-- Several values are collapsed into one in the same way. -/
theorem collapse (hvs : List.Forall₂ (L.value s t) vs vs') :
    L.value s t (collapse vs) (ObjectBridge.collapse vs') := by
  have hlist := L.value_list hvs
  cases hvs with
  | nil => exact L.value_none
  | cons hv hrest =>
      cases hrest with
      | nil => exact hv
      | cons _ _ => exact hlist

/-- Related objects that are taken out in related states. -/
def Taken (m m' : ManagedState) (s : Session σ) (t : Session τ) (o o' : ForeignObject) : Prop :=
  L.state s t m m' ∧ L.passed s t o o'

/-- What is taken from a state goes on being taken from it. -/
theorem taken_stable (m m' : ManagedState) : L.Stable (L.Taken m m') :=
  fun _ _ _ _ _ _ hgrows h => ⟨L.state_stable hgrows h.1, L.passed_stable hgrows h.2⟩

/-- Results that correspond are read one by one and collapsed. -/
theorem unmarshal {os os' : List ForeignObject} (hst : L.rel s t) (hm : L.state s t m m')
    (hos : List.Forall₂ (L.passed s t) os os') :
    L.InStep L.value (b.unmarshal m.token os) (b'.unmarshal m'.token os') s t := by
  have htaken : List.Forall₂ (L.Taken m m' s t) os os' := hos.imp fun _ _ ho => ⟨hm, ho⟩
  have hvalues := Coupling.InStep.mapM (L.taken_stable m m') L.value_stable
    (fun hst h => L.toNative hst h.1 h.2) hst htaken
  exact hvalues.bind fun hst₁ _ hvs => .pure hst₁ (L.collapse hvs)

/-! ## Resolution and new objects -/

/-- The same class, found by both bridges. -/
def Class (s : Session σ) (t : Session τ) (c c' : ResolvedClass) : Prop :=
  c.qualifiedName = c'.qualifiedName ∧ L.symbol s t c.callable c'.callable

/-- Attributes are followed in step, as long as the symbols on the way correspond. -/
theorem walk (names : List String) (path : String) (hst : L.rel s t) (hm : L.state s t m m')
    (ho : L.symbol s t o o') :
    L.InStep L.symbol (b.walk m o path names) (b'.walk m' o' path names) s t := by
  induction names generalizing s t o o' path with
  | nil => exact .pure hst ho
  | cons name names ih =>
      refine (L.askAttribute name hst hm ho _).bind fun hst₁ hgrows₁ hnext => ?_
      exact ih _ hst₁ (L.state_stable hgrows₁ hm) hnext

/-- A module is imported in step. -/
theorem resolveModule (name : String) (hst : L.rel s t) (hm : L.state s t m m')
    (ho : L.imported s t o o') :
    L.InStep L.symbol (b.resolveModule m o name) (b'.resolveModule m' o' name) s t := by
  refine (L.askToForeign hst hm (L.value_str name) _).bind fun hst₁ hgrows₁ hargument => ?_
  have hm₁ := L.state_stable hgrows₁ hm
  refine (L.askImport hst₁ hm₁ (L.imported_stable hgrows₁ ho) (.cons hargument .nil) _).bind
    fun hst₂ hgrows₂ hpackage => ?_
  refine (L.walk _ _ hst₂ (L.state_stable hgrows₂ hm₁) hpackage).bind fun hst₃ _ hmodule => ?_
  exact (L.note _ _ hst₃).bind fun hst₄ hgrows₄ _ => .pure hst₄ (L.symbol_stable hgrows₄ hmodule)

/-- A class is resolved in step. -/
theorem resolveClass (moduleName className : String) (hst : L.rel s t) (hm : L.state s t m m')
    (ho : L.imported s t o o') :
    L.InStep L.Class (b.resolveClass m o moduleName className)
      (b'.resolveClass m' o' moduleName className) s t := by
  refine (L.resolveModule moduleName hst hm ho).bind fun hst₁ hgrows₁ hmodule => ?_
  refine (L.askAttribute className hst₁ (L.state_stable hgrows₁ hm) hmodule _).bind
    fun hst₂ _ hcallable => ?_
  exact (L.note _ _ hst₂).bind fun hst₃ hgrows₃ _ =>
    .pure hst₃ ⟨rfl, L.symbol_stable hgrows₃ hcallable⟩

/-- The class of a binding is resolved in step, with the importer of each state. -/
theorem resolveBinding (binding : Binding) (hst : L.rel s t) (hm : L.state s t m m') :
    L.InStep L.Class (b.resolveBinding m binding) (b'.resolveBinding m' binding) s t :=
  (L.importer hst hm).bind fun hst₁ hgrows₁ hi =>
    L.resolveClass _ _ hst₁ (L.state_stable hgrows₁ hm) hi

/-- An object is made from classes and arguments that correspond. -/
theorem instantiate {c c' : ResolvedClass} {a a' : ObjectBridge.Arguments} (hst : L.rel s t)
    (hm : L.state s t m m') (hc : L.Class s t c c') (ha : L.Arguments s t a a') :
    L.InStep L.object (b.instantiate m c a) (b'.instantiate m' c' a') s t := by
  obtain ⟨hname, hcallable⟩ := hc
  rw [Bridge.instantiate, Bridge.instantiate, hname]
  refine (L.askCall hst hm hcallable ha.1 ha.2 _).bind fun hst₁ _ ho => ?_
  exact (L.note _ _ hst₁).bind fun hst₂ hgrows₂ _ => .pure hst₂ (L.object_stable hgrows₂ ho)

/-- An object is made in step for the class of a binding. -/
theorem newObject (binding : Binding) (hst : L.rel s t) (hm : L.state s t m m')
    (hvs : List.Forall₂ (L.value s t) vs vs') (hks : List.Forall₂ (Named L.value s t) ks ks') :
    L.InStep L.object (b.newObject m binding vs ks) (b'.newObject m' binding vs' ks') s t := by
  refine (L.resolveBinding binding hst hm).bind fun hst₁ hgrows₁ hc => ?_
  have hm₁ := L.state_stable hgrows₁ hm
  refine (L.marshal hst₁ hm₁ (L.value_stable.forall₂ hgrows₁ hvs)
    ((L.named_stable L.value_stable).forall₂ hgrows₁ hks)).bind fun hst₂ hgrows₂ ha => ?_
  exact L.instantiate hst₂ (L.state_stable hgrows₂ hm₁)
    ⟨hc.1, L.symbol_stable hgrows₂ hc.2⟩ ha

/-- Objects of the same structure have the same native form. -/
theorem coerceTo (target : Target α) (hst : L.rel s t) (hm : L.state s t m m')
    (ho : L.object s t o o') :
    L.InStep (fun _ _ => Eq) (b.coerceTo m.token o target) (b'.coerceTo m'.token o' target)
      s t := by
  rw [Bridge.coerceTo, Bridge.coerceTo, ← L.object_typeName ho]
  refine (L.askCoerce hst hm ho _).bind fun hst₁ _ hv => ?_
  rw [Bridge.decodeNative, Bridge.decodeNative, L.value_toJson hv]
  exact .same hst₁ _

/-! ## Creations -/

/-- Proxies with the same dispatch table for related objects in related states. -/
structure Proxies (s : Session σ) (t : Session τ) (p p' : Proxy) : Prop where
  type : p.type = p'.type
  object : L.object s t p.object p'.object
  state : L.state s t p.state p'.state

/-- Proxies that correspond go on doing so. -/
theorem proxies_stable : L.Stable L.Proxies :=
  fun _ _ _ _ _ _ hgrows h =>
    ⟨h.type, L.object_stable hgrows h.object, L.state_stable hgrows h.state⟩

/-- An instance is created and coerced in step, to the same native value. -/
theorem createInstance (target : Target α) (moduleName className : String) (hst : L.rel s t)
    (hvs : List.Forall₂ (L.value s t) vs vs') :
    L.InStep (fun _ _ => Eq) (b.createInstance target moduleName className vs)
      (b'.createInstance target moduleName className vs') s t := by
  refine L.observed _ _ ?_
  refine (Coupling.InStep.same hst _).bind fun hst₀ hgrows₀ _ => ?_
  refine (L.ownState _ hst₀).bind fun hst₁ hgrows₁ hm => ?_
  have hvs₁ := L.value_stable.forall₂ (L.grows_trans hgrows₀ hgrows₁) hvs
  refine (L.newObject _ hst₁ hm hvs₁ .nil).bind fun hst₂ hgrows₂ ho => ?_
  refine (L.coerceTo target hst₂ (L.state_stable hgrows₂ hm) ho).bind fun hst₃ _ hx => ?_
  refine (L.counts .instanceCreated hst₃).bind fun hst₄ _ _ => ?_
  exact (L.note _ _ hst₄).bind fun hst₅ _ _ => .pure hst₅ hx

/-- A proxy is bound in step to the object that is made for it. -/
theorem bindProxy (key : InterfaceKey) (own : StateKey) (i : Interface) (binding : Binding)
    (hst : L.rel s t) (hvs : List.Forall₂ (L.value s t) vs vs')
    (hks : List.Forall₂ (Named L.value s t) ks ks') :
    L.InStep L.Proxies (b.bindProxy key own i binding vs ks)
      (b'.bindProxy key own i binding vs' ks') s t := by
  refine (L.proxyType key i hst).bind fun {s₁ t₁ type type'} hst₁ hgrows₁ htype => ?_
  refine (L.ownState own hst₁).bind fun {s₂ t₂ m m'} hst₂ hgrows₂ hm => ?_
  have hgrows := L.grows_trans hgrows₁ hgrows₂
  have hvs₂ := L.value_stable.forall₂ hgrows hvs
  have hks₂ := (L.named_stable L.value_stable).forall₂ hgrows hks
  refine (L.newObject binding hst₂ hm hvs₂ hks₂).bind fun {s₃ t₃ o o'} hst₃ hgrows₃ ho => ?_
  have hp : L.Proxies s₃ t₃ ⟨type, o, m⟩ ⟨type', o', m'⟩ :=
    ⟨htype, ho, L.state_stable hgrows₃ hm⟩
  refine (L.counts .instanceCreated hst₃).bind fun hst₄ hgrows₄ _ => ?_
  refine (L.note _ _ hst₄).bind fun hst₅ hgrows₅ _ => ?_
  exact .pure hst₅ (L.proxies_stable (L.grows_trans hgrows₄ hgrows₅) hp)

/-- A proxy is instantiated in step, and refused on both sides before anything is made. -/
theorem instantiateProxy (key : InterfaceKey) (own : StateKey) (i : Interface) (hst : L.rel s t)
    (hvs : List.Forall₂ (L.value s t) vs vs') (hks : List.Forall₂ (Named L.value s t) ks ks') :
    L.InStep L.Proxies (b.instantiateProxy key own i vs ks) (b'.instantiateProxy key own i vs' ks')
      s t := by
  rw [Bridge.instantiateProxy_eq, Bridge.instantiateProxy_eq]
  refine (Coupling.InStep.same hst _).bind fun hst₁ hgrows₁ hbinding => ?_
  cases hbinding
  rw [Bridge.checkDeclared, Bridge.checkDeclared, L.checkArity, hvs.length_eq, hks.length_eq]
  refine (Coupling.InStep.same hst₁ _).bind fun hst₂ hgrows₂ _ => ?_
  have hgrows := L.grows_trans hgrows₁ hgrows₂
  exact L.bindProxy key own i _ hst₂ (L.value_stable.forall₂ hgrows hvs)
    ((L.named_stable L.value_stable).forall₂ hgrows hks)

/-- A proxy for a native interface is created in step. -/
theorem createProxy (i : NativeInterface) (hst : L.rel s t)
    (hvs : List.Forall₂ (L.value s t) vs vs') (hks : List.Forall₂ (Named L.value s t) ks ks') :
    L.InStep L.Proxies (b.createProxy i vs ks) (b'.createProxy i vs' ks') s t := by
  refine L.observed _ _ ?_
  refine (L.interface _ _ hst).bind fun hst₁ hgrows₁ hkept => ?_
  cases hkept
  exact L.instantiateProxy _ _ _ hst₁ (L.value_stable.forall₂ hgrows₁ hvs)
    ((L.named_stable L.value_stable).forall₂ hgrows₁ hks)

/-- A proxy for an interface of the run is created in step. -/
theorem createDynamicProxy (i : Interface) (hst : L.rel s t)
    (hvs : List.Forall₂ (L.value s t) vs vs') :
    L.InStep L.Proxies (b.createDynamicProxy i vs) (b'.createDynamicProxy i vs') s t := by
  refine L.observed _ _ ?_
  refine (L.interface _ _ hst).bind fun hst₁ hgrows₁ hkept => ?_
  cases hkept
  exact L.instantiateProxy _ _ _ hst₁ (L.value_stable.forall₂ hgrows₁ hvs) .nil

/-- Objects that correspond are wrapped by proxies that do. -/
theorem wrap (i : NativeInterface) (hst : L.rel s t) (ho : L.object s t o o')
    (hm : L.state s t m m') : L.InStep L.Proxies (b.wrap i o m) (b'.wrap i o' m') s t := by
  refine L.observed _ _ ?_
  refine (L.interface _ _ hst).bind fun hst₁ hgrows₁ hkept => ?_
  cases hkept
  refine (L.proxyType _ _ hst₁).bind fun {s₂ t₂ type type'} hst₂ hgrows₂ htype => ?_
  have hgrows := L.grows_trans hgrows₁ hgrows₂
  have hp : L.Proxies s₂ t₂ ⟨type, o, m⟩ ⟨type', o', m'⟩ :=
    ⟨htype, L.object_stable hgrows ho, L.state_stable hgrows hm⟩
  exact .pure hst₂ hp

/-! ## Calls on proxies -/

variable {p p' : Proxy}

/-- Objects that correspond are called with the same answer. -/
theorem callObject (operation foreignName : String) (hst : L.rel s t) (hp : L.Proxies s t p p')
    (hvs : List.Forall₂ (L.value s t) vs vs') :
    L.InStep L.value (b.callObject p operation foreignName vs)
      (b'.callObject p' operation foreignName vs') s t := by
  have hname : p.interfaceName = p'.interfaceName :=
    congrArg (fun type : ProxyType => type.interface.name) hp.type
  rw [Bridge.callObject, Bridge.callObject, hname]
  refine (L.marshal hst hp.state hvs .nil).bind fun hst₁ hgrows₁ ha => ?_
  have hp₁ := L.proxies_stable hgrows₁ hp
  refine (L.askMethod foreignName hst₁ hp₁.state hp₁.object ha.1 _).bind fun hst₂ hgrows₂ hos => ?_
  exact L.unmarshal hst₂ (L.state_stable hgrows₂ hp₁.state) hos

/-- A call is forwarded in step, observed on both sides. -/
theorem forward (operation foreignName : String) (hst : L.rel s t) (hp : L.Proxies s t p p')
    (hvs : List.Forall₂ (L.value s t) vs vs') :
    L.InStep L.value (b.forward p operation foreignName vs)
      (b'.forward p' operation foreignName vs') s t := by
  have hname : p.interfaceName = p'.interfaceName :=
    congrArg (fun type : ProxyType => type.interface.name) hp.type
  rw [Bridge.forward, Bridge.forward, hname]
  refine (L.enterTrace _ _ hst).bind fun hst₁ hgrows₁ _ => ?_
  refine (L.enterTrace _ _ hst₁).bind fun hst₂ hgrows₂ _ => ?_
  have hgrows := L.grows_trans hgrows₁ hgrows₂
  refine (L.now hst₂).bind fun hst₃ hgrows₃ hstarted => ?_
  cases hstarted
  have hgrows := L.grows_trans hgrows hgrows₃
  have hcall := L.callObject operation foreignName hst₃ (L.proxies_stable hgrows hp)
    (L.value_stable.forall₂ hgrows hvs)
  refine hcall.attempt.bind fun hst₄ _ hagree => ?_
  refine (L.now hst₄).bind fun hst₅ hgrows₅ hended => ?_
  cases hended
  refine (L.counts _ hst₅).bind fun hst₆ hgrows₆ _ => ?_
  have hgrows := L.grows_trans hgrows₅ hgrows₆
  cases hagree with
  | ok hv =>
      refine (L.note _ _ hst₆).bind fun hst₇ hgrows₇ _ => ?_
      refine (L.enterTrace _ _ hst₇).bind fun hst₈ hgrows₈ _ => ?_
      have hgrows := L.grows_trans hgrows (L.grows_trans hgrows₇ hgrows₈)
      exact .lift hst₈ (.ok (L.value_stable hgrows hv))
  | error e =>
      refine (L.counts _ hst₆).bind fun hst₇ _ _ => ?_
      refine (L.note _ _ hst₇).bind fun hst₈ _ _ => ?_
      exact (L.enterTrace _ _ hst₈).bind fun hst₉ _ _ => .lift hst₉ (.error e)

/-- An operation is invoked in step, whether it is in the table or not. -/
theorem invoke (operation : String) (hst : L.rel s t) (hp : L.Proxies s t p p')
    (hvs : List.Forall₂ (L.value s t) vs vs') :
    L.InStep L.value (b.invoke p operation vs) (b'.invoke p' operation vs') s t := by
  have hroute : p.route operation vs.length = p'.route operation vs'.length := by
    rw [Proxy.route, Proxy.route, Proxy.interfaceName, Proxy.interfaceName, hp.type, hvs.length_eq]
  rw [Bridge.invoke, Bridge.invoke, hroute]
  refine (Coupling.InStep.same hst _).bind fun hst₁ hgrows₁ hr => ?_
  cases hr
  exact L.forward _ _ hst₁ (L.proxies_stable hgrows₁ hp) (L.value_stable.forall₂ hgrows₁ hvs)

/-- The answer to an operation is decoded in step. -/
theorem invokeAs (type : NativeType) (operation : String) (hst : L.rel s t)
    (hp : L.Proxies s t p p') (hvs : List.Forall₂ (L.value s t) vs vs') :
    L.InStep (fun s t => L.carrier s t type) (b.invokeAs p type operation vs)
      (b'.invokeAs p' type operation vs') s t :=
  (L.invoke operation hst hp hvs).bind fun hst₁ _ hv => .lift hst₁ (L.value_decode type hv)

/-- A method of the interface is invoked in step. -/
theorem invokeMethod (name : String) (hst : L.rel s t) (hp : L.Proxies s t p p')
    (hvs : List.Forall₂ (L.value s t) vs vs') :
    L.InStep L.value (b.invokeMethod p name vs) (b'.invokeMethod p' name vs') s t :=
  L.forward name name hst hp hvs

end Lockstep

end ObjectBridge
