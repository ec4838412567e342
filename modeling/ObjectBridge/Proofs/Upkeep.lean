import ObjectBridge.Proofs.Ledger
import ObjectBridge.Proofs.Run

/-!
# What every call keeps

Whatever is called on a bridge, it asks for objects, writes to its ledger and leaves entries in
its trace.  Only the registry asks for states and tells of them.  So a relation between sessions
that all of this respects is respected by every call and every run.

Main results:

- Theorems `Within.inThread`, `Within.statesOfThreads`: what other threads stay within.
- Definition `Bridge.Upholds`: a relation that all parts of a call respect.
- Theorem `Bridge.Upholds.perform`: so does every call.
-/

namespace ObjectBridge

variable {σ α : Type}

/-- The state that an entry of a trace tells the creation of. -/
def TraceEntry.created? : TraceEntry → Option ManagedState
  | notice (.stateCreated _ m) | elsewhere (.stateCreated _ m) => some m
  | _ => none

/-- No state is created on the way of a request. -/
theorem created?_of_isOnTheWay {notice : Notice} (h : notice.isOnTheWay = true) :
    (TraceEntry.notice notice).created? = none := by
  cases notice with
  | stateCreated => cases h
  | _ => rfl

/-! ## What several threads do -/

/-- An action that another thread carries out stays within a relation that the trace is no matter
of. -/
theorem Within.inThread {R : Session σ → Session σ → Prop} {a : Action σ α} (ha : Within R a)
    (hR : ∀ s t trace trace', R { s with trace } t → R s { t with trace := trace' }) :
    Within R (ObjectBridge.inThread a) :=
  fun s => hR s _ [] _ (ha { s with trace := [] })

/-- Several threads that get a state stay within a relation that every one of them stays within. -/
theorem Within.statesOfThreads {b : Bridge σ} {R : Session σ → Session σ → Prop}
    [IsPreorder (Session σ) R] (hthread : ∀ key, Within R (ObjectBridge.inThread (b.state key)))
    (key : StateKey) (threads : Nat) : Within R (b.statesOfThreads key threads) := by
  have hattempt (key : StateKey) : Within R (attempt (ObjectBridge.inThread (b.state key))) :=
    hthread key
  refine .bind (.mapM hattempt _) fun outcomes => ?_
  exact .bind (.mapM (fun outcome => .lift outcome) outcomes) fun _ => .pure _

/-! ## What calls stay within -/

/-- A relation between sessions that requests for objects, getting a state, changes of the ledger
and entries that tell of no new state stay within. -/
structure Bridge.Upholds (b : Bridge σ) (R : Session σ → Session σ → Prop) : Prop where
  preorder : IsPreorder (Session σ) R
  ask : ∀ (request : Request) (failure : ForeignError → BridgeError), request.isOnTheWay = true →
    Within R (b.ask request failure)
  state : ∀ key, Within R (b.state key)
  ledger : ∀ (s : Session σ) (l : Ledger), R s { s with ledger := l }
  entered : ∀ (s : Session σ) (entry : TraceEntry), entry.created? = none → R s (s.entered entry)

namespace Bridge.Upholds

variable {b : Bridge σ} {R : Session σ → Session σ → Prop}

/-- Whatever a relation is upheld by tolerates what it does besides. -/
theorem tolerates (h : b.Upholds R) : b.Tolerates R where
  preorder := h.preorder
  ask := h.ask
  note notice hway s := h.entered s (.notice notice) (created?_of_isOnTheWay hway)
  importers s _ := h.ledger s _

/-- An event in the counters does not leave the relation. -/
theorem counted (h : b.Upholds R) (s : Session σ) (tally : Tally) : R s (s.counted tally) :=
  h.ledger s _

/-- What stays within the relation does so when it is observed. -/
theorem observed (h : b.Upholds R) {a : Action σ α} (ha : Within R a)
    (operation subject : String) : Within R (Bridge.observed operation subject a) := by
  have := h.preorder
  intro s
  have hs := ha s
  rw [observed_apply]
  rcases ht : a s with ⟨r, t⟩
  rw [ht] at hs
  cases r with
  | ok x => exact hs
  | error e => exact trans_of R hs (trans_of R (h.counted t .failed) (h.entered _ _ rfl))

/-- The lookup of an interface stays within the relation. -/
theorem interface (h : b.Upholds R) (key : InterfaceKey) (i : Interface) :
    Within R (b.interface key i) := by
  have := h.preorder
  refine .keep ?_ fun s _ => h.ledger s _
  exact .bind (.lift _) fun _ => .bind (fun s => h.entered s _ rfl) fun _ => .pure i

/-- The lookup of a proxy type stays within it. -/
theorem proxyType (h : b.Upholds R) (key : InterfaceKey) (i : Interface) :
    Within R (b.proxyType key i) := by
  have := h.preorder
  refine .keep ?_ fun s _ => h.ledger s _
  rw [createProxyType]
  cases ProxyType.build key i with
  | ok type =>
      refine .bind (fun s => h.counted s .proxyTypeGenerated) fun _ => ?_
      exact .bind (fun s => h.entered s _ rfl) fun _ => .pure type
  | error e => exact .bind (fun s => h.entered s _ rfl) fun _ => .throw e

/-- An action that ends with a new instance, which is counted and told of. -/
theorem ending (h : b.Upholds R) (notice : Notice)
    (hnotice : (TraceEntry.notice notice).created? = none) (x : α) :
    Within R (do count .instanceCreated; note notice; return x : Action σ α) := by
  have := h.preorder
  refine .bind (fun s => h.counted s .instanceCreated) fun _ => ?_
  exact .bind (fun s => h.entered s _ hnotice) fun _ => .pure x

/-- A new instance in native form stays within it. -/
theorem createInstance (h : b.Upholds R) (target : Target α) (moduleName className : String)
    (arguments : List Value) :
    Within R (b.createInstance target moduleName className arguments) := by
  have := h.preorder
  refine h.observed ?_ _ _
  refine .bind (.lift _) fun _ => .bind (h.state _) fun m => ?_
  refine .bind (h.tolerates.carries.newObject m _ arguments []) fun o => ?_
  exact .bind (h.tolerates.carries.coerceTo _ o target) fun x => h.ending _ rfl x

/-- A new instance behind a proxy stays within it. -/
theorem instantiateProxy (h : b.Upholds R) (key : InterfaceKey) (own : StateKey) (i : Interface)
    (arguments : List Value) (keywords : List (String × Value)) :
    Within R (b.instantiateProxy key own i arguments keywords) := by
  have := h.preorder
  rw [instantiateProxy_eq]
  refine .bind (.lift _) fun binding => .bind (.lift _) fun _ => ?_
  refine .bind (h.proxyType key i) fun type => .bind (h.state _) fun m => ?_
  exact .bind (h.tolerates.carries.newObject m binding arguments keywords) fun o => h.ending _ rfl _

/-- A call that is forwarded stays within it. -/
theorem forward (h : b.Upholds R) (p : Proxy) (operation foreignName : String)
    (arguments : List Value) : Within R (b.forward p operation foreignName arguments) := by
  have := h.preorder
  intro s
  have hopened := trans_of R
    (h.entered s (.opened ⟨p.interfaceName, operation, foreignName, p.state.id⟩) rfl)
    (h.entered _ .entered rfl)
  have hcalled := h.tolerates.carries.callObject p operation foreignName arguments
    ((s.entered (.opened ⟨p.interfaceName, operation, foreignName, p.state.id⟩)).entered .entered)
  rw [forward_apply]
  rcases hcall : b.callObject p operation foreignName arguments _ with ⟨r, t⟩
  rw [hcall] at hcalled
  have htimed : R s (b.timed s t) := trans_of R (trans_of R hopened hcalled) (h.counted t _)
  cases r with
  | ok v =>
      exact trans_of R htimed (trans_of R (h.entered _ _ rfl) (h.entered _ .left rfl))
  | error e =>
      have hfailed := trans_of R htimed (h.counted _ .failed)
      exact trans_of R hfailed (trans_of R (h.entered _ _ rfl) (h.entered _ .left rfl))

/-- An operation stays within it, whether it is forwarded or not. -/
theorem invoke (h : b.Upholds R) (p : Proxy) (operation : String) (arguments : List Value) :
    Within R (b.invoke p operation arguments) := by
  have := h.preorder
  exact .bind (.lift _) fun route => h.forward p operation _ arguments

/-- The release of all states stays within it. -/
theorem releaseStates (h : b.Upholds R) : Within R b.releaseStates := by
  have := h.preorder
  intro s
  exact trans_of R (h.ledger s { s.ledger with states := .empty }) (h.entered _ _ rfl)

/-- Every call stays within the relation. -/
theorem perform (h : b.Upholds R) (c : Call) : Within R (c.perform b) := by
  have := h.preorder
  cases c with
  | createInstance target moduleName className arguments =>
      exact h.createInstance target moduleName className arguments
  | createProxy i arguments keywords =>
      refine h.observed (.bind (h.interface _ _) fun kept => ?_) _ _
      exact h.instantiateProxy _ _ kept arguments keywords
  | createDynamicProxy i arguments =>
      refine h.observed (.bind (h.interface _ _) fun kept => ?_) _ _
      exact h.instantiateProxy _ _ kept arguments []
  | wrap i object m =>
      refine h.observed (.bind (h.interface _ _) fun kept => ?_) _ _
      exact .bind (h.proxyType _ kept) fun _ => .pure _
  | invoke p operation arguments => exact h.invoke p operation arguments
  | invokeAs p type operation arguments =>
      exact .bind (h.invoke p operation arguments) fun _ => .lift _
  | invokeMethod p name arguments => exact h.forward p name name arguments
  | shutdown => exact h.releaseStates

end Bridge.Upholds

end ObjectBridge
