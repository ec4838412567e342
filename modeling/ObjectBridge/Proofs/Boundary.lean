import ObjectBridge.Proofs.Accounting
import ObjectBridge.Proofs.Coherence
import ObjectBridge.Proofs.Failures
import ObjectBridge.Proofs.HostRequests
import ObjectBridge.Proofs.Tables

/-!
# Before and inside the interpreter

What can be found out without the interpreter is found out before it is reached.
A creation that fails so early leaves the world and the states as they were; one
that fails later has made a request.  On the scripted host, which counts its
requests, the two can be told apart.

Main results:

- Definitions `Inside`, `Divided`: actions that fail inside the interpreter, and
  actions that fail before it or inside.
- Theorem `Bridge.Advances.perform_divided`: every creation fails before the
  interpreter or inside it.
- Theorem `Bridge.boundary_of_host`: failures on the scripted host.
-/

namespace ObjectBridge

variable {σ α β : Type}

/-! ## Failures inside the interpreter -/

/-- A relation between worlds that every request leads on in. -/
structure Bridge.Advances (b : Bridge σ) (P : σ → σ → Prop) : Prop where
  trans : ∀ {u v w}, P u v → P v w → P u w
  request : ∀ r w, P w (b.interpreter.perform r w).2

/-- A later session, in the same world or in one that some requests led to. -/
def Ahead (P : σ → σ → Prop) (s t : Session σ) : Prop :=
  t.world = s.world ∨ P s.world t.world

/-- An action that fails inside the interpreter only, after a request. -/
def Inside (P : σ → σ → Prop) (α : Type) (a : Action σ α) : Prop :=
  ∀ s, Ahead P s (a s).2 ∧ ∀ e, (a s).1 = .error e → e.isEarly = false ∧ P s.world (a s).2.world

namespace Bridge.Advances

variable {b : Bridge σ} {P : σ → σ → Prop} {s t u : Session σ}

/-- From the same world or an earlier one, requests led to whatever they lead to from there. -/
theorem ahead_lt (h : b.Advances P) (hst : Ahead P s t) (htu : P t.world u.world) :
    P s.world u.world := by
  obtain hsame | hlt := hst
  · rwa [hsame] at htu
  · exact h.trans hlt htu

/-- Where requests led, they led to the same world or to a later one. -/
theorem lt_ahead (h : b.Advances P) (hst : P s.world t.world) (htu : Ahead P t u) :
    P s.world u.world := by
  obtain hsame | hlt := htu
  · rwa [hsame]
  · exact h.trans hst hlt

/-- A session that is later than a later one is later. -/
theorem ahead_trans (h : b.Advances P) (hst : Ahead P s t) (htu : Ahead P t u) : Ahead P s u := by
  obtain hsame | hlt := hst
  · obtain hsame' | hlt' := htu
    · exact .inl (hsame'.trans hsame)
    · exact .inr (h.ahead_lt (.inl hsame) hlt')
  · exact .inr (h.lt_ahead hlt htu)

/-- After a request the world is another one, whatever the answer is. -/
theorem ask_lt (h : b.Advances P) (r : Request) (failure : ForeignError → BridgeError)
    (s : Session σ) : P s.world (b.ask r failure s).2.world :=
  h.request r s.world

end Bridge.Advances

namespace Inside

variable {b : Bridge σ} {P : σ → σ → Prop}

/-- An action that makes no request and does not fail. -/
theorem silent {a : Action σ α} (h : ∀ s, (a s).1.isOk = true ∧ (a s).2.world = s.world) :
    Inside P α a := by
  intro s
  obtain ⟨hok, hworld⟩ := h s
  refine ⟨.inl hworld, fun e he => ?_⟩
  rw [he] at hok
  cases hok

/-- A request fails inside the interpreter, as long as its failure is not an early one. -/
theorem ask (hb : b.Advances P) (r : Request) {failure : ForeignError → BridgeError}
    (hlate : ∀ e, (failure e).isEarly = false) : Inside P r.Answer (b.ask r failure) := by
  intro s
  have hlt := hb.ask_lt r failure s
  refine ⟨.inr hlt, fun e he => ⟨?_, hlt⟩⟩
  rw [ask_apply] at he
  cases hanswer : (b.interpreter.perform r s.world).1 with
  | ok x =>
      rw [hanswer] at he
      cases he
  | error err =>
      rw [hanswer] at he
      cases he
      exact hlate err

/-- A sequence fails inside the interpreter only when both of its parts do. -/
theorem bind (hb : b.Advances P) {a : Action σ α} {f : α → Action σ β} (ha : Inside P α a)
    (hf : ∀ x, Inside P β (f x)) : Inside P β (a >>= f) := by
  intro s
  obtain ⟨hahead, hfails⟩ := ha s
  rcases h : a s with ⟨r, t⟩
  rw [h] at hahead hfails
  cases r with
  | error e =>
      rw [bind_apply_error h]
      refine ⟨hahead, fun e' he' => ?_⟩
      cases he'
      exact hfails e rfl
  | ok x =>
      rw [bind_apply_ok h]
      obtain ⟨hahead', hfails'⟩ := hf x t
      refine ⟨hb.ahead_trans hahead hahead', fun e he => ?_⟩
      obtain ⟨hlate, hlt⟩ := hfails' e he
      exact ⟨hlate, hb.ahead_lt hahead hlt⟩

/-- A verdict on an answer comes after the request. -/
theorem judge (hb : b.Advances P) (r : Request) {failure : ForeignError → BridgeError}
    {verdict : r.Answer → Except BridgeError α} (hlate : ∀ e, (failure e).isEarly = false)
    (hverdict : ∀ x e, verdict x = .error e → e.isEarly = false) :
    Inside P α (do verdict (← b.ask r failure)) := by
  intro s
  have hlt := hb.ask_lt r failure s
  obtain ⟨-, hfails⟩ := ask hb r hlate s
  rcases h : b.ask r failure s with ⟨answer, t⟩
  rw [h] at hlt hfails
  cases answer with
  | error e =>
      rw [bind_apply_error h]
      refine ⟨.inr hlt, fun e' he' => ?_⟩
      cases he'
      exact hfails e rfl
  | ok x =>
      rw [bind_apply_ok h, lift_apply]
      exact ⟨.inr hlt, fun e he => ⟨hverdict x e he, hlt⟩⟩

/-- What is kept in a cache fails inside the interpreter only when its creation does. -/
theorem keep {κ : Type} [DecidableEq κ] {place : Cache.Place (Session σ) κ α} {key : κ}
    {create : Action σ α} (hcreate : Inside P α create)
    (hwrite : ∀ c s, (place.write c s).world = s.world) :
    Inside P α (ObjectBridge.keep place key create) := by
  intro s
  obtain ⟨hahead, hfails⟩ := hcreate s
  rw [keep_apply]
  cases (place.read s).find? key with
  | some x => exact ⟨.inl rfl, fun e he => (by cases he)⟩
  | none =>
      rcases h : create s with ⟨r, t⟩
      rw [h] at hahead hfails
      cases r with
      | ok x =>
          refine ⟨?_, fun e he => (by cases he)⟩
          have hsame := hwrite ((place.read t).add key x) t
          exact hahead.imp hsame.trans fun hlt => hsame.symm ▸ hlt
      | error e => exact ⟨hahead, hfails⟩

end Inside

/-- Whatever is done on the way to an object or by a call fails inside the interpreter only. -/
theorem Bridge.Advances.carries {b : Bridge σ} {P : σ → σ → Prop} (h : b.Advances P) :
    b.Carries (Inside P) where
  pure _ := .silent fun _ => ⟨rfl, rfl⟩
  bind := .bind h
  ask r _ _ := .ask h r
  judge r _ _ _ := .judge h r
  note _ _ := .silent fun _ => ⟨rfl, rfl⟩
  importer _ _ hcreate := .keep hcreate fun _ _ => rfl

namespace Bridge.Advances

variable {b : Bridge σ} {P : σ → σ → Prop}

/-- A state is missed inside the interpreter only. -/
theorem state (h : b.Advances P) (key : StateKey) : Inside P ManagedState (b.state key) := by
  refine .keep ?_ fun _ _ => rfl
  refine .bind h (.ask h .createState fun _ => rfl) fun token => ?_
  refine .bind h (.ask h (.extendSearchPath token _) fun _ => rfl) fun _ => ?_
  exact .silent fun _ => ⟨rfl, rfl⟩

/-- A call that is passed on makes a request in any case. -/
theorem callObject_lt (h : b.Advances P) (p : Proxy) (operation foreignName : String)
    (arguments : List Value) (s : Session σ) :
    P s.world (b.callObject p operation foreignName arguments s).2.world := by
  obtain ⟨hahead, hfails⟩ := h.carries.marshal p.state.token arguments [] s
  rw [callObject]
  rcases hmarshal : b.marshal p.state.token arguments [] s with ⟨r, t⟩
  rw [hmarshal] at hahead hfails
  cases r with
  | error e =>
      rw [bind_apply_error hmarshal]
      exact (hfails e rfl).2
  | ok marshalled =>
      rw [bind_apply_ok hmarshal]
      have hasked := h.ask_lt (.callMethod p.state.token p.object foreignName marshalled.positional)
        (fun e => .invocation p.interfaceName operation (.raisedBy e foreignName)) t
      rcases hask : b.ask (.callMethod p.state.token p.object foreignName marshalled.positional)
        (fun e => .invocation p.interfaceName operation (.raisedBy e foreignName)) t with ⟨q, u⟩
      rw [hask] at hasked
      have hlt : P s.world u.world := h.ahead_lt hahead hasked
      cases q with
      | error e =>
          rw [bind_apply_error hask]
          exact hlt
      | ok results =>
          rw [bind_apply_ok hask]
          exact h.lt_ahead hlt (h.carries.unmarshal p.state.token results u).1

/-- A call that is forwarded reaches the interpreter. -/
theorem forward_lt (h : b.Advances P) (p : Proxy) (operation foreignName : String)
    (arguments : List Value) (s : Session σ) :
    P s.world (b.forward p operation foreignName arguments s).2.world := by
  have hcall := h.callObject_lt p operation foreignName arguments
    ((s.entered (.opened ⟨p.interfaceName, operation, foreignName, p.state.id⟩)).entered .entered)
  rw [forward_apply]
  revert hcall
  rcases b.callObject p operation foreignName arguments _ with ⟨r, t⟩
  cases r <;> exact fun hlt => hlt

end Bridge.Advances

/-! ## Failures before the interpreter -/

/-- Two sessions in one world and with the same states.  All that was counted in between is a
given list of events. -/
structure Spared (events : List Tally) (s t : Session σ) : Prop where
  world : t.world = s.world
  states : SameStates s.ledger t.ledger
  counters : t.ledger.counters = s.ledger.counters.run events

namespace Spared

variable {first second : List Tally} {s t u : Session σ}

/-- Nothing spares the world and counts nothing. -/
theorem refl (s : Session σ) : Spared [] s s :=
  ⟨rfl, ⟨rfl, rfl, rfl⟩, rfl⟩

/-- What spares the world twice spares it, and counts both times. -/
theorem trans (h : Spared first s t) (h' : Spared second t u) : Spared (first ++ second) s u := by
  refine ⟨h'.world.trans h.world, h.states.trans h'.states, ?_⟩
  rw [Counters.run_append, ← h.counters, h'.counters]

end Spared

/-- The early errors are those of configuration, of the generation of proxies and of a number of
declared arguments. -/
theorem BridgeError.isEarly_iff {e : BridgeError} :
    e.isEarly = true ↔ e.kind = "configuration" ∨ e.kind = "proxy_generation" ∨
      ∃ className declared supplied,
        e = .instantiation className (.constructorArity declared supplied) := by
  cases e with
  | instantiation className cause => cases cause <;> simp [isEarly, kind]
  | _ => simp [isEarly, kind]

namespace Bridge

variable (b : Bridge σ)

/-- A wrong number of declared arguments is an early error. -/
theorem isEarly_of_checkDeclared {binding : Binding} {supplied : Nat} {e : BridgeError}
    (h : b.checkDeclared binding supplied = .error e) : e.isEarly = true := by
  rw [error_of_checkDeclared h]
  rfl

/-- Getting an interface spares the world, whether or not the interface is valid. -/
theorem interface_spared (key : InterfaceKey) (i : Interface) (s : Session σ) :
    Spared [] s (b.interface key i s).2 ∧
      ∀ e, (b.interface key i s).1 = .error e → e.isEarly = true := by
  obtain ⟨houtcome, hworld, -, hstates⟩ := b.interface_outcome key i s
  refine ⟨⟨hworld, hstates, ?_⟩, fun e he => ?_⟩
  · rw [interface_apply]
    cases s.ledger.interfaces.find? key with
    | some kept => rfl
    | none => cases i.validate <;> rfl
  · have hkind := Ledger.kind_of_validation (houtcome.symm.trans he)
    exact BridgeError.isEarly_iff.mpr (.inl hkind)

/-- So does getting a dispatch table, which counts nothing when there is none. -/
theorem proxyType_spared (key : InterfaceKey) (i : Interface) (s : Session σ) :
    (b.proxyType key i s).2.world = s.world ∧
      ∀ e, (b.proxyType key i s).1 = .error e →
        e.isEarly = true ∧ Spared [] s (b.proxyType key i s).2 := by
  obtain ⟨houtcome, hworld, hstates⟩ := b.proxyType_outcome key i s
  refine ⟨hworld, fun e he => ⟨?_, hworld, hstates, ?_⟩⟩
  · have hkind := Ledger.kind_of_tableFor (houtcome.symm.trans he)
    exact BridgeError.isEarly_iff.mpr (.inr (.inl hkind))
  · rw [proxyType_apply] at he ⊢
    cases hfound : s.ledger.proxyTypes.find? key with
    | some kept =>
        rw [hfound] at he
        cases he
    | none =>
        cases hbuild : ProxyType.build key i with
        | error e' => rfl
        | ok type =>
            rw [hfound, hbuild] at he
            cases he

end Bridge

/-! ## Both kinds of failures -/

/-- An end that is reached from a session, if it is a failure, either spares the world or lies
behind a request. -/
def Divided (P : σ → σ → Prop) (events : List Tally) (s : Session σ)
    (q : Except BridgeError α × Session σ) : Prop :=
  ∀ e, q.1 = .error e → if e.isEarly then Spared events s q.2 else P s.world q.2.world

namespace Divided

variable {b : Bridge σ} {P : σ → σ → Prop} {s t : Session σ}

/-- Failures inside the interpreter lie behind a request. -/
theorem of_inside {a : Action σ α} (h : Inside P α a) (hworld : t.world = s.world) :
    Divided P [] s (a t) := by
  intro e he
  obtain ⟨hlate, hlt⟩ := (h t).2 e he
  rw [hworld] at hlt
  rwa [hlate]

/-- An early error has spared the world. -/
theorem early {e : BridgeError} (hearly : e.isEarly = true) (hst : Spared [] s t) :
    Divided P [] s ((.error e, t) : Except BridgeError α × Session σ) := by
  intro e' he'
  cases he'
  rwa [hearly]

/-- What is divided after an action that spares the world is divided from the start. -/
theorem after {q : Except BridgeError α × Session σ} (hst : Spared [] s t)
    (h : Divided P [] t q) : Divided P [] s q := by
  intro e he
  have hdivided := h e he
  cases hearly : e.isEarly with
  | true =>
      rw [hearly] at hdivided
      exact hst.trans hdivided
  | false =>
      rw [hearly] at hdivided
      rwa [hst.world] at hdivided

/-- A check whose error is early may come before anything with divided failures. -/
theorem check {r : Except BridgeError α} {f : α → Action σ β}
    (hearly : ∀ e, r = .error e → e.isEarly = true) (hf : ∀ x, Divided P [] s (f x s)) :
    Divided P [] s ((liftM r >>= f) s) := by
  cases hr : r with
  | error e =>
      rw [bind_apply_error (lift_apply _ s)]
      exact early (hearly e hr) (.refl s)
  | ok x =>
      rw [bind_apply_ok (lift_apply _ s)]
      exact hf x

/-- So may an interface, which is checked when it is new. -/
theorem interface (key : InterfaceKey) (i : Interface) {f : Interface → Action σ β}
    (hf : ∀ kept t, Divided P [] t (f kept t)) :
    Divided P [] s ((b.interface key i >>= f) s) := by
  obtain ⟨hspared, hearly⟩ := b.interface_spared key i s
  rcases h : b.interface key i s with ⟨r, t⟩
  rw [h] at hspared hearly
  cases r with
  | error e =>
      rw [bind_apply_error h]
      exact early (hearly e rfl) hspared
  | ok kept =>
      rw [bind_apply_ok h]
      exact after hspared (hf kept t)

/-- A new dispatch table is counted, so only a failure inside the interpreter may follow. -/
theorem proxyType (key : InterfaceKey) (i : Interface) {f : ProxyType → Action σ β}
    (hf : ∀ type, Inside P β (f type)) : Divided P [] s ((b.proxyType key i >>= f) s) := by
  obtain ⟨hworld, hfails⟩ := b.proxyType_spared key i s
  rcases h : b.proxyType key i s with ⟨r, t⟩
  rw [h] at hworld hfails
  cases r with
  | error e =>
      obtain ⟨hearly, hspared⟩ := hfails e rfl
      rw [bind_apply_error h]
      exact early hearly hspared
  | ok type =>
      rw [bind_apply_ok h]
      exact of_inside (hf type) hworld

/-- A failure that is observed is counted. -/
theorem observed {a : Action σ α} (h : Divided P [] s (a s)) (operation subject : String) :
    Divided P [.failed] s (Bridge.observed operation subject a s) := by
  intro e he
  rw [observed_outcome] at he
  have hdivided := h e he
  rw [observed_apply]
  rcases hend : a s with ⟨r, t⟩
  rw [hend] at he hdivided
  cases he
  cases hearly : e.isEarly with
  | false =>
      rw [hearly] at hdivided
      exact hdivided
  | true =>
      rw [hearly] at hdivided
      have hcounted : Spared [.failed] t ((t.counted .failed).entered
          (.notice (.operationFailed operation subject e))) := ⟨rfl, ⟨rfl, rfl, rfl⟩, rfl⟩
      exact hdivided.trans hcounted

end Divided

/-! ## Operations -/

namespace Bridge.Advances

variable {b : Bridge σ} {P : σ → σ → Prop}

/-- The failures of a new instance behind a proxy are divided. -/
theorem instantiateProxy_divided (h : b.Advances P) (key : InterfaceKey) (own : StateKey)
    (i : Interface) (arguments : List Value) (keywords : List (String × Value)) (s : Session σ) :
    Divided P [] s (b.instantiateProxy key own i arguments keywords s) := by
  rw [instantiateProxy_eq]
  have hbinding (e : BridgeError) (he : i.requireBinding = .error e) : e.isEarly = true :=
    BridgeError.isEarly_iff.mpr (.inl (Interface.kind_of_requireBinding he))
  refine .check hbinding fun binding => .check (fun e => b.isEarly_of_checkDeclared) fun _ => ?_
  refine .proxyType key i fun type => ?_
  refine .bind h (h.state (b.stateKey own)) fun m => ?_
  refine .bind h (h.carries.newObject m binding arguments keywords) fun object => ?_
  exact .silent fun _ => ⟨rfl, rfl⟩

/-- So are those of a new instance in native form, which are counted. -/
theorem createInstance_divided (h : b.Advances P) (target : Target α)
    (moduleName className : String) (arguments : List Value) (s : Session σ) :
    Divided P [.failed] s (b.createInstance target moduleName className arguments s) := by
  have hbinding (e : BridgeError)
      (he : Binding.validate ⟨moduleName, className, []⟩ target.type.name = .error e) :
      e.isEarly = true :=
    BridgeError.isEarly_iff.mpr (.inl (Binding.kind_of_validate he))
  refine .observed (.check hbinding fun _ => .of_inside ?_ rfl) _ _
  refine .bind h (h.state _) fun m => ?_
  refine .bind h (h.carries.newObject m _ arguments []) fun object => ?_
  refine .bind h (h.carries.coerceTo m.token object target) fun x => ?_
  exact .silent fun _ => ⟨rfl, rfl⟩

/-- A creation that fails has either spared the world or made a request. -/
theorem perform_divided (h : b.Advances P) {c : Call} (hbuilds : c.builds = true)
    (s : Session σ) : Divided P [.failed] s (c.perform b s) := by
  cases c with
  | createInstance target moduleName className arguments =>
      exact h.createInstance_divided target moduleName className arguments s
  | createProxy i arguments keywords =>
      exact .observed (.interface _ _ fun kept t =>
        h.instantiateProxy_divided _ _ kept arguments keywords t) _ _
  | createDynamicProxy i arguments =>
      exact .observed (.interface _ _ fun kept t =>
        h.instantiateProxy_divided _ _ kept arguments [] t) _ _
  | wrap i object m =>
      exact .observed (.interface _ _ fun kept t =>
        .proxyType _ kept fun type => .silent fun _ => ⟨rfl, rfl⟩) _ _
  | _ => cases hbuilds

/-- An operation that has a route makes a request in any case. -/
theorem invoke_lt (h : b.Advances P) {p : Proxy} {operation : String} {arguments : List Value}
    (hroute : (p.route operation arguments.length).isOk = true) (s : Session σ) :
    P s.world (b.invoke p operation arguments s).2.world := by
  cases hfound : p.route operation arguments.length with
  | error e =>
      rw [hfound] at hroute
      cases hroute
  | ok route =>
      rw [b.invoke_of_route hfound]
      exact h.forward_lt p operation route.foreignName arguments s

end Bridge.Advances

/-! ## The scripted host -/

namespace Bridge

/-- The host counts every request, and counts nothing back. -/
theorem onHost_advances (c : Configuration) (e : Environment) :
    (onHost c e).Advances fun h h' => h.interactions < h'.interactions where
  trans := Nat.lt_trans
  request := Host.interactions_lt

end Bridge

end ObjectBridge
