import ObjectBridge.Proofs.Lockstep
import ObjectBridge.Proofs.Run

/-!
# Projections of interpreters

An interpreter may keep more in its world than another one and answer just like
it.  A bridge over the one then works like a bridge over the other: it ends alike
and leaves the same ledger.  The trace plays no part in this, and the counters are
written but never read, so what a bridge answers depends on neither.

Main results:

- Definition `Lockstep.projection`: the two bridges are in lockstep.
- Theorem `Lockstep.projection_perform`: every call ends alike on both, and leaves
  the same ledger but for the counters, which stay related.
- Theorem `Bridge.callObject_outcome`: the outcome of a call does not depend on
  the trace.
- Theorem `Bridge.perform_sameButRecords`: no outcome depends on the trace and the
  counters.
-/

namespace ObjectBridge

variable {σ τ α : Type}

/-- An interpreter that answers just like another one, on the part of its world that is left by
a projection. -/
structure Interpreter.Extends (i' : Interpreter τ) (i : Interpreter σ) (f : τ → σ) : Prop where
  answer : ∀ r w, (i'.perform r w).1 = (i.perform r (f w)).1
  world : ∀ r w, f (i'.perform r w).2 = (i.perform r (f w)).2
  clock : ∀ w, i'.clock w = i.clock (f w)

namespace Interpreter.Extends

/-- An interpreter extends itself. -/
theorem refl (i : Interpreter σ) : i.Extends i id :=
  ⟨fun _ _ => rfl, fun _ _ => rfl, fun _ => rfl⟩

end Interpreter.Extends

/-- Lists that are equal item by item are equal. -/
theorem eq_of_forall₂ {xs ys : List α} (h : List.Forall₂ (fun x y => x = y) xs ys) : xs = ys := by
  rwa [List.forall₂_eq_eq_eq] at h

/-- The bridge over another interpreter. -/
def Bridge.over (b : Bridge σ) (i : Interpreter τ) : Bridge τ :=
  ⟨i, b.configuration, b.environment⟩

/-- Ledgers that are the same but for their counters, which are related. -/
def Ledger.Like (k : Counters → Counters → Prop) (l l' : Ledger) : Prop :=
  ∃ c, k l.counters c ∧ l' = { l with counters := c }

/-- A relation between counters that stays when the same events are recorded. -/
def Counters.Keeps (k : Counters → Counters → Prop) : Prop :=
  ∀ ⦃c c'⦄ (tally : Tally), k c c' → k (c.record tally) (c'.record tally)

/-- Equality is kept by whatever is counted. -/
theorem Counters.keeps_eq : Counters.Keeps Eq :=
  fun _ _ tally h => congrArg (Counters.record · tally) h

namespace Ledger.Like

variable {k : Counters → Counters → Prop} {l l' : Ledger}

/-- A ledger is like itself. -/
theorem refl (l : Ledger) : Ledger.Like Eq l l :=
  ⟨l.counters, rfl, rfl⟩

/-- Ledgers that are alike up to equality are equal. -/
theorem eq (h : Ledger.Like Eq l l') : l = l' := by
  obtain ⟨c, rfl, rfl⟩ := h
  rfl

/-- An event that is recorded on both sides keeps ledgers alike. -/
theorem record (hk : Counters.Keeps k) (tally : Tally) (h : Ledger.Like k l l') :
    Ledger.Like k { l with counters := l.counters.record tally }
      { l' with counters := l'.counters.record tally } := by
  obtain ⟨c, hc, rfl⟩ := h
  exact ⟨c.record tally, hk tally hc, rfl⟩

end Ledger.Like

/-- Sessions whose worlds are related by a projection, with ledgers that are the same but for
related counters. -/
def Coupling.projection (f : τ → σ) (k : Counters → Counters → Prop) :
    Coupling (Session σ) (Session τ) where
  rel s t := s.world = f t.world ∧ s.ledger.Like k t.ledger
  grows _ _ _ _ := True
  grows_refl _ _ := trivial
  grows_trans _ _ := trivial

namespace Lockstep

variable {b : Bridge σ} {i : Interpreter τ} {f : τ → σ} {k : Counters → Counters → Prop}
  {s : Session σ} {t : Session τ}

/-- A request is answered as the interpreter that is extended answers it. -/
theorem projection_ask (h : i.Extends b.interpreter f) (hst : (Coupling.projection f k).rel s t)
    (r : Request) :
    (Coupling.projection f k).Asks b (b.over i) r r (fun _ _ => Eq) s t := by
  intro failure
  obtain ⟨hworld, hledger⟩ := hst
  have hasked := ask_apply b r failure s
  have hasked' := ask_apply (b.over i) r failure t
  refine ⟨⟨?_, ?_⟩, trivial, ?_⟩
  · rw [hasked, hasked', hworld]
    exact (h.world r t.world).symm
  · rw [hasked, hasked']
    exact hledger
  · rw [hasked, hasked', hworld, ← h.answer r t.world]
    exact .refl (fun _ => rfl) _

/-- Entries in the traces keep sessions related. -/
theorem projection_enter (entry entry' : TraceEntry) :
    (Coupling.projection f k).Moves (·.entered entry) (·.entered entry') :=
  fun _ _ hst => ⟨hst, trivial⟩

/-- A change of the ledger alone keeps sessions related if it keeps ledgers alike. -/
theorem projection_ledger {g : Ledger → Ledger} (hg : ∀ l l', l.Like k l' → (g l).Like k (g l')) :
    (Coupling.projection f k).Moves (fun s => { s with ledger := g s.ledger })
      (fun t => { t with ledger := g t.ledger }) :=
  fun _ _ hst => ⟨⟨hst.1, hg _ _ hst.2⟩, trivial⟩

/-- A change of the ledger that leaves the counters alone. -/
theorem projection_frame {g : Ledger → Ledger}
    (hg : ∀ l c, g { l with counters := c } = { g l with counters := c })
    (hcounters : ∀ l, (g l).counters = l.counters) :
    (Coupling.projection f k).Moves (fun s => { s with ledger := g s.ledger })
      (fun t => { t with ledger := g t.ledger }) := by
  refine projection_ledger fun l l' h => ?_
  obtain ⟨c, hc, rfl⟩ := h
  exact ⟨c, (hcounters l).symm ▸ hc, hg l c⟩

/-- What is no counter is the same in both ledgers. -/
theorem projection_read {g : Ledger → α} (hg : ∀ l c, g { l with counters := c } = g l)
    (hst : (Coupling.projection f k).rel s t) : g s.ledger = g t.ledger := by
  obtain ⟨-, c, -, hledger⟩ := hst
  rw [hledger]
  exact (hg s.ledger c).symm

/-- Events in the counters keep sessions related. -/
theorem projection_count (hk : Counters.Keeps k) (tally : Tally) :
    (Coupling.projection f k).Moves (·.counted tally) (·.counted tally) :=
  projection_ledger fun _ _ => Ledger.Like.record hk tally

/-- A state is got in step. -/
theorem projection_state (h : i.Extends b.interpreter f) (hk : Counters.Keeps k)
    (hst : (Coupling.projection f k).rel s t) (key : StateKey) :
    (Coupling.projection f k).InStep (fun _ _ => Eq) (b.state key) ((b.over i).state key) s t := by
  have hread : ∀ {s : Session σ} {t : Session τ}, (Coupling.projection f k).rel s t →
      Ledger.statesPlace.read s = Ledger.statesPlace.read t :=
    projection_read (g := Ledger.states) fun _ _ => rfl
  refine Coupling.InStep.keep hread (fun c => projection_frame
    (g := fun l => { l with states := c }) (fun _ _ => rfl) fun _ => rfl) key hst ?_
  refine (projection_ask h hst .createState _).bind fun hst₁ _ htoken => ?_
  cases htoken
  refine (projection_ask h hst₁ (.extendSearchPath _ _) _).bind fun {s₂ t₂ _ _} hst₂ _ _ => ?_
  have htake : (Coupling.projection f k).InStep (fun _ _ => Eq) Bridge.takeStateId
      Bridge.takeStateId s₂ t₂ := by
    obtain ⟨hrel, hgrows⟩ :=
      projection_frame (f := f) (k := k) (g := fun l => { l with nextState := l.nextState.next })
        (fun _ _ => rfl) (fun _ => rfl) hst₂
    exact .of_ok (takeStateId_apply s₂) (takeStateId_apply t₂) hrel hgrows
      (projection_read (g := Ledger.nextState) (fun _ _ => rfl) hst₂)
  refine htake.bind fun hst₃ _ hnumber => ?_
  cases hnumber
  exact .of_ok rfl rfl (projection_count hk .stateCreated hst₃).1 trivial rfl

/-- An importer is got in step. -/
theorem projection_importer (h : i.Extends b.interpreter f)
    (hst : (Coupling.projection f k).rel s t) (m : ManagedState) :
    (Coupling.projection f k).InStep (fun _ _ => Eq) (b.importer m) ((b.over i).importer m) s
      t := by
  have hread : ∀ {s : Session σ} {t : Session τ}, (Coupling.projection f k).rel s t →
      Ledger.importersPlace.read s = Ledger.importersPlace.read t :=
    projection_read (g := Ledger.importers) fun _ _ => rfl
  exact Coupling.InStep.keep hread
    (fun c => projection_frame (g := fun l => { l with importers := c }) (fun _ _ => rfl)
      fun _ => rfl) m.number.place hst
    (projection_ask h hst (.builtin m.token Bridge.importerName) _)

/-- A bridge works like the bridge over an interpreter that extends its own. -/
def projection (h : i.Extends b.interpreter f) (hk : Counters.Keeps k) :
    Lockstep b (b.over i) where
  toCoupling := .projection f k
  imported _ _ := Eq
  symbol _ _ := Eq
  object _ _ := Eq
  passed _ _ := Eq
  value _ _ := Eq
  state _ _ := Eq
  carrier _ _ _ := Eq
  imported_stable _ _ _ _ _ _ _ heq := heq
  symbol_stable _ _ _ _ _ _ _ heq := heq
  object_stable _ _ _ _ _ _ _ heq := heq
  passed_stable _ _ _ _ _ _ _ heq := heq
  value_stable _ _ _ _ _ _ _ heq := heq
  state_stable _ _ _ _ _ _ _ heq := heq
  object_typeName heq := congrArg _ heq
  passed_typeName heq := congrArg _ heq
  value_typeName heq := congrArg _ heq
  value_asObject {_ _ v _} heq := by
    cases heq
    cases v.asObject with
    | none => exact .none
    | some o => exact .some rfl
  value_toJson heq := congrArg _ heq
  value_none := rfl
  value_str _ := rfl
  value_list heq := congrArg _ (eq_of_forall₂ heq)
  value_decode type heq := by
    cases heq
    exact .refl (fun _ => rfl) _
  checkArity := rfl
  enter := projection_enter
  count tally := projection_count hk tally
  clock {_ t} hst := by
    rw [hst.1]
    exact (h.clock t.world).symm
  interfaces := projection_read (g := Ledger.interfaces) fun _ _ => rfl
  proxyTypes := projection_read (g := Ledger.proxyTypes) fun _ _ => rfl
  keepInterfaces c := projection_frame (g := fun l => { l with interfaces := c }) (fun _ _ => rfl)
    fun _ => rfl
  keepProxyTypes c := projection_frame (g := fun l => { l with proxyTypes := c }) (fun _ _ => rfl)
    fun _ => rfl
  ownState own hst := projection_state h hk hst (b.stateKey own)
  importer hst hm := by
    cases hm
    exact projection_importer h hst _
  askToForeign hst hm hv := by
    cases hm
    cases hv
    exact projection_ask h hst _
  askImport hst hm hi ha := by
    cases hm
    cases hi
    cases eq_of_forall₂ ha
    exact projection_ask h hst _
  askAttribute name hst hm ho := by
    cases hm
    cases ho
    exact projection_ask h hst _
  askCall hst hm hc ha hk := by
    cases hm
    cases hc
    rename_i a a'
    have hk := hk.imp fun k k' h => (Prod.ext h.1 h.2 : k = k')
    have heq : a = a' := by
      cases a
      cases a'
      cases eq_of_forall₂ ha
      cases eq_of_forall₂ hk
      rfl
    cases heq
    exact projection_ask h hst _
  askMethod name hst hm ho ha := by
    cases hm
    cases ho
    cases eq_of_forall₂ ha
    intro failure
    refine (projection_ask h hst (.callMethod _ _ name _) failure).mono fun heq => ?_
    rw [heq]
    exact List.forall₂_same.mpr fun _ _ => rfl
  askToNative hst hm ho := by
    cases hm
    cases ho
    exact projection_ask h hst _
  askCoerce hst hm ho := by
    cases hm
    cases ho
    exact projection_ask h hst _

/-- Proxies of two bridges one of which projects to the other are the same. -/
theorem projection_proxies (h : i.Extends b.interpreter f) (hk : Counters.Keeps k) {p p' : Proxy}
    (hp : (projection h hk).Proxies s t p p') : p = p' := by
  obtain ⟨htype, hobject, hstate⟩ := hp
  cases p
  cases p'
  cases htype
  cases hobject
  cases hstate
  rfl

/-- Arguments are related to themselves. -/
theorem projection_values (arguments : List Value) :
    List.Forall₂ (fun v v' : Value => v = v') arguments arguments :=
  List.forall₂_same.mpr fun _ _ => rfl

/-- So are arguments with a keyword. -/
theorem projection_keywords (keywords : List (String × Value)) :
    List.Forall₂ (Named (fun (_ : Session σ) (_ : Session τ) (v v' : Value) => v = v') s t)
      keywords keywords :=
  List.forall₂_same.mpr fun _ _ => ⟨rfl, rfl⟩

/-- Every call ends alike over an interpreter and over one that extends it. -/
theorem projection_perform (h : i.Extends b.interpreter f) (hk : Counters.Keeps k)
    (hst : (Coupling.projection f k).rel s t) (c : Call) :
    (Coupling.projection f k).InStep (fun _ _ => Eq) (c.perform b) (c.perform (b.over i)) s t := by
  cases c with
  | createInstance target moduleName className arguments =>
      exact (projection h hk).createInstance target moduleName className hst
        (projection_values arguments)
  | createProxy i arguments keywords =>
      have hstep := (projection h hk).createProxy i hst (projection_values arguments)
        (projection_keywords keywords)
      exact hstep.mono (projection_proxies h hk)
  | createDynamicProxy i arguments =>
      have hstep := (projection h hk).createDynamicProxy i hst (projection_values arguments)
      exact hstep.mono (projection_proxies h hk)
  | wrap i object m =>
      have hstep := (projection h hk).wrap (o := object) (m := m) i hst rfl rfl
      exact hstep.mono (projection_proxies h hk)
  | invoke p operation arguments =>
      exact (projection h hk).invoke operation hst ⟨rfl, rfl, rfl⟩ (projection_values arguments)
  | invokeAs p type operation arguments =>
      exact (projection h hk).invokeAs type operation hst ⟨rfl, rfl, rfl⟩
        (projection_values arguments)
  | invokeMethod p name arguments =>
      exact (projection h hk).invokeMethod name hst ⟨rfl, rfl, rfl⟩ (projection_values arguments)
  | shutdown =>
      have hreleased := projection_frame (f := f) (k := k)
        (g := fun l => { l with states := .empty }) (fun _ _ => rfl) (fun _ => rfl) hst
      exact .of_ok rfl rfl hreleased.1 trivial rfl

end Lockstep

/-! ## What a bridge answers depends neither on the trace nor on the counters -/

/-- Sessions that differ in their counters and their traces at most. -/
def SameButRecords (s t : Session σ) : Prop :=
  s.world = t.world ∧ s.ledger.Like (fun _ _ => True) t.ledger

namespace Bridge

/-- A call of a method ends alike in sessions with the same world and ledger. -/
theorem callObject_outcome (b : Bridge σ) (p : Proxy) (operation foreignName : String)
    (arguments : List Value) {s t : Session σ} (hworld : s.world = t.world)
    (hledger : s.ledger = t.ledger) :
    (b.callObject p operation foreignName arguments s).1 =
      (b.callObject p operation foreignName arguments t).1 := by
  have h := (Lockstep.projection (.refl b.interpreter) Counters.keeps_eq).callObject (p := p)
    operation foreignName ⟨hworld, hledger ▸ .refl s.ledger⟩ ⟨rfl, rfl, rfl⟩
    (List.forall₂_same.mpr fun v (_ : v ∈ arguments) => rfl)
  exact h.agree.eq

/-- A call that is passed on ends as the call of the method does. -/
theorem forward_outcome (b : Bridge σ) (p : Proxy) (operation foreignName : String)
    (arguments : List Value) (s : Session σ) :
    (b.forward p operation foreignName arguments s).1 =
      (b.callObject p operation foreignName arguments s).1 := by
  rw [forward_apply, b.callObject_outcome p operation foreignName arguments (s := s)
    (t := (s.entered (.opened ⟨p.interfaceName, operation, foreignName, p.state.id⟩)).entered
      .entered) rfl rfl]
  rcases b.callObject p operation foreignName arguments _ with ⟨r, t⟩
  cases r <;> rfl

/-- Every call ends alike in sessions that differ in their records, and leaves such sessions. -/
theorem perform_sameButRecords (b : Bridge σ) {s t : Session σ} (h : SameButRecords s t)
    (c : Call) :
    (c.perform b s).1 = (c.perform b t).1 ∧
      SameButRecords (c.perform b s).2 (c.perform b t).2 := by
  have hstep := Lockstep.projection_perform (.refl b.interpreter) (fun _ _ _ _ => trivial) h c
  exact ⟨hstep.agree.eq, hstep.rel⟩

/-- Runs from sessions that differ in their records only end so. -/
theorem finish_sameButRecords (b : Bridge σ) {s t : Session σ} (h : SameButRecords s t)
    (calls : List Call) : SameButRecords (b.finish s calls) (b.finish t calls) := by
  induction calls generalizing s t with
  | nil => exact h
  | cons c calls ih => exact ih (b.perform_sameButRecords h c).2

end Bridge

end ObjectBridge
