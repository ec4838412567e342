import ObjectBridge.Proofs.Coherence
import ObjectBridge.Proofs.Projection
import ObjectBridge.Proofs.TwinSessions

/-!
# Interfaces submitted again

An interface that cannot be used for a proxy is found out at one of three stages:
its binding is invalid, it has none, or no dispatch table can be drawn up for its
operations.  Only the first is found out before the interface is kept.  An invalid
interface thus leaves its name free, as if it had never been submitted; the others
hold it, and every later interface of that name is passed over for them.

Main results:

- Theorem `Bridge.createDynamicProxy_of_kept`: the interface kept under a name is
  used in place of the one submitted.
- Theorem `Bridge.resubmission_of_run`: what becomes of later calls after an
  interface was submitted in vain.
-/

namespace ObjectBridge

variable {σ α : Type}

/-! ## Names nothing was submitted under -/

theorem firstValid_eq_none {key : InterfaceKey} {submissions : List (InterfaceKey × Interface)}
    (h : ∀ entry ∈ submissions, entry.1 ≠ key) : firstValid key submissions = none := by
  rw [firstValid, Option.map_eq_none_iff, List.find?_eq_none]
  intro entry hentry hfound
  rw [decide_eq_true_eq] at hfound
  exact h entry hentry hfound.1

/-- Whether a sequence of calls submits nothing under a key. -/
def Fresh (key : InterfaceKey) (calls : List Call) : Prop :=
  ∀ c ∈ calls, ∀ i, c.submission? ≠ some (key, i)

/-- Nothing is kept under a key that nothing was submitted under. -/
theorem Fresh.interfaces {key : InterfaceKey} {calls : List Call} (h : Fresh key calls)
    (b : Bridge σ) (world : σ) :
    (b.finish (b.start world) calls).ledger.interfaces.find? key = none := by
  rw [b.interfaces_finish (b.start world) calls key]
  refine firstValid_eq_none fun entry hentry hkey => ?_
  obtain ⟨c, hc, hsubmission⟩ := List.mem_filterMap.mp hentry
  exact h c hc entry.2 (by rw [hsubmission, ← hkey])

/-! ## Interfaces that cannot be used -/

/-- Whether a dynamic interface cannot be used for a proxy: its binding is invalid or absent, or no
dispatch table can be drawn up for it. -/
def Interface.Unusable (i : Interface) : Prop :=
  i.validate.isOk = false ∨ i.binding = none ∨ (ProxyType.build (.named i.name) i).isOk = false

namespace Ledger.Coherent

variable {l : Ledger} {key : InterfaceKey} {i : Interface}

/-- No dispatch table is kept for an interface that there is none for. -/
theorem no_proxyType (h : l.Coherent)
    (hkept : ∀ kept, l.interfaces.find? key = some kept → kept = i)
    (hbuild : (ProxyType.build key i).isOk = false) : l.proxyTypes.find? key = none := by
  cases hfound : l.proxyTypes.find? key with
  | none => rfl
  | some type =>
      obtain ⟨hinterface, -, hbuilt⟩ := h.proxyTypes hfound
      rw [hkept _ hinterface] at hbuilt
      rw [hbuilt] at hbuild
      cases hbuild

end Ledger.Coherent

namespace Bridge

/-- Without a binding, or without a dispatch table, there is no new proxy. -/
theorem instantiateProxy_fails (b : Bridge σ) {key : InterfaceKey} (own : StateKey) {i : Interface}
    (arguments : List Value) (keywords : List (String × Value)) {s : Session σ}
    (h : i.binding = none ∨
      s.ledger.proxyTypes.find? key = none ∧ (ProxyType.build key i).isOk = false) :
    (b.instantiateProxy key own i arguments keywords s).1.isOk = false := by
  rw [instantiateProxy_eq]
  cases hbinding : i.requireBinding with
  | error e =>
      rw [bind_apply_error (lift_apply _ s)]
      rfl
  | ok binding =>
      obtain hnone | ⟨hmissing, hbuild⟩ := h
      · rw [Interface.requireBinding_eq_ok_iff, hnone] at hbinding
        cases hbinding
      rw [bind_apply_ok (lift_apply _ s)]
      cases b.checkDeclared binding (arguments.length + keywords.length) with
      | error e =>
          rw [bind_apply_error (lift_apply _ s)]
          rfl
      | ok _ =>
          rw [bind_apply_ok (lift_apply _ s)]
          have htable := b.proxyType_apply key i s
          rw [hmissing] at htable
          cases hbuilt : ProxyType.build key i with
          | ok type =>
              rw [hbuilt] at hbuild
              cases hbuild
          | error e =>
              rw [hbuilt] at htable
              rw [bindProxy, bind_apply_error htable]
              rfl

/-! ## Calls with a name that is held -/

/-- The interface kept under a name is used in place of the one submitted. -/
theorem createDynamicProxy_of_kept (b : Bridge σ) {kept i : Interface} (arguments : List Value)
    {s : Session σ} (h : s.ledger.interfaces.find? (.named i.name) = some kept) :
    b.createDynamicProxy i arguments s =
      observed "create_dynamic_proxy" i.name
        (b.instantiateProxy (.named i.name) (.named i.name) kept arguments []) s := by
  have happly := b.interface_apply (.named i.name) i s
  rw [h] at happly
  rw [createDynamicProxy, observed_apply, observed_apply, register, bind_apply_ok happly]

/-- Two interfaces of a name that is held are all one. -/
theorem createDynamicProxy_same (b : Bridge σ) {kept i j : Interface} (arguments : List Value)
    {s : Session σ} (hname : j.name = i.name)
    (h : s.ledger.interfaces.find? (.named i.name) = some kept) :
    b.createDynamicProxy j arguments s = b.createDynamicProxy i arguments s := by
  have hj : s.ledger.interfaces.find? (.named j.name) = some kept := by rw [hname, h]
  rw [b.createDynamicProxy_of_kept arguments h, b.createDynamicProxy_of_kept arguments hj, hname]

/-- A call with a name that is held by an interface without binding or dispatch table fails. -/
theorem createDynamicProxy_fails (b : Bridge σ) {i : Interface} (arguments : List Value)
    {s : Session σ} (hs : s.ledger.Coherent)
    (h : s.ledger.interfaces.find? (.named i.name) = some i)
    (hunusable : i.binding = none ∨ (ProxyType.build (.named i.name) i).isOk = false) :
    (b.createDynamicProxy i arguments s).1.isOk = false := by
  rw [b.createDynamicProxy_of_kept arguments h, observed_outcome]
  refine b.instantiateProxy_fails _ arguments [] (hunusable.imp_right fun hbuild => ⟨?_, hbuild⟩)
  refine hs.no_proxyType (fun kept hkept => ?_) hbuild
  rw [h] at hkept
  exact (Option.some.inj hkept).symm

/-! ## The first call with a name -/

/-- An invalid interface is submitted in vain: the failure is counted and noticed, and that is
all. -/
theorem createDynamicProxy_invalid (b : Bridge σ) {i : Interface} (arguments : List Value)
    {s : Session σ} (hnew : s.ledger.interfaces.find? (.named i.name) = none) {e : BridgeError}
    (hinvalid : i.validate = .error e) :
    b.createDynamicProxy i arguments s =
      (.error e, (s.counted .failed).entered
        (.notice (.operationFailed "create_dynamic_proxy" i.name e))) := by
  have happly := b.interface_apply (.named i.name) i s
  rw [hnew, hinvalid] at happly
  rw [createDynamicProxy, observed_apply, register, bind_apply_error happly]

/-- A valid interface is used, and kept whether that succeeds or not. -/
theorem createDynamicProxy_valid (b : Bridge σ) {i : Interface} (arguments : List Value)
    {s : Session σ} (hnew : s.ledger.interfaces.find? (.named i.name) = none)
    (hvalid : i.validate.isOk = true) :
    (b.createDynamicProxy i arguments s).2.ledger.interfaces.find? (.named i.name) = some i := by
  have hfinish := b.interfaces_finish s [.createDynamicProxy i arguments] (.named i.name)
  have hfirst : firstValid (.named i.name) [(.named i.name, i)] = some i := by
    rw [firstValid_cons, if_pos ⟨rfl, hvalid⟩]
    rfl
  rw [hnew] at hfinish
  exact hfinish.trans hfirst

theorem createDynamicProxy_unusable (b : Bridge σ) {i : Interface} (arguments : List Value)
    {s : Session σ} (hs : s.ledger.Coherent)
    (hnew : s.ledger.interfaces.find? (.named i.name) = none) (hunusable : i.Unusable) :
    (b.createDynamicProxy i arguments s).1.isOk = false := by
  cases hvalid : i.validate with
  | error e =>
      rw [b.createDynamicProxy_invalid arguments hnew hvalid]
      rfl
  | ok _ =>
      have happly := b.interface_apply (.named i.name) i s
      rw [hnew, hvalid] at happly
      rw [createDynamicProxy, observed_outcome, register, bind_apply_ok happly]
      rw [Interface.Unusable, hvalid] at hunusable
      obtain hinvalid | hnone | hbuild := hunusable
      · cases hinvalid
      · exact b.instantiateProxy_fails _ arguments [] (.inl hnone)
      · refine b.instantiateProxy_fails _ arguments [] (.inr ⟨?_, hbuild⟩)
        refine hs.no_proxyType (fun kept hkept => ?_) hbuild
        rw [hnew] at hkept
        cases hkept

/-! ## Runs -/

/-- An interface that cannot be used is submitted in vain, under a name that nothing was submitted
under before.  If it is invalid, all later calls end as if it had never been submitted.  If it is
not, it is kept as the first one of its name: whatever is called in between, every later interface
of that name is passed over for it, and the call fails. -/
theorem resubmission_of_run (b : Bridge σ) (world : σ) (calls : List Call) (i : Interface)
    (arguments : List Value) (hfresh : Fresh (.named i.name) calls) (hunusable : i.Unusable) :
    let s := b.finish (b.start world) calls
    let t := (b.createDynamicProxy i arguments s).2
    (b.createDynamicProxy i arguments s).1.isOk = false ∧
      (i.validate.isOk = false → ∀ (between : List Call) (c : Call),
        (c.perform b (b.finish t between)).1 = (c.perform b (b.finish s between)).1) ∧
      (i.validate.isOk = true → ∀ (between : List Call) (j : Interface) (arguments' : List Value),
        j.name = i.name →
          b.createDynamicProxy j arguments' (b.finish t between) =
            b.createDynamicProxy i arguments' (b.finish t between) ∧
          (b.createDynamicProxy j arguments' (b.finish t between)).1.isOk = false) := by
  intro s t
  have hs : s.ledger.Coherent := b.finish_coherent world calls
  have hnew : s.ledger.interfaces.find? (.named i.name) = none := hfresh.interfaces b world
  refine ⟨b.createDynamicProxy_unusable arguments hs hnew hunusable, ?_, ?_⟩
  · intro hinvalid between c
    have hsame : SameButRecords s t := by
      cases hvalid : i.validate with
      | ok _ =>
          rw [hvalid] at hinvalid
          cases hinvalid
      | error e =>
          have hfailed := b.createDynamicProxy_invalid arguments hnew hvalid
          exact ⟨(congrArg (fun q => q.2.world) hfailed).symm, _, trivial,
            congrArg (fun q => q.2.ledger) hfailed⟩
    exact (b.perform_sameButRecords (b.finish_sameButRecords hsame between) c).1.symm
  · intro hvalid between j arguments' hname
    have ht : t.ledger.interfaces.find? (.named i.name) = some i :=
      b.createDynamicProxy_valid arguments hnew hvalid
    have hkept := (b.finish_persists t between (.named i.name)).1 i ht
    have hcoherent : (b.finish t between).ledger.Coherent :=
      finish_induction (I := fun s => s.ledger.Coherent) (fun _ c hs => step_coherent c hs) t
        between (step_coherent (.createDynamicProxy i arguments) hs)
    have hsame := b.createDynamicProxy_same arguments' hname hkept
    refine ⟨hsame, ?_⟩
    rw [hsame]
    refine b.createDynamicProxy_fails arguments' hcoherent hkept ?_
    exact hunusable.resolve_left fun hinvalid => by rw [hvalid] at hinvalid; cases hinvalid

end Bridge

/-! ## Roadsters -/

/-- A dynamic interface of cars, under a name of its own. -/
def Car.roadster (binding : Option Binding) (operations : List Operation) : Interface :=
  ⟨"Roadster", binding, operations⟩

/-- An invalid roadster, submitted after a car was made, leaves its name to one that can be used. -/
theorem Car.roadster_resubmitted :
    let b := Bridge.onHost .isolated ⟨none, fun _ => none⟩
    let calls : List Call := [.createProxy Car.interface [] []]
    let s := b.finish (b.start Host.fixtures) calls
    let invalid := roadster (some ⟨"", "Car", []⟩) []
    let usable := roadster (some Car.binding) []
    Fresh (.named invalid.name) calls ∧ invalid.Unusable ∧ invalid.validate.isOk = false ∧
      (b.createDynamicProxy invalid [] s).1.isOk = false ∧
      (b.createDynamicProxy usable [] (b.createDynamicProxy invalid [] s).2).1 =
        (b.createDynamicProxy usable [] s).1 := by
  intro b calls s invalid usable
  have hfresh : Fresh (.named invalid.name) calls := by
    intro c hc i hsubmission
    rw [List.mem_singleton.mp hc] at hsubmission
    cases hsubmission
  have hinvalid : invalid.validate.isOk = false := by decide +kernel
  obtain ⟨hfails, hfree, -⟩ :=
    b.resubmission_of_run Host.fixtures calls invalid [] hfresh (.inl hinvalid)
  have hanswer := hfree hinvalid [] (.createDynamicProxy usable [])
  refine ⟨hfresh, .inl hinvalid, hinvalid, hfails, ?_⟩
  -- Nothing is to be computed here, so the values are put out of sight.
  clear_value usable invalid b
  exact hanswer

/-- A roadster without a binding, or with a method that has no proper name, holds the name against
one that a car can be made of at once. -/
theorem Car.roadster_occupied :
    let b := Bridge.onHost .isolated ⟨none, fun _ => none⟩
    let s := b.start Host.fixtures
    let unbound := roadster none []
    let misnamed := roadster (some Car.binding) [(Operation.forward "plate" 0).renamed "get plate"]
    let usable := roadster (some Car.binding) []
    unbound.binding = none ∧ (ProxyType.build (.named "Roadster") misnamed).isOk = false ∧
      (b.createDynamicProxy usable [] s).1.isOk = true ∧
      ∀ i ∈ [unbound, misnamed], (b.createDynamicProxy i [] s).1.isOk = false ∧
        (b.createDynamicProxy usable [] (b.createDynamicProxy i [] s).2).1.isOk = false := by
  decide +kernel

end ObjectBridge
