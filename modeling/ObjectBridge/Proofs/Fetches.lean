import ObjectBridge.Proofs.Coherence

/-!
# Fetches

Three things are kept by key and created on the first use of their key: interfaces,
dispatch tables and states.  A fetch is such a use.  It has two steps, a lookup and,
after a miss, an entry, which looks again before it creates anything.

Main results:

- Definitions `Fetch.perform`, `Fetch.create`, `Fetch.enter`: the use, the creation
  and the second step.
- Theorem `Fetch.enter_goes`: the three ways in which an entry can go, wherever the
  lookup before it took place.
- Theorems `Ledger.Adds.at?_eq`, `Ledger.Adds.audited`: what one more thing in the
  ledger changes, and what stays true of its numbers and counters.
-/

namespace ObjectBridge

variable {σ α β : Type}

/-! ## What is kept where -/

/-- A key of one of the caches. -/
inductive Slot where
  | interface (key : InterfaceKey)
  | proxyType (key : InterfaceKey)
  | state (key : StateKey)
deriving DecidableEq

/-- What is kept in a slot. -/
inductive Kept where
  | interface (i : Interface)
  | proxyType (t : ProxyType)
  | state (m : ManagedState)

namespace Kept

def interface? : Kept → Option Interface
  | interface i => some i
  | _ => none

def proxyType? : Kept → Option ProxyType
  | proxyType t => some t
  | _ => none

def state? : Kept → Option ManagedState
  | state m => some m
  | _ => none

end Kept

namespace Ledger

/-- What the ledger holds in a slot. -/
def at? (l : Ledger) : Slot → Option Kept
  | .interface key => (l.interfaces.find? key).map .interface
  | .proxyType key => (l.proxyTypes.find? key).map .proxyType
  | .state key => (l.states.find? key).map .state

/-- A ledger to which something new is added.  A table and a state are counted, and a state takes
the next number. -/
inductive Adds (l : Ledger) : Slot → Kept → Ledger → Prop where
  | interface {key : InterfaceKey} {i : Interface} :
      Adds l (.interface key) (.interface i) { l with interfaces := l.interfaces.add key i }
  | proxyType {key : InterfaceKey} {t : ProxyType} :
      Adds l (.proxyType key) (.proxyType t)
        { l with
          proxyTypes := l.proxyTypes.add key t
          counters := l.counters.record .proxyTypeGenerated }
  | state {key : StateKey} {m : ManagedState} (number : m.number = l.nextState) :
      Adds l (.state key) (.state m) (l.keepState key m)

/-- Lookups in a cache with one more value, read through a function. -/
theorem map_find?_add {κ : Type} [DecidableEq κ] (c : Cache κ α) (key other : κ) (value : α)
    (f : α → β) :
    ((c.add key value).find? other).map f =
      ((c.find? other).map f).or (if key = other then some (f value) else none) := by
  rw [Cache.find?_add]
  cases c.find? other <;> by_cases h : key = other <;> simp [h]

/-- Something new is found in its own slot, and nothing else is found elsewhere. -/
theorem Adds.at?_eq {l l' : Ledger} {slot : Slot} {x : Kept} (h : l.Adds slot x l')
    (other : Slot) : l'.at? other = (l.at? other).or (if slot = other then some x else none) := by
  cases h <;> cases other <;>
    simp only [at?, keepState, map_find?_add, Slot.interface.injEq, Slot.proxyType.injEq,
      Slot.state.injEq, reduceCtorEq, if_false, Option.or_none]

/-- What is added to a ledger is there. -/
theorem Adds.at?_self {l l' : Ledger} {slot : Slot} {x : Kept} (h : l.Adds slot x l')
    (hmissing : l.at? slot = none) : l'.at? slot = some x := by
  rw [h.at?_eq, hmissing, if_pos rfl, Option.none_or]

/-- What was there in a ledger stays there. -/
theorem Adds.at?_of_some {l l' : Ledger} {slot other : Slot} {x y : Kept} (h : l.Adds slot x l')
    (hkept : l.at? other = some y) : l'.at? other = some y := by
  rw [h.at?_eq, hkept, Option.some_or]

/-! ## The books of a ledger -/

/-- The ledger after some interfaces, tables and states were ever created, in these orders: the
numbers of the states go up from one without a gap, the counters agree with the numbers of states
and tables, and nothing is lost but the states that were released. -/
structure Books (l : Ledger) (interfaces : List Interface) (proxyTypes : List ProxyType)
    (states : List ManagedState) : Prop where
  interfacesKept : l.interfaces.entries.map Prod.snd = interfaces
  proxyTypesKept : l.proxyTypes.entries.map Prod.snd = proxyTypes
  proxyTypesGenerated : l.counters.proxyTypesGenerated = .ofNat proxyTypes.length
  statesKept : l.states.entries.map Prod.snd <:+ states
  statesCreated : l.counters.statesCreated = .ofNat states.length
  numbers : states.map ManagedState.number =
    (List.range' 1 states.length).map StateNumber.nth
  nextState : l.nextState = .nth (states.length + 1)

/-- A value that is added is the last one. -/
theorem values_add {κ : Type} (c : Cache κ α) (key : κ) (value : α) :
    (c.add key value).entries.map Prod.snd = c.entries.map Prod.snd ++ [value] :=
  List.map_append

/-- The books of a new ledger are empty. -/
theorem books_new : Ledger.new.Books [] [] [] where
  interfacesKept := rfl
  proxyTypesKept := rfl
  proxyTypesGenerated := rfl
  statesKept := List.suffix_rfl
  statesCreated := rfl
  numbers := rfl
  nextState := rfl

namespace Books

variable {l : Ledger} {interfaces : List Interface} {proxyTypes : List ProxyType}
  {states : List ManagedState}

/-- Released states are in the books still. -/
theorem release (h : l.Books interfaces proxyTypes states) :
    { l with states := .empty }.Books interfaces proxyTypes states :=
  { h with statesKept := List.nil_suffix }

/-- An interface that is added is entered last. -/
theorem addInterface (h : l.Books interfaces proxyTypes states) (key : InterfaceKey)
    (i : Interface) :
    { l with interfaces := l.interfaces.add key i }.Books (interfaces ++ [i]) proxyTypes states :=
  { h with interfacesKept := by rw [values_add, h.interfacesKept] }

/-- So is a proxy type. -/
theorem addProxyType (h : l.Books interfaces proxyTypes states) (key : InterfaceKey)
    (t : ProxyType) :
    { l with
      proxyTypes := l.proxyTypes.add key t
      counters := l.counters.record .proxyTypeGenerated }.Books
      interfaces (proxyTypes ++ [t]) states :=
  { h with
    proxyTypesKept := by rw [values_add, h.proxyTypesKept]
    proxyTypesGenerated := by
      rw [List.length_append, UInt64.ofNat_add, ← h.proxyTypesGenerated]
      rfl }

/-- So is a state, if it has the number that was next. -/
theorem addState (h : l.Books interfaces proxyTypes states) (key : StateKey) {m : ManagedState}
    (hnumber : m.number = l.nextState) :
    (l.keepState key m).Books interfaces proxyTypes (states ++ [m]) :=
  { h with
    statesKept := by
      obtain ⟨released, hreleased⟩ := h.statesKept
      refine ⟨released, ?_⟩
      rw [keepState, values_add, ← List.append_assoc, hreleased]
    statesCreated := by
      rw [List.length_append, UInt64.ofNat_add, ← h.statesCreated]
      rfl
    numbers := by
      rw [List.map_append, h.numbers, List.length_append, List.length_singleton,
        List.range'_1_concat, List.map_append, List.map_singleton, List.map_singleton, hnumber,
        h.nextState, Nat.add_comm]
    nextState := by
      rw [List.length_append, keepState, h.nextState, StateNumber.next_nth]
      rfl }

end Books

/-- The ledger after all that was ever created, in this order. -/
def Audited (l : Ledger) (created : List Kept) : Prop :=
  l.Books (created.filterMap Kept.interface?) (created.filterMap Kept.proxyType?)
    (created.filterMap Kept.state?)

/-- The books stay in order when something new is added. -/
theorem Adds.audited {l l' : Ledger} {slot : Slot} {x : Kept} (hadds : l.Adds slot x l')
    {created : List Kept} (h : l.Audited created) : l'.Audited (created ++ [x]) := by
  rw [Audited, List.filterMap_append, List.filterMap_append, List.filterMap_append]
  cases hadds with
  | @interface key i =>
      have hbooks := h.addInterface key i
      simpa [List.filterMap_cons, Kept.interface?, Kept.proxyType?, Kept.state?] using hbooks
  | @proxyType key t =>
      have hbooks := h.addProxyType key t
      simpa [List.filterMap_cons, Kept.interface?, Kept.proxyType?, Kept.state?] using hbooks
  | @state key m hnumber =>
      have hbooks := h.addState key hnumber
      simpa [List.filterMap_cons, Kept.interface?, Kept.proxyType?, Kept.state?] using hbooks

end Ledger

/-! ## The steps of a fetch -/

/-- What the ledger holds under a key, made on its first use, after a lookup that missed it. -/
def keepMissed {κ : Type} [DecidableEq κ] (place : Cache.Place (Session σ) κ α) (key : κ)
    (create : Action σ α) : Action σ α :=
  Cache.enter place key create

/-- A use of a key, with what is put there if nothing is. -/
inductive Fetch where
  | interface (key : InterfaceKey) (i : Interface)
  | proxyType (key : InterfaceKey) (i : Interface)
  | state (key : StateKey)

namespace Fetch

/-- Where a fetch looks. -/
def slot : Fetch → Slot
  | interface key _ => .interface key
  | proxyType key _ => .proxyType key
  | state key => .state key

/-- The operation of the bridge. -/
def perform (b : Bridge σ) : Fetch → Action σ Kept
  | interface key i => Kept.interface <$> b.interface key i
  | proxyType key i => Kept.proxyType <$> b.proxyType key i
  | state key => Kept.state <$> b.state key

/-- The creation of what is fetched. -/
def create (b : Bridge σ) : Fetch → Action σ Kept
  | interface _ i => Kept.interface <$> Bridge.checkInterface i
  | proxyType key i => Kept.proxyType <$> Bridge.createProxyType key i
  | state key => Kept.state <$> b.createState key

/-- The step after a lookup that found nothing. -/
def enter (b : Bridge σ) : Fetch → Action σ Kept
  | interface key i =>
    Kept.interface <$> keepMissed Ledger.interfacesPlace key (Bridge.checkInterface i)
  | proxyType key i =>
    Kept.proxyType <$> keepMissed Ledger.proxyTypesPlace key (Bridge.createProxyType key i)
  | state key => Kept.state <$> keepMissed Ledger.statesPlace key (b.createState key)

end Fetch

/-- A result that is mapped leaves the session as it was left. -/
theorem map_apply (f : α → β) (a : Action σ α) (s : Session σ) :
    (f <$> a) s = ((a s).1.map f, (a s).2) := by
  rw [map_eq_pure_bind, bind_apply]
  rcases a s with ⟨r, t⟩
  cases r <;> rfl

/-- An entry does all that a fetch does: it does not rely on the lookup before it. -/
theorem keepMissed_eq_keep {κ : Type} [DecidableEq κ] (place : Cache.Place (Session σ) κ α)
    (key : κ) (create : Action σ α) : keepMissed place key create = keep place key create := by
  funext s
  have here : (getThe (Session σ) : Action σ (Session σ)) s = (.ok s, s) := rfl
  rw [keep, Cache.fetch, bind_apply, here]
  cases h : (place.read s).find? key with
  | none => simp only [h, keepMissed]
  | some x =>
      rw [keepMissed, Cache.enter, bind_apply, here]
      simp only [h]

/-- Where nothing is kept under a key, a use of it ends as the creation does. -/
theorem keep_outcome_of_missing {κ : Type} [DecidableEq κ] {place : Cache.Place (Session σ) κ α}
    {key : κ} {create : Action σ α} {s : Session σ} (h : (place.read s).find? key = none) :
    (keep place key create s).1 = (create s).1 := by
  rw [keep_apply, h]
  rcases create s with ⟨r, t⟩
  cases r <;> rfl

namespace Fetch

variable {b : Bridge σ} {s : Session σ} {f : Fetch} {x : Kept}

/-- To enter a fetch is to perform it: what is there already is looked up first. -/
theorem enter_eq_perform (b : Bridge σ) (f : Fetch) : f.enter b = f.perform b := by
  cases f with
  | interface key i => rw [enter, perform, Bridge.interface, keepMissed_eq_keep]
  | proxyType key i => rw [enter, perform, Bridge.proxyType, keepMissed_eq_keep]
  | state key => rw [enter, perform, Bridge.state, keepMissed_eq_keep]

/-- What is there is fetched without a change. -/
theorem perform_found (h : s.ledger.at? f.slot = some x) : f.perform b s = (.ok x, s) := by
  cases f with
  | interface key i =>
      obtain ⟨kept, hkept, rfl⟩ := Option.map_eq_some_iff.mp h
      rw [perform, map_apply, Bridge.interface_apply, hkept]
      rfl
  | proxyType key i =>
      obtain ⟨kept, hkept, rfl⟩ := Option.map_eq_some_iff.mp h
      rw [perform, map_apply, Bridge.proxyType_apply, hkept]
      rfl
  | state key =>
      obtain ⟨kept, hkept, rfl⟩ := Option.map_eq_some_iff.mp h
      rw [perform, map_apply, Bridge.state_kept hkept]
      rfl

/-- What is missing is fetched as it is created. -/
theorem perform_outcome_of_missing (h : s.ledger.at? f.slot = none) :
    (f.perform b s).1 = (f.create b s).1 := by
  cases f with
  | interface key i =>
      have hnone : (Ledger.interfacesPlace.read s).find? key = none := Option.map_eq_none_iff.mp h
      rw [perform, create, map_apply, map_apply, Bridge.interface, keep_outcome_of_missing hnone]
  | proxyType key i =>
      have hnone : (Ledger.proxyTypesPlace.read s).find? key = none := Option.map_eq_none_iff.mp h
      rw [perform, create, map_apply, map_apply, Bridge.proxyType, keep_outcome_of_missing hnone]
  | state key =>
      have hnone : (Ledger.statesPlace.read s).find? key = none := Option.map_eq_none_iff.mp h
      rw [perform, create, map_apply, map_apply, Bridge.state, keep_outcome_of_missing hnone]

/-- What a use of an empty slot does to the ledger: nothing if it fails, and otherwise it adds what
it returns. -/
theorem perform_ledger_of_missing (b : Bridge σ) (h : s.ledger.at? f.slot = none) :
    (∃ e, (f.perform b s).1 = .error e ∧ (f.perform b s).2.ledger = s.ledger) ∨
      ∃ x, (f.perform b s).1 = .ok x ∧ s.ledger.Adds f.slot x (f.perform b s).2.ledger := by
  cases f with
  | interface key i =>
      have hnone : s.ledger.interfaces.find? key = none := Option.map_eq_none_iff.mp h
      rw [perform, map_apply, Bridge.interface_apply, hnone]
      cases i.validate with
      | error e => exact .inl ⟨e, rfl, rfl⟩
      | ok _ => exact .inr ⟨_, rfl, .interface⟩
  | proxyType key i =>
      have hnone : s.ledger.proxyTypes.find? key = none := Option.map_eq_none_iff.mp h
      rw [perform, map_apply, Bridge.proxyType_apply, hnone]
      cases ProxyType.build key i with
      | error e => exact .inl ⟨e, rfl, rfl⟩
      | ok t => exact .inr ⟨_, rfl, .proxyType⟩
  | state key =>
      have hnone : s.ledger.states.find? key = none := Option.map_eq_none_iff.mp h
      have houtcome := state_outcome b key s
      rw [perform, map_apply]
      generalize (b.state key s).1 = r at houtcome ⊢
      generalize (b.state key s).2.ledger = l at houtcome ⊢
      cases houtcome with
      | kept found =>
          rw [hnone] at found
          cases found
      | refused => exact .inl ⟨_, rfl, rfl⟩
      | made _ id => exact .inr ⟨_, rfl, .state id⟩

/-- How an entry goes: something is there by now, nothing can be created, or what is created is
kept. -/
inductive Goes (b : Bridge σ) (f : Fetch) (s : Session σ) :
    Except BridgeError Kept → Session σ → Prop where
  | found {x : Kept} (kept : s.ledger.at? f.slot = some x) : Goes b f s (.ok x) s
  | failed {e : BridgeError} {t : Session σ} (missing : s.ledger.at? f.slot = none)
      (refused : (f.create b s).1 = .error e) (same : t.ledger = s.ledger) :
      Goes b f s (.error e) t
  | made {x : Kept} {t : Session σ} (missing : s.ledger.at? f.slot = none)
      (created : (f.create b s).1 = .ok x) (adds : s.ledger.Adds f.slot x t.ledger) :
      Goes b f s (.ok x) t

/-- Every entry goes in one of these ways. -/
theorem enter_goes (b : Bridge σ) (f : Fetch) (s : Session σ) :
    Goes b f s (f.enter b s).1 (f.enter b s).2 := by
  rw [enter_eq_perform]
  cases hfound : s.ledger.at? f.slot with
  | some x =>
      rw [perform_found hfound]
      exact .found hfound
  | none =>
      have hcreate := perform_outcome_of_missing (b := b) hfound
      obtain ⟨e, houtcome, hsame⟩ | ⟨x, houtcome, hadds⟩ := perform_ledger_of_missing b hfound
      · rw [houtcome] at hcreate ⊢
        exact .failed hfound hcreate.symm hsame
      · rw [houtcome] at hcreate ⊢
        exact .made hfound hcreate.symm hadds

namespace Goes

variable {t : Session σ}

/-- An entry that succeeds returns what is in the slot from then on. -/
theorem current (h : Goes b f s (.ok x) t) : t.ledger.at? f.slot = some x := by
  cases h with
  | found kept => exact kept
  | made missing _ adds => exact adds.at?_self missing

/-- An entry that fails adds nothing. -/
theorem unchanged {e : BridgeError} (h : Goes b f s (.error e) t) : t.ledger = s.ledger := by
  cases h with
  | failed _ _ same => exact same

/-- What is kept in a ledger is kept there by every fetch. -/
theorem persists {outcome : Except BridgeError Kept} (h : Goes b f s outcome t) {slot : Slot}
    {y : Kept} (hkept : s.ledger.at? slot = some y) : t.ledger.at? slot = some y := by
  cases h with
  | found => exact hkept
  | failed _ _ same => rw [same, hkept]
  | made _ _ adds => exact adds.at?_of_some hkept

/-- An entry that creates something adds it and returns it. -/
theorem of_created {outcome : Except BridgeError Kept} (h : Goes b f s outcome t)
    (hmissing : s.ledger.at? f.slot = none) (hcreate : (f.create b s).1 = .ok x) :
    outcome = .ok x ∧ s.ledger.Adds f.slot x t.ledger := by
  cases h with
  | found kept =>
      rw [hmissing] at kept
      cases kept
  | failed _ refused =>
      rw [hcreate] at refused
      cases refused
  | made _ created adds =>
      rw [hcreate] at created
      cases created
      exact ⟨rfl, adds⟩

/-- An entry that creates nothing leaves the ledger as it is. -/
theorem of_not_created {outcome : Except BridgeError Kept} (h : Goes b f s outcome t)
    (hnone : ∀ x, s.ledger.at? f.slot = none → (f.create b s).1 ≠ .ok x) :
    t.ledger = s.ledger := by
  cases h with
  | found => rfl
  | failed _ _ same => exact same
  | made missing created => exact absurd created (hnone _ missing)

end Goes

end Fetch

end ObjectBridge
