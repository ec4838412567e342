import ObjectBridge.Proofs.Ledger
import ObjectBridge.Proofs.Run

/-!
# Coherence of the caches

A bridge keeps the interfaces that were submitted to it and the dispatch tables
drawn up for them, both under the same keys.  An operation may stop between the
two, so that an interface is kept without a table; it never leaves a table without
its interface, and nothing that is kept is ever replaced.

Main results:

- Definition `Ledger.Coherent`: the invariant of the two caches.
- Theorem `Bridge.step_stocks`: what a single call does to them.
- Theorem `Bridge.caches_of_run`: the caches at the end of a run, and what was
  returned from them on the way.
-/

namespace ObjectBridge

variable {σ α β : Type}

/-! ## Keys of a cache -/

namespace Cache

variable {κ : Type} [DecidableEq κ]

/-- The keys of a cache, in the order in which they were first used. -/
def keys (c : Cache κ α) : List κ :=
  c.entries.map Prod.fst

/-- Nothing is found under a key when it is not one of the keys. -/
theorem find?_eq_none_iff {c : Cache κ α} {key : κ} : c.find? key = none ↔ key ∉ c.keys := by
  simp only [find?, keys, Option.map_eq_none_iff, List.find?_eq_none, decide_eq_true_eq,
    List.mem_map, not_exists, not_and]

/-- A value that is added under a new key is found there. -/
theorem find?_add_self {c : Cache κ α} {key : κ} (value : α) (h : c.find? key = none) :
    (c.add key value).find? key = some value := by
  rw [find?_add, h, if_pos rfl]
  rfl

/-- Nothing changes under the other keys. -/
theorem find?_add_of_ne (c : Cache κ α) {key other : κ} (value : α) (h : key ≠ other) :
    (c.add key value).find? other = c.find? other := by
  rw [find?_add, if_neg h, Option.or_none]

/-- What was found is still found. -/
theorem find?_add_of_some {c : Cache κ α} {other : κ} {x : α} (key : κ) (value : α)
    (h : c.find? other = some x) : (c.add key value).find? other = some x := by
  rw [find?_add, h]
  rfl

omit [DecidableEq κ] in
/-- A key that is added is the last one. -/
theorem keys_add (c : Cache κ α) (key : κ) (value : α) :
    (c.add key value).keys = c.keys ++ [key] := by
  simp [keys, add]

/-- Keys stay apart when the one added is new. -/
theorem nodup_keys_add {c : Cache κ α} {key : κ} (value : α) (h : c.find? key = none)
    (hnodup : c.keys.Nodup) : (c.add key value).keys.Nodup := by
  rw [keys_add]
  refine List.nodup_append.mpr ⟨hnodup, by simp, ?_⟩
  intro k hk k' hk' heq
  rw [List.mem_singleton.mp hk'] at heq
  exact find?_eq_none_iff.mp h (heq ▸ hk)

end Cache

/-! ## Invariant and submissions -/

/-- Coherent caches: what is kept is valid and has its own name, and every dispatch table was drawn
up for the interface that is kept under its key. -/
structure Ledger.Coherent (l : Ledger) : Prop where
  valid : ∀ {key i}, l.interfaces.find? key = some i → i.validate = .ok ()
  named : ∀ {name i}, l.interfaces.find? (.named name) = some i → i.name = name
  proxyTypes : ∀ {key t}, l.proxyTypes.find? key = some t →
    l.interfaces.find? key = some t.interface ∧ t.key = key ∧
      ProxyType.build key t.interface = .ok t
  interfaceKeys : l.interfaces.keys.Nodup
  proxyTypeKeys : l.proxyTypes.keys.Nodup

/-- The interfaces kept after one more was submitted: it is kept if it is valid and the first one
under its key. -/
def Ledger.offered (c : Cache InterfaceKey Interface) (key : InterfaceKey) (i : Interface) :
    Cache InterfaceKey Interface :=
  if c.find? key = none ∧ i.validate.isOk then c.add key i else c

/-- An interface that is offered is found under its key, if it is valid and none was there. -/
theorem Ledger.find?_offered (c : Cache InterfaceKey Interface) (key other : InterfaceKey)
    (i : Interface) :
    (Ledger.offered c key i).find? other =
      (c.find? other).or (if key = other ∧ i.validate.isOk then some i else none) := by
  rw [Ledger.offered]
  by_cases hkey : key = other
  · subst hkey
    cases hfound : c.find? key with
    | some kept => simp [hfound]
    | none =>
        by_cases hvalid : i.validate.isOk = true
        · simp [hvalid, Cache.find?_add_self i hfound]
        · simp [hvalid, hfound]
  · have hnone : (if key = other ∧ i.validate.isOk then some i else none) = none :=
      if_neg fun h => hkey h.1
    rw [hnone, Option.or_none]
    split
    · exact c.find?_add_of_ne i hkey
    · rfl

/-- The first valid interface that was submitted under a key. -/
def firstValid (key : InterfaceKey) (submissions : List (InterfaceKey × Interface)) :
    Option Interface :=
  (submissions.find? fun entry => entry.1 = key ∧ entry.2.validate.isOk).map Prod.snd

/-- The first valid interface for a key is the first one submitted for it, if that is valid. -/
theorem firstValid_cons (key own : InterfaceKey) (i : Interface)
    (submissions : List (InterfaceKey × Interface)) :
    firstValid key ((own, i) :: submissions) =
      (if own = key ∧ i.validate.isOk then some i else none).or (firstValid key submissions) := by
  rw [firstValid, List.find?_cons]
  by_cases h : own = key ∧ i.validate.isOk = true <;> simp [h, firstValid]

/-- Two sessions that keep the same interfaces and dispatch tables. -/
def SameCaches (s t : Session σ) : Prop :=
  t.ledger.interfaces = s.ledger.interfaces ∧ t.ledger.proxyTypes = s.ledger.proxyTypes

instance : IsPreorder (Session σ) SameCaches where
  refl _ := ⟨rfl, rfl⟩
  trans _ _ _ h h' := ⟨h'.1.trans h.1, h'.2.trans h.2⟩

/-- On the way to an object the caches stay as they are. -/
theorem tolerates_sameCaches (b : Bridge σ) : b.Tolerates SameCaches where
  preorder := inferInstance
  ask _ _ _ _ := ⟨rfl, rfl⟩
  note _ _ _ := ⟨rfl, rfl⟩
  importers _ _ := ⟨rfl, rfl⟩

namespace SameCaches

/-- Counting an event leaves the caches as they are. -/
theorem count (tally : Tally) : Within SameCaches (ObjectBridge.count tally : Action σ Unit) :=
  fun _ => ⟨rfl, rfl⟩

/-- So does a notice. -/
theorem note (notice : Notice) : Within SameCaches (ObjectBridge.note notice : Action σ Unit) :=
  fun _ => ⟨rfl, rfl⟩

/-- So does a state that is got. -/
theorem state (b : Bridge σ) (key : StateKey) : Within SameCaches (b.state key) := by
  intro s
  have h := state_outcome b key s
  generalize (b.state key s).1 = r at h
  unfold SameCaches
  generalize (b.state key s).2.ledger = l at h ⊢
  cases h <;> exact ⟨rfl, rfl⟩

/-- Counting and noticing a failure touches no cache. -/
theorem observed {a : Action σ α} (h : Within SameCaches a) (operation subject : String) :
    Within SameCaches (Bridge.observed operation subject a) := by
  intro s
  have hs := h s
  rw [observed_apply]
  rcases ht : a s with ⟨r, t⟩
  rw [ht] at hs
  cases r <;> exact hs

/-- All that follows the dispatch table on the way to a new proxy touches no cache. -/
theorem newProxy (b : Bridge σ) (own : StateKey) (i : Interface) (binding : Binding)
    (arguments : List Value) (keywords : List (String × Value)) (type : ProxyType) :
    Within SameCaches (do
      let m ← b.state (b.stateKey own)
      let object ← b.newObject m binding arguments keywords
      ObjectBridge.count .instanceCreated
      ObjectBridge.note (.proxyInstanceCreated i.name binding.qualifiedName m.id)
      return ⟨type, object, m⟩ : Action σ Proxy) := by
  refine .bind (state b _) fun m => ?_
  refine .bind ((tolerates_sameCaches b).carries.newObject m binding arguments keywords) fun _ => ?_
  exact .bind (count _) fun _ => .bind (note _) fun _ => .pure _

/-- So does a new instance in native form. -/
theorem createInstance (b : Bridge σ) (target : Target α) (moduleName className : String)
    (arguments : List Value) :
    Within SameCaches (b.createInstance target moduleName className arguments) := by
  refine observed ?_ _ _
  refine .bind (.lift _) fun _ => .bind (state b _) fun m => ?_
  refine .bind ((tolerates_sameCaches b).carries.newObject m _ arguments []) fun o => ?_
  refine .bind ((tolerates_sameCaches b).carries.coerceTo _ o target) fun _ => ?_
  exact .bind (count _) fun _ => .bind (note _) fun _ => .pure _

/-- So does a call that is forwarded. -/
theorem forward (b : Bridge σ) (p : Proxy) (operation foreignName : String)
    (arguments : List Value) : Within SameCaches (b.forward p operation foreignName arguments) := by
  intro s
  have h := (tolerates_sameCaches b).carries.callObject p operation foreignName arguments
    ((s.entered (.opened ⟨p.interfaceName, operation, foreignName, p.state.id⟩)).entered .entered)
  rw [Bridge.forward_apply]
  revert h
  rcases b.callObject p operation foreignName arguments _ with ⟨r, t⟩
  cases r <;> exact fun h => h

/-- So does an operation, whether it is forwarded or not. -/
theorem invoke (b : Bridge σ) (p : Proxy) (operation : String) (arguments : List Value) :
    Within SameCaches (b.invoke p operation arguments) :=
  .bind (.lift _) fun _ => forward b p operation _ arguments

end SameCaches

/-! ## What creations do to the caches -/

/-- What is done to the caches once the interface of a key is known: at most a dispatch table for
it is added, and a proxy has the table that is kept. -/
structure DrawsUp (key : InterfaceKey) (i : Interface) (s : Session σ)
    (q : Except BridgeError Proxy × Session σ) : Prop where
  interfaces : q.2.ledger.interfaces = s.ledger.interfaces
  proxyTypes : q.2.ledger.proxyTypes = s.ledger.proxyTypes ∨
    ∃ type, s.ledger.proxyTypes.find? key = none ∧ ProxyType.build key i = .ok type ∧
      q.2.ledger.proxyTypes = s.ledger.proxyTypes.add key type
  returned : ∀ p, q.1 = .ok p → q.2.ledger.proxyTypes.find? key = some p.type

namespace DrawsUp

variable {key : InterfaceKey} {i : Interface}

/-- Nothing is drawn up by an action that fails before it reaches the caches. -/
theorem of_error (s : Session σ) (e : BridgeError) : DrawsUp key i s (.error e, s) where
  interfaces := rfl
  proxyTypes := .inl rfl
  returned := by
    intro p hp
    cases hp

/-- A check in front draws nothing up. -/
theorem lift_bind {s : Session σ} (r : Except BridgeError α) {f : α → Action σ Proxy}
    (hf : ∀ x, DrawsUp key i s (f x s)) : DrawsUp key i s ((liftM r >>= f : Action σ Proxy) s) := by
  rw [bind_apply, lift_apply]
  cases r with
  | ok x => exact hf x
  | error e => exact of_error s e

/-- Once a dispatch table is kept, the rest of a creation uses it and touches no cache. -/
theorem of_kept {s t : Session σ} {type : ProxyType} {q : Except BridgeError Proxy × Session σ}
    (hinterfaces : t.ledger.interfaces = s.ledger.interfaces)
    (hproxyTypes : t.ledger.proxyTypes = s.ledger.proxyTypes ∨
      ∃ type, s.ledger.proxyTypes.find? key = none ∧ ProxyType.build key i = .ok type ∧
        t.ledger.proxyTypes = s.ledger.proxyTypes.add key type)
    (hkept : t.ledger.proxyTypes.find? key = some type) (hsame : SameCaches t q.2)
    (hreturns : ∀ p, q.1 = .ok p → p.type = type) : DrawsUp key i s q where
  interfaces := hsame.1.trans hinterfaces
  proxyTypes := by
    rw [hsame.2]
    exact hproxyTypes
  returned := by
    intro p hp
    rw [hsame.2, hreturns p hp]
    exact hkept

/-- A proxy type in front is what is drawn up. -/
theorem proxyType_bind (b : Bridge σ) (s : Session σ) {f : ProxyType → Action σ Proxy}
    (hsame : ∀ type, Within SameCaches (f type))
    (hreturns : ∀ type, Returns (fun p => p.type = type) (f type)) :
    DrawsUp key i s ((b.proxyType key i >>= f) s) := by
  have happly := b.proxyType_apply key i s
  cases hfound : s.ledger.proxyTypes.find? key with
  | some type =>
      rw [hfound] at happly
      rw [bind_apply_ok happly]
      exact of_kept rfl (.inl rfl) hfound (hsame type s) (hreturns type s)
  | none =>
      rw [hfound] at happly
      cases hbuild : ProxyType.build key i with
      | error e =>
          rw [hbuild] at happly
          rw [bind_apply_error happly]
          exact ⟨rfl, .inl rfl, fun p hp => by cases hp⟩
      | ok type =>
          rw [hbuild] at happly
          rw [bind_apply_ok happly]
          refine of_kept ?_ (.inr ⟨type, hfound, hbuild, ?_⟩) ?_ (hsame type _) (hreturns type _)
          · rfl
          · rfl
          · exact Cache.find?_add_self type hfound

/-- A new instance behind a proxy draws up the type for its key at most. -/
theorem instantiateProxy (b : Bridge σ) (own : StateKey) (arguments : List Value)
    (keywords : List (String × Value)) (s : Session σ) :
    DrawsUp key i s (b.instantiateProxy key own i arguments keywords s) := by
  rw [Bridge.instantiateProxy_eq]
  refine lift_bind _ fun binding => lift_bind _ fun _ => ?_
  refine proxyType_bind b s (SameCaches.newProxy b own i binding arguments keywords) fun type => ?_
  exact .bind _ fun m => .bind _ fun object => .bind _ fun _ => .bind _ fun _ => .pure rfl

end DrawsUp

/-- What a creation does to the caches: its interface is offered, and at most a dispatch table for
the interface that is kept is added. -/
structure Stocks (key : InterfaceKey) (i : Interface) (s : Session σ)
    (q : Except BridgeError Proxy × Session σ) : Prop where
  interfaces : q.2.ledger.interfaces = Ledger.offered s.ledger.interfaces key i
  proxyTypes : q.2.ledger.proxyTypes = s.ledger.proxyTypes ∨
    ∃ kept type, q.2.ledger.interfaces.find? key = some kept ∧
      s.ledger.proxyTypes.find? key = none ∧ ProxyType.build key kept = .ok type ∧
      q.2.ledger.proxyTypes = s.ledger.proxyTypes.add key type
  returned : ∀ p, q.1 = .ok p → q.2.ledger.proxyTypes.find? key = some p.type

namespace Stocks

variable {key : InterfaceKey} {i : Interface}

/-- What is drawn up for the interface that is kept stocks the caches. -/
theorem of_drawsUp {s t : Session σ} {kept : Interface} {q : Except BridgeError Proxy × Session σ}
    (hinterfaces : t.ledger.interfaces = Ledger.offered s.ledger.interfaces key i)
    (hproxyTypes : t.ledger.proxyTypes = s.ledger.proxyTypes)
    (hkept : t.ledger.interfaces.find? key = some kept) (h : DrawsUp key kept t q) :
    Stocks key i s q where
  interfaces := h.interfaces.trans hinterfaces
  proxyTypes := by
    rw [← hproxyTypes, h.interfaces]
    exact h.proxyTypes.imp_right fun ⟨type, htype⟩ => ⟨kept, type, hkept, htype⟩
  returned := h.returned

/-- An interface in front stocks the caches together with what is drawn up for it. -/
theorem interface_bind (b : Bridge σ) (s : Session σ) {f : Interface → Action σ Proxy}
    (hf : ∀ kept t, DrawsUp key kept t (f kept t)) :
    Stocks key i s ((b.interface key i >>= f) s) := by
  have happly := b.interface_apply key i s
  cases hfound : s.ledger.interfaces.find? key with
  | some kept =>
      rw [hfound] at happly
      rw [bind_apply_ok happly]
      have hoffered : s.ledger.interfaces = Ledger.offered s.ledger.interfaces key i := by
        rw [Ledger.offered, if_neg (by simp [hfound])]
      exact of_drawsUp hoffered rfl hfound (hf kept s)
  | none =>
      rw [hfound] at happly
      cases hvalid : i.validate with
      | ok _ =>
          rw [hvalid] at happly
          rw [bind_apply_ok happly]
          have hoffered : s.ledger.interfaces.add key i =
              Ledger.offered s.ledger.interfaces key i := by
            rw [Ledger.offered, if_pos ⟨hfound, by rw [hvalid]; rfl⟩]
          refine of_drawsUp ?_ ?_ ?_ (hf i _)
          · exact hoffered
          · rfl
          · exact Cache.find?_add_self i hfound
      | error e =>
          rw [hvalid] at happly
          rw [bind_apply_error happly]
          have hoffered : s.ledger.interfaces = Ledger.offered s.ledger.interfaces key i := by
            rw [Ledger.offered, if_neg (by simp [hvalid, Except.isOk, Except.toBool])]
          exact ⟨hoffered, .inl rfl, fun p hp => by cases hp⟩

/-- Counting and noticing a failure touches no cache. -/
theorem observed {s : Session σ} {a : Action σ Proxy} (h : Stocks key i s (a s))
    (operation subject : String) : Stocks key i s (Bridge.observed operation subject a s) := by
  rw [observed_apply]
  rcases hs : a s with ⟨r, t⟩
  rw [hs] at h
  cases r with
  | ok p => exact h
  | error e => exact ⟨h.interfaces, h.proxyTypes, fun p hp => by cases hp⟩

end Stocks

/-! ## Steps -/

namespace Step

variable {s t : Session σ} {r : Except BridgeError Proxy}

/-- A proxy for a native interface is what the call hands out. -/
theorem proxy?_createProxy (i : NativeInterface) (arguments : List Value)
    (keywords : List (String × Value)) :
    proxy? ⟨.createProxy i arguments keywords, s, r, t⟩ = r.toOption := by
  cases r <;> rfl

/-- So is a proxy for an interface of the run. -/
theorem proxy?_createDynamicProxy (i : Interface) (arguments : List Value) :
    proxy? ⟨.createDynamicProxy i arguments, s, r, t⟩ = r.toOption := by
  cases r <;> rfl

/-- So is the proxy around an object. -/
theorem proxy?_wrap (i : NativeInterface) (object : ForeignObject) (m : ManagedState) :
    proxy? ⟨.wrap i object m, s, r, t⟩ = r.toOption := by
  cases r <;> rfl

end Step

namespace Bridge

/-- A call that submits an interface stocks the caches under its key. -/
theorem step_stocks (b : Bridge σ) (s : Session σ) {c : Call} {key : InterfaceKey} {i : Interface}
    (h : c.submission? = some (key, i)) :
    ∃ r, (∀ p, (b.step s c).proxy? = some p → r = .ok p) ∧
      Stocks key i s (r, (b.step s c).after) := by
  have hok {r : Except BridgeError Proxy} {p : Proxy} (hr : r.toOption = some p) : r = .ok p := by
    cases r with
    | ok q => exact congrArg Except.ok (Option.some.inj hr)
    | error e => cases hr
  cases c with
  | createProxy i arguments keywords =>
      cases h
      refine ⟨(b.createProxy i arguments keywords s).1, fun p hp => hok ?_, ?_⟩
      · rw [← hp]
        exact (Step.proxy?_createProxy ..).symm
      · refine .observed (.interface_bind b s fun kept t => ?_) _ _
        exact .instantiateProxy b _ arguments keywords t
  | createDynamicProxy i arguments =>
      cases h
      refine ⟨(b.createDynamicProxy i arguments s).1, fun p hp => hok ?_, ?_⟩
      · rw [← hp]
        exact (Step.proxy?_createDynamicProxy ..).symm
      · refine .observed (.interface_bind b s fun kept t => ?_) _ _
        exact .instantiateProxy b _ arguments [] t
  | wrap i object m =>
      cases h
      refine ⟨(b.wrap i object m s).1, fun p hp => hok ?_, ?_⟩
      · rw [← hp]
        exact (Step.proxy?_wrap ..).symm
      · refine .observed (.interface_bind b s fun kept t => ?_) _ _
        exact .proxyType_bind b t (fun _ => .pure _) fun _ => .pure rfl
  | _ => cases h

/-- A call that submits no interface touches no cache and returns no proxy. -/
theorem step_sameCaches (b : Bridge σ) (s : Session σ) {c : Call} (h : c.submission? = none) :
    SameCaches s (b.step s c).after ∧ (b.step s c).proxy? = none := by
  cases c with
  | createInstance target moduleName className arguments =>
      exact ⟨SameCaches.createInstance b target moduleName className arguments s, rfl⟩
  | invoke p operation arguments => exact ⟨SameCaches.invoke b p operation arguments s, rfl⟩
  | invokeAs p type operation arguments =>
      refine ⟨?_, rfl⟩
      exact (Within.bind (SameCaches.invoke b p operation arguments) fun _ => .lift _) s
  | invokeMethod p name arguments => exact ⟨SameCaches.forward b p name name arguments s, rfl⟩
  | shutdown => exact ⟨⟨rfl, rfl⟩, rfl⟩
  | _ => cases h

end Bridge

/-! ## The invariant of a step -/

namespace Ledger.Coherent

/-- A new ledger is coherent, as it is empty. -/
theorem new : Ledger.new.Coherent where
  valid h := by cases h
  named h := by cases h
  proxyTypes h := by cases h
  interfaceKeys := List.nodup_nil
  proxyTypeKeys := List.nodup_nil

/-- A ledger with the same caches is as coherent. -/
theorem of_sameCaches {s t : Session σ} (hs : s.ledger.Coherent) (h : SameCaches s t) :
    t.ledger.Coherent where
  valid := by
    rw [h.1]
    exact hs.valid
  named := by
    rw [h.1]
    exact hs.named
  proxyTypes := by
    rw [h.1, h.2]
    exact hs.proxyTypes
  interfaceKeys := by
    rw [h.1]
    exact hs.interfaceKeys
  proxyTypeKeys := by
    rw [h.2]
    exact hs.proxyTypeKeys

variable {key : InterfaceKey} {i : Interface} {s : Session σ}
  {q : Except BridgeError Proxy × Session σ}

/-- A new entry is valid and has its own name when the submitted interface has. -/
theorem interface_of_stocks (hs : s.ledger.Coherent) (h : Stocks key i s q)
    (hname : ∀ name, key = .named name → i.name = name) {other : InterfaceKey} {kept : Interface}
    (hkept : q.2.ledger.interfaces.find? other = some kept) :
    kept.validate = .ok () ∧ ∀ name, other = .named name → kept.name = name := by
  rw [h.interfaces, Ledger.find?_offered, Option.or_eq_some_iff] at hkept
  obtain hkept | ⟨-, hkept⟩ := hkept
  · exact ⟨hs.valid hkept, fun name hother => hs.named (hother ▸ hkept)⟩
  · split at hkept
    · rename_i hkey
      cases hkept
      refine ⟨?_, fun name hother => hname name (hkey.1.trans hother)⟩
      cases hvalid : i.validate with
      | ok u => rfl
      | error e => simp [hvalid, Except.isOk, Except.toBool] at hkey
    · cases hkept

/-- An interface that was kept is still kept. -/
theorem interface_persists (h : Stocks key i s q) {other : InterfaceKey} {kept : Interface}
    (hkept : s.ledger.interfaces.find? other = some kept) :
    q.2.ledger.interfaces.find? other = some kept := by
  rw [h.interfaces, Ledger.find?_offered, hkept]
  rfl

/-- A ledger that was stocked is as coherent as before. -/
theorem of_stocks (hs : s.ledger.Coherent) (h : Stocks key i s q)
    (hname : ∀ name, key = .named name → i.name = name) : q.2.ledger.Coherent where
  valid hkept := (hs.interface_of_stocks h hname hkept).1
  named hkept := (hs.interface_of_stocks h hname hkept).2 _ rfl
  proxyTypes := by
    intro other t ht
    have hold (ht : s.ledger.proxyTypes.find? other = some t) :=
      And.imp_left (interface_persists h) (hs.proxyTypes ht)
    obtain hsame | ⟨kept, type, hkept, -, hbuild, hadd⟩ := h.proxyTypes
    · rw [hsame] at ht
      exact hold ht
    · -- The new table is for the interface kept by now, which may be an older one than `i`.
      rw [hadd, Cache.find?_add, Option.or_eq_some_iff] at ht
      obtain ht | ⟨-, ht⟩ := ht
      · exact hold ht
      · split at ht
        · rename_i hkey
          cases ht
          obtain ⟨hown, hinterface⟩ := ProxyType.build_interface hbuild
          rw [← hkey, hinterface]
          exact ⟨hkept, hown, hbuild⟩
        · cases ht
  interfaceKeys := by
    rw [h.interfaces, Ledger.offered]
    split
    · rename_i hnew
      exact Cache.nodup_keys_add i hnew.1 hs.interfaceKeys
    · exact hs.interfaceKeys
  proxyTypeKeys := by
    obtain hsame | ⟨_, type, -, hnew, -, hadd⟩ := h.proxyTypes
    · rw [hsame]
      exact hs.proxyTypeKeys
    · rw [hadd]
      exact Cache.nodup_keys_add type hnew hs.proxyTypeKeys

end Ledger.Coherent

/-! ## Runs -/

/-- The interface that a call describes at run time is submitted under its own name. -/
theorem Command.name_of_submission {c : Call} {i : Interface} {name : String}
    (h : c.submission? = some (.named name, i)) : i.name = name := by
  cases c <;> cases h
  rfl

namespace Bridge

variable {b : Bridge σ} {s : Session σ}

/-- Every step keeps the ledger coherent. -/
theorem step_coherent (c : Call) (hs : s.ledger.Coherent) :
    (b.step s c).after.ledger.Coherent := by
  cases hc : c.submission? with
  | none => exact hs.of_sameCaches (b.step_sameCaches s hc).1
  | some submission =>
      obtain ⟨key, i⟩ := submission
      obtain ⟨r, -, hstocks⟩ := b.step_stocks s hc
      refine hs.of_stocks hstocks fun name hkey => ?_
      rw [hkey] at hc
      exact Command.name_of_submission hc

/-- What is kept is never replaced, whatever is called and whether it fails or not. -/
theorem step_persists (b : Bridge σ) (s : Session σ) (c : Call) (key : InterfaceKey) :
    (∀ i, s.ledger.interfaces.find? key = some i →
      (b.step s c).after.ledger.interfaces.find? key = some i) ∧
    ∀ t, s.ledger.proxyTypes.find? key = some t →
      (b.step s c).after.ledger.proxyTypes.find? key = some t := by
  cases hc : c.submission? with
  | none =>
      obtain ⟨⟨hinterfaces, hproxyTypes⟩, -⟩ := b.step_sameCaches s hc
      rw [hinterfaces, hproxyTypes]
      exact ⟨fun _ h => h, fun _ h => h⟩
  | some submission =>
      obtain ⟨r, -, hstocks⟩ := b.step_stocks s hc
      refine ⟨fun i hi => Ledger.Coherent.interface_persists hstocks hi, fun t ht => ?_⟩
      obtain hsame | ⟨_, type, -, -, -, hadd⟩ := hstocks.proxyTypes
      · rw [hsame]
        exact ht
      · rw [hadd]
        exact Cache.find?_add_of_some _ type ht

/-- What a cache holds stays there in every run. -/
theorem finish_persists (b : Bridge σ) (s : Session σ) (calls : List Call) (key : InterfaceKey) :
    (∀ i, s.ledger.interfaces.find? key = some i →
      (b.finish s calls).ledger.interfaces.find? key = some i) ∧
    ∀ t, s.ledger.proxyTypes.find? key = some t →
      (b.finish s calls).ledger.proxyTypes.find? key = some t := by
  induction calls generalizing s with
  | nil => exact ⟨fun _ h => h, fun _ h => h⟩
  | cons c calls ih =>
      obtain ⟨hinterfaces, hproxyTypes⟩ := b.step_persists s c key
      obtain ⟨hinterfaces', hproxyTypes'⟩ := ih (b.step s c).after
      exact ⟨fun i hi => hinterfaces' i (hinterfaces i hi),
        fun t ht => hproxyTypes' t (hproxyTypes t ht)⟩

/-- A call leaves the entries of every key but the one it submits an interface under. -/
theorem step_frame (c : Call) {key : InterfaceKey}
    (hkey : ∀ i, c.submission? ≠ some (key, i)) :
    (b.step s c).after.ledger.interfaces.find? key = s.ledger.interfaces.find? key ∧
      (b.step s c).after.ledger.proxyTypes.find? key = s.ledger.proxyTypes.find? key := by
  cases hc : c.submission? with
  | none =>
      obtain ⟨⟨hinterfaces, hproxyTypes⟩, -⟩ := b.step_sameCaches s hc
      rw [hinterfaces, hproxyTypes]
      exact ⟨rfl, rfl⟩
  | some submission =>
      obtain ⟨own, i⟩ := submission
      have hne : own ≠ key := by
        rintro rfl
        exact hkey i hc
      obtain ⟨r, -, hstocks⟩ := b.step_stocks s hc
      constructor
      · rw [hstocks.interfaces, Ledger.find?_offered, if_neg fun h => hne h.1, Option.or_none]
      · obtain hsame | ⟨_, type, -, -, -, hadd⟩ := hstocks.proxyTypes
        · rw [hsame]
        · rw [hadd]
          exact Cache.find?_add_of_ne _ type hne

/-- Under each key the first valid interface that was submitted is kept. -/
theorem interfaces_finish (s : Session σ) (calls : List Call) (key : InterfaceKey) :
    (b.finish s calls).ledger.interfaces.find? key =
      (s.ledger.interfaces.find? key).or
        (firstValid key (calls.filterMap Command.submission?)) := by
  induction calls generalizing s with
  | nil => exact Option.or_none.symm
  | cons c calls ih =>
      rw [finish, ih]
      cases hc : c.submission? with
      | none =>
          rw [List.filterMap_cons_none hc, (b.step_sameCaches s hc).1.1]
      | some submission =>
          obtain ⟨own, i⟩ := submission
          obtain ⟨r, -, hstocks⟩ := b.step_stocks s hc
          have hoffered : (b.step s c).after.ledger.interfaces.find? key =
              (Ledger.offered s.ledger.interfaces own i).find? key :=
            congrArg (fun c => Cache.find? c key) hstocks.interfaces
          rw [List.filterMap_cons_some hc, firstValid_cons, ← Option.or_assoc,
            ← Ledger.find?_offered, hoffered]

/-- A proxy that a call returns has the dispatch table that is kept under the key of the call. -/
theorem step_proxy (hs : s.ledger.Coherent) {c : Call} {p : Proxy}
    (hp : (b.step s c).proxy? = some p) :
    (∃ i, c.submission? = some (p.type.key, i)) ∧
      (b.step s c).after.ledger.proxyTypes.find? p.type.key = some p.type := by
  cases hc : c.submission? with
  | none =>
      rw [(b.step_sameCaches s hc).2] at hp
      cases hp
  | some submission =>
      obtain ⟨key, i⟩ := submission
      obtain ⟨r, hr, hstocks⟩ := b.step_stocks s hc
      have hkept := hstocks.returned p (hr p hp)
      obtain ⟨-, hkey, -⟩ := (step_coherent c hs).proxyTypes hkept
      rw [hkey]
      exact ⟨⟨i, rfl⟩, hkept⟩

/-- The ledger is coherent after every run. -/
theorem finish_coherent (b : Bridge σ) (world : σ) (calls : List Call) :
    (b.finish (b.start world) calls).ledger.Coherent :=
  finish_induction (I := fun s => s.ledger.Coherent) (fun _ c hs => step_coherent c hs)
    (b.start world) calls .new

/-- Every step of a run is taken in a coherent session, whose entries are there at the end too. -/
theorem step_of_run {b : Bridge σ} {world : σ} {calls : List Call} {st : Step σ}
    (hst : st ∈ b.run (b.start world) calls) :
    ∃ s c rest, st = b.step s c ∧ s.ledger.Coherent ∧
      b.finish (b.start world) calls = b.finish s (c :: rest) := by
  obtain ⟨first, c, rest, rfl, rfl⟩ := mem_run_iff.mp hst
  exact ⟨_, c, rest, rfl, b.finish_coherent world first, b.finish_append _ first (c :: rest)⟩

/-- A dispatch table that a proxy was returned with is there at the end. -/
theorem proxy_of_run {b : Bridge σ} {world : σ} {calls : List Call} {st : Step σ}
    (hst : st ∈ b.run (b.start world) calls) {p : Proxy} (hp : st.proxy? = some p) :
    (∃ i, st.call.submission? = some (p.type.key, i)) ∧
      (b.finish (b.start world) calls).ledger.proxyTypes.find? p.type.key = some p.type := by
  obtain ⟨s, c, rest, rfl, hs, hfinish⟩ := step_of_run hst
  obtain ⟨hsubmission, hkept⟩ := step_proxy hs hp
  rw [hfinish]
  exact ⟨hsubmission, (b.finish_persists _ rest _).2 _ hkept⟩

/-- The caches at the end of any run are coherent and hold, under each key, the first valid
interface that was submitted.  What is kept at some time is kept to the end, a call leaves all
keys but its own alone, and all proxies ever returned under one key have the table kept there. -/
theorem caches_of_run (b : Bridge σ) (world : σ) (calls : List Call) :
    let steps := b.run (b.start world) calls
    let l := (b.finish (b.start world) calls).ledger
    l.Coherent ∧
      (∀ key, l.interfaces.find? key =
        firstValid key (calls.filterMap Command.submission?)) ∧
      (∀ st ∈ steps, ∀ key,
        (∀ i, st.before.ledger.interfaces.find? key = some i →
          l.interfaces.find? key = some i) ∧
        ∀ t, st.before.ledger.proxyTypes.find? key = some t →
          l.proxyTypes.find? key = some t) ∧
      (∀ st ∈ steps, ∀ p, st.proxy? = some p →
        (∃ i, st.call.submission? = some (p.type.key, i)) ∧
          l.proxyTypes.find? p.type.key = some p.type) ∧
      (∀ st ∈ steps, ∀ st' ∈ steps, ∀ p p', st.proxy? = some p → st'.proxy? = some p' →
        p.type.key = p'.type.key → p.type = p'.type) ∧
      ∀ st ∈ steps, ∀ key, (∀ i, st.call.submission? ≠ some (key, i)) →
        st.after.ledger.interfaces.find? key = st.before.ledger.interfaces.find? key ∧
          st.after.ledger.proxyTypes.find? key = st.before.ledger.proxyTypes.find? key := by
  intro steps l
  refine ⟨b.finish_coherent world calls, ?_, ?_, ?_, ?_, ?_⟩
  · exact b.interfaces_finish (b.start world) calls
  · intro st hst key
    obtain ⟨s, c, rest, rfl, -, hfinish⟩ := step_of_run hst
    have hpersists := b.finish_persists s (c :: rest) key
    rw [← hfinish] at hpersists
    exact hpersists
  · intro st hst p hp
    exact proxy_of_run hst hp
  · intro st hst st' hst' p p' hp hp' hkey
    have hkept := (proxy_of_run hst hp).2
    rw [hkey, (proxy_of_run hst' hp').2] at hkept
    exact (Option.some.inj hkept).symm
  · intro st hst key hkey
    obtain ⟨s, c, rest, rfl, -, -⟩ := step_of_run hst
    exact step_frame c hkey

end Bridge

end ObjectBridge
