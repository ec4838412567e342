import ObjectBridge.Proofs.Resolution
import ObjectBridge.Proofs.Restoration
import ObjectBridge.Proofs.SearchPath

/-!
# What lasts on a host

Whatever is asked of a host, what is behind a handle stays there, and a handle of another host
stays one; only instances may get other attributes.  So values are taken back as before.  Whatever
is done with a bridge, importers that are kept for its states are importers, and the host knows
what was defined.

Main results:

- Definition `Host.Steady`: a host at a later time, handles of other hosts included.
- Theorem `Host.enduring_steady`: every request leads to such a host.
- Theorem `Host.Enduring.upholds`: what no step of the host leaves, no part of a call leaves.
- Theorem `Bridge.didAll_defines`: what a host knows after a history.
-/

namespace ObjectBridge

namespace Host

variable {h h₁ : Host} {o : ForeignObject} {v : Value} {changed : Option Nat}

/-- A host at a later time: modules are as they were, and behind every handle is what was there,
if anything, but that an instance may have other attributes. -/
structure Steady (h h₁ : Host) : Prop where
  modules : h₁.modules = h.modules
  size : h.objects.size ≤ h₁.objects.size
  kept : ∀ {n}, n < h.objects.size → (∀ c as, h.at? n ≠ some (.instanceOf c as)) →
    h₁.at? n = h.at? n
  instances : ∀ {n c as}, h.at? n = some (.instanceOf c as) →
    ∃ bs, h₁.at? n = some (.instanceOf c bs)

instance : IsPreorder Host Steady where
  refl _ := ⟨rfl, Nat.le_refl _, fun _ _ => rfl, fun hx => ⟨_, hx⟩⟩
  trans _ _ _ h₁₂ h₂₃ :=
    { modules := h₂₃.modules.trans h₁₂.modules
      size := Nat.le_trans h₁₂.size h₂₃.size
      kept := fun hn hx => by
        have heq := h₁₂.kept hn hx
        rw [h₂₃.kept (Nat.lt_of_lt_of_le hn h₁₂.size) (fun c as => heq ▸ hx c as), heq]
      instances := fun hx =>
        let ⟨_, hy⟩ := h₁₂.instances hx
        h₂₃.instances hy }

namespace Steady

/-- A host with the same modules and objects is steady. -/
theorem of_same (hmodules : h₁.modules = h.modules) (hobjects : h₁.objects = h.objects) :
    h.Steady h₁ := by
  have hat (n : Nat) : h₁.at? n = h.at? n := by rw [at?, at?, hobjects]
  exact ⟨hmodules, Nat.le_of_eq (hobjects ▸ rfl), fun _ _ => hat _,
    fun hx => ⟨_, (hat _).trans hx⟩⟩

/-- One more handle, of this host or of another one. -/
theorem handed (h : Host) (x : Option HostObject) :
    h.Steady { h with objects := h.objects.push x } := by
  have hat {n : Nat} (hn : n < h.objects.size) :
      ({ h with objects := h.objects.push x } : Host).at? n = h.at? n := by
    rw [at?, at?, Array.getElem?_push, if_neg (Nat.ne_of_lt hn)]
  exact ⟨rfl, Array.size_push _ ▸ Nat.le_succ _, fun hn _ => hat hn,
    fun hx => ⟨_, (hat (lt_size hx)).trans hx⟩⟩

/-- Other attributes of an instance. -/
theorem put {c : HostClass} {as : Attributes} (hx : h.at? o.handle = some (.instanceOf c as))
    (bs : Attributes) : h.Steady (h.put o (.instanceOf c bs)) := by
  have hlt := lt_size hx
  refine ⟨rfl, Nat.le_of_eq size_put.symm, fun {n} _ hy => ?_, fun {n d ds} hy => ?_⟩
  · rw [at?_put hlt, if_neg]
    rintro rfl
    exact hy c as hx
  · rw [at?_put hlt]
    split
    · rename_i hn
      subst hn
      cases hx.symm.trans hy
      exact ⟨bs, rfl⟩
    · exact ⟨ds, hy⟩

/-- An object that is no instance stays what it is. -/
theorem found {n : Nat} {x : HostObject} (hs : h.Steady h₁) (hx : h.at? n = some x)
    (hinstance : x.isInstance = false) : h₁.at? n = some x := by
  refine (hs.kept (lt_size hx) fun c as hc => ?_).trans hx
  cases hx.symm.trans hc
  cases hinstance

/-- An importer is still one on a steady host. -/
theorem imports (hs : h.Steady h₁) (ho : h.Imports o) : h₁.Imports o :=
  hs.found ho rfl

/-- A value that is known is still known. -/
theorem knows (hs : h.Steady h₁) (hv : h.Knows v) : h₁.Knows v :=
  fun o ho => Nat.lt_of_lt_of_le (hv o ho) hs.size

/-- A value is taken back as before. -/
theorem restored (hs : h.Steady h₁) (hv : h.Knows v) : h₁.restored v = h.restored v := by
  cases v with
  | object o =>
    by_cases hinstance : ∃ c as, h.at? o.handle = some (.instanceOf c as)
    · obtain ⟨c, as, hx⟩ := hinstance
      obtain ⟨bs, hy⟩ := hs.instances hx
      simp only [Host.restored, hx, hy]
    · have hkept := hs.kept (hv o rfl) fun c as hx => hinstance ⟨c, as, hx⟩
      simp only [Host.restored, hkept]
  | _ => rfl

end Steady

/-- The host itself keeps what is behind handles, whatever it is asked. -/
theorem enduring_steady : Enduring Steady where
  preorder := inferInstance
  touched _ := .of_same rfl rfl
  pushed h x _ := .handed h (some x)
  put := Steady.put
  stateMade _ := .of_same rfl rfl
  pathsExtended _ _ _ := .of_same rfl rfl

/-- A host is steady when an attribute is assigned. -/
theorem assigned_steady (h : Host) (o : ForeignObject) (name : String) (v : Value) :
    h.Steady (h.assigned o name v) := by
  rw [assigned]
  split
  · rename_i c as hx
    exact .put hx _
  · exact refl_of _ h

end Host

/-! ## Parts of calls -/

namespace Host.Enduring

variable {R : Host → Host → Prop} (c : Configuration) (e : Environment)

/-- Sessions are compared by their hosts. -/
theorem preorder_worlds (h : Enduring R) :
    IsPreorder (Session Host) fun s t => R s.world t.world where
  refl s := h.preorder.refl s.world
  trans s t u := h.preorder.trans s.world t.world u.world

/-- A request leads within the relation. -/
theorem ask (h : Enduring R) (request : Request) (failure : ForeignError → BridgeError) :
    Within (fun s t => R s.world t.world) ((Bridge.onHost c e).ask request failure) :=
  fun s => h.perform request s.world

/-- No part of a call leaves a relation between hosts that none of their own steps leaves. -/
theorem upholds (h : Enduring R) : (Bridge.onHost c e).Upholds fun s t => R s.world t.world where
  preorder := h.preorder_worlds
  ask request failure _ := h.ask c e request failure
  state key := by
    have := h.preorder_worlds
    refine .keep ?_ fun s _ => h.preorder.refl s.world
    refine .bind (h.ask c e .createState _) fun token => ?_
    exact .bind (h.ask c e (.extendSearchPath token _) _) fun _ s => h.preorder.refl s.world
  ledger s _ := h.preorder.refl s.world
  entered s _ _ := h.preorder.refl s.world

end Host.Enduring

/-- No part of a call unsettles the host. -/
theorem Bridge.upholds_steady (c : Configuration) (e : Environment) :
    (onHost c e).Upholds fun s t => s.world.Steady t.world :=
  Host.enduring_steady.upholds c e

/-! ## Histories -/

/-- The definition that a deed is. -/
def HostDeed.definition? : HostDeed → Option (String × List HostClass)
  | define name classes => some (name, classes)
  | _ => none

namespace Bridge

variable {c : Configuration} {e : Environment} {s t : Session Host} {defs : Definitions}

/-- A deed keeps the importers, and the host knows one more definition if the deed is one. -/
theorem did_defines (hs : s.Imported) (hdefines : s.world.Defines defs) (deed : HostDeed) :
    ((onHost c e).did s deed).Imported ∧
      ((onHost c e).did s deed).world.Defines (defs ++ deed.definition?.toList) := by
  have hlater (changed : Option Nat) {t : Session Host} (h : s.Later changed t) :
      t.Imported ∧ t.world.Defines (defs ++ []) :=
    ⟨h.imported hs, (List.append_nil defs).symm ▸ hdefines.of_modules h.world.modules⟩
  -- What happens to the host alone leaves the importers where they are.
  have hsteady {h : Host} (hh : s.world.Steady h) :
      (s.moved h).Imported ∧ (s.moved h).world.Defines (defs ++ []) :=
    ⟨fun id o hfound => hh.imports (hs id o hfound),
      (List.append_nil defs).symm ▸ hdefines.of_modules hh.modules⟩
  have hstate (key : StateKey) : Within (Session.Later none) ((onHost c e).state key) :=
    fun _ => (state_later c e key).rel
  cases deed with
  | call call => exact hlater call.receiver? (step_later c e hs call)
  | use use =>
    cases use with
    | get key => exact hlater none (Within.bind (hstate key) (fun _ => .pure _) s)
    | release => exact hlater none (.of_eq rfl rfl)
  | useInThreads key threads =>
    refine hlater none (Within.statesOfThreads (fun key => (hstate key).inThread ?_) key threads s)
    exact fun _ _ _ _ h => ⟨h.world, h.imported⟩
  | interface key i => exact hlater none (interface_later c e key i).rel
  | proxyType key i => exact hlater none (proxyType_later c e key i).rel
  | importer m => exact hlater none (importer_later c e m hs).rel
  | resolve m binding => exact hlater none (resolveBinding_later c e m binding hs).rel
  | request r => exact hsteady (Host.enduring_steady.perform r s.world)
  | define name classes => exact ⟨hs, hdefines.define name classes⟩
  | refuse refusing => exact hsteady (.of_same rfl rfl)
  | alien typeName => exact hsteady (.handed _ none)
  | assign o name v => exact hsteady (Host.assigned_steady _ o name v)

/-- After a history importers are kept, and the host knows what was defined in it. -/
theorem didAll_defines (hs : s.Imported) (hdefines : s.world.Defines defs)
    (history : List HostDeed) :
    ((onHost c e).didAll s history).Imported ∧
      ((onHost c e).didAll s history).world.Defines
        (defs ++ history.filterMap HostDeed.definition?) := by
  induction history generalizing s defs with
  | nil =>
      rw [List.filterMap_nil, List.append_nil]
      exact ⟨hs, hdefines⟩
  | cons deed history ih =>
      obtain ⟨hs', hdefines'⟩ := did_defines (c := c) (e := e) hs hdefines deed
      have hrest := ih hs' hdefines'
      have hcons : (deed :: history).filterMap HostDeed.definition? =
          deed.definition?.toList ++ history.filterMap HostDeed.definition? := by
        rw [List.filterMap_cons]
        cases deed.definition? <;> rfl
      rwa [List.append_assoc, ← hcons] at hrest

end Bridge

end ObjectBridge
