import ObjectBridge.Proofs.Accounting
import ObjectBridge.Proofs.Coherence
import ObjectBridge.Proofs.Failures
import ObjectBridge.Proofs.HostObjects

/-!
# Calls on a scripted host over time

Whatever is called on a bridge over a scripted host, the objects of the host are still
there afterwards.  A call that is passed on to an object changes no object but that one,
and any other call changes none.

Main results:

- Definition `Session.Later`: a session at a later time.
- Definition `Host.Made`: a new instance of the class of a binding.
- Theorem `Bridge.step_later`: every call leads to a later session.
- Theorem `Bridge.step_made`: a call that makes an object for a proxy makes it of the
  class its interface is bound to.
-/

namespace ObjectBridge

variable {α β : Type} {changed : Option Nat}

/-! ## Later sessions -/

/-- A session at a later time, whose importers are importers if they were. -/
structure Session.Later (changed : Option Nat) (s t : Session Host) : Prop where
  world : s.world.Later changed t.world
  imported : s.Imported → t.Imported

instance : IsPreorder (Session Host) (Session.Later changed) where
  refl _ := ⟨refl_of _ _, id⟩
  trans _ _ _ h₁₂ h₂₃ := ⟨trans_of _ h₁₂.world h₂₃.world, fun hs => h₂₃.imported (h₁₂.imported hs)⟩

/-- A later world behind the same importers. -/
theorem Session.Later.of_world {s t : Session Host} (hworld : s.world.Later changed t.world)
    (himporters : t.ledger.importers = s.ledger.importers) : s.Later changed t :=
  ⟨hworld, fun hs id o hfound => hworld.imports (hs id o (himporters ▸ hfound))⟩

/-- What changes neither the world nor the importers. -/
theorem Session.Later.of_eq {s t : Session Host} (hworld : t.world = s.world)
    (himporters : t.ledger.importers = s.ledger.importers) : s.Later changed t :=
  .of_world (.of_eq (hworld ▸ rfl) (hworld ▸ rfl)) himporters

/-- A request ends as it ends on the host, on which it is counted first. -/
theorem Ends.askHost {c : Configuration} {e : Environment} {s : Session Host} (request : Request)
    {failure : ForeignError → BridgeError} {Q : request.Answer → Host → Prop} {E : Host → Prop}
    (h : Ends Q (fun _ => E) (Host.grant request) s.world.touched) :
    Ends (fun x t => t = s.moved t.world ∧ Q x t.world) (fun _ t => t = s.moved t.world ∧ E t.world)
      ((Bridge.onHost c e).ask request failure) s := by
  refine .ask (fun x w hperform => ⟨rfl, ?_⟩) fun err w hperform => ⟨rfl, ?_⟩
  · have hgrant : Host.grant request s.world.touched = (.ok x, w) := hperform
    rw [Ends, hgrant] at h
    exact h
  · have hgrant : Host.grant request s.world.touched = (.error err, w) := hperform
    rw [Ends, hgrant] at h
    exact h

namespace Leads

variable {c : Configuration} {e : Environment} {s : Session Host}

/-- A request leads to what it leads to on the host. -/
theorem ask (request : Request) {failure : ForeignError → BridgeError}
    {Q : request.Answer → Host → Prop}
    (h : Leads (Host.Later changed) Q (Host.grant request) s.world.touched) :
    Leads (Session.Later changed) (fun x t => Q x t.world)
      ((Bridge.onHost c e).ask request failure) s := by
  have hlater {t : Session Host} (ht : t = s.moved t.world)
      (hl : s.world.touched.Later changed t.world) : s.Later changed t :=
    .of_world (trans_of _ (.touched _) hl) (by rw [ht]; rfl)
  refine Ends.mono (Ends.askHost request h) (fun x t ht => ⟨hlater ht.1 ht.2.1, ht.2.2⟩)
    fun err t ht => hlater ht.1 ht.2

/-- An action that changes neither the world nor the importers. -/
theorem quiet {a : Action Host α} (hworld : (a s).2.world = s.world)
    (himporters : (a s).2.ledger.importers = s.ledger.importers) :
    Leads (Session.Later changed) (fun x t => (a s).1 = .ok x ∧ t = (a s).2) a s :=
  .of_outcome (.of_eq hworld himporters)

/-- What is observed leads where it did. -/
theorem observed {Q : α → Session Host → Prop} {a : Action Host α} (operation subject : String)
    (h : Leads (Session.Later changed) Q a s) :
    Leads (Session.Later changed) Q (Bridge.observed operation subject a) s :=
  h.observed_of (fun _ _ => .of_eq rfl rfl) operation subject

end Leads

/-! ## Marshalling -/

namespace Bridge

variable (c : Configuration) (e : Environment) {s : Session Host}

/-- A value is stored on a later host, which is given it. -/
theorem toForeign_later (token : StateToken) (v : Value) :
    Leads (Session.Later changed) (fun o t => t.world.Given v o) ((onHost c e).toForeign token v)
      s := by
  cases v with
  | object o => exact .pure (.object o)
  | _ =>
      rw [toForeign]
      · exact .ask (.toForeign token _) (Host.Later.store _)
      · intro o ho
        cases ho

/-- Objects are made that stand for the arguments. -/
theorem marshal_later (token : StateToken) (positional : List Value)
    (keywords : List (String × Value)) :
    Leads (Session.Later changed)
      (fun a t => List.Forall₂ t.world.Given positional a.positional ∧
        Entries.Alike t.world.Given keywords a.keywords)
      ((onHost c e).marshal token positional keywords) s := by
  refine Leads.bind (.mapM (V := fun v o t => t.world.Given v o)
    (fun v _ _ _ => toForeign_later c e token v) fun _ _ _ _ hl ho => hl.world.given ho)
    fun os t _ hos => ?_
  refine Leads.bind (.mapM
    (V := fun (k : String × Value) (l : String × ForeignObject) t =>
      k.1 = l.1 ∧ t.world.Given k.2 l.2)
    (fun k _ _ _ => ?_) fun _ _ _ _ hl ho => ⟨ho.1, hl.world.given ho.2⟩) fun ks u hl hks => ?_
  · exact (toForeign_later c e token k.2).bind fun _ _ _ ho => .pure ⟨rfl, ho⟩
  · exact .pure ⟨hos.imp fun _ _ ho => hl.world.given ho, hks⟩

/-- An object that is seen as some value is taken back as this value, without fail. -/
theorem toNative_seen (token : StateToken) {o : ForeignObject} {v : Value}
    (hv : s.world.peek o = .ok v) :
    Ends (fun w t => s.Later changed t ∧ w = v) (fun _ _ => False)
      ((onHost c e).toNative token o) s := by
  have hanswer : (onHost c e).interpreter.perform (.toNative token o) s.world =
      (.ok v, s.world.touched) := by
    have hseen : s.world.touched.peek o = .ok v := hv
    rw [← hseen]
    exact Host.valueOf_apply o s.world.touched
  exact .of_ok (ask_granted hanswer) ⟨.of_world (.touched _) rfl, rfl⟩

/-- Results that can be read are read as what they are. -/
theorem toNativeEach_seen (token : StateToken) {vs : List Value} {os : List ForeignObject}
    (hos : List.Forall₂ (fun v o => s.world.peek o = .ok v) vs os) :
    Ends (fun ws t => s.Later changed t ∧ ws = vs) (fun _ _ => False)
      ((onHost c e).toNativeEach token os) s := by
  induction vs generalizing os s with
  | nil =>
      cases hos
      exact .pure ⟨refl_of _ s, rfl⟩
  | cons v vs ih =>
      obtain _ | ⟨hv, hrest⟩ := hos
      rw [toNativeEach, List.mapM_cons]
      refine Ends.bind (Q := fun w t => s.Later changed t ∧ w = v) (toNative_seen c e token hv)
        fun w t ⟨hl, hw⟩ => ?_
      refine (ih (hrest.imp fun _ _ h => hl.world.peek h)).bind fun ws u ⟨hl', hws⟩ => ?_
      exact .pure ⟨trans_of _ hl hl', by rw [hw, hws]⟩

/-! ## Classes -/

/-- The importer of a state is found, or was kept for it. -/
theorem importer_later (m : ManagedState) (hs : s.Imported) :
    Leads (Session.Later changed) (fun o t => t.world.Imports o) ((onHost c e).importer m) s := by
  have happly := keep_apply Ledger.importersPlace m.number.place ((onHost c e).resolveImporter m) s
  have hread : Ledger.importersPlace.read s = s.ledger.importers := rfl
  rw [hread] at happly
  cases hfound : s.ledger.importers.find? m.number.place with
  | some o =>
      rw [hfound] at happly
      exact .of_ok happly (refl_of _ s) (hs m.number.place o hfound)
  | none =>
      rw [hfound] at happly
      let o : ForeignObject := ⟨s.world.objects.size, HostObject.importer.typeName⟩
      let w : Host := s.world.touched.pushed .importer
      have hbuiltin : (onHost c e).resolveImporter m s = (.ok o, s.moved w) := ask_granted rfl
      have hworld : s.world.Later changed w := trans_of _ (.touched _) (.pushed rfl)
      have himports : w.Imports o := Host.at?_made
      rw [hbuiltin] at happly
      refine .of_ok happly ⟨hworld, fun hs id o' hkept => ?_⟩ himports
      -- An importer that is kept now was kept before or is the new one.
      have hadd : (s.ledger.importers.add m.number.place o).find? id = some o' := hkept
      rw [Cache.find?_add, Option.or_eq_some_iff] at hadd
      rcases hadd with hold | ⟨-, hnew⟩
      · exact hworld.imports (hs id o' hold)
      · split at hnew
        · cases hnew
          exact himports
        · cases hnew

/-- Attributes of symbols are symbols. -/
theorem walk_later (m : ManagedState) (names : List String) {o : ForeignObject} (path : String)
    (ho : s.world.Symbol o) :
    Leads (Session.Later changed) (fun o' t => t.world.Symbol o' ∧ (names = [] → o' = o))
      ((onHost c e).walk m o path names) s := by
  induction names generalizing o path s with
  | nil => exact .pure ⟨ho, fun _ => rfl⟩
  | cons name names ih =>
      rw [walk]
      refine Leads.bind (.ask (.getAttribute m.token o name)
        (Host.Later.getAttribute (h := s.world.touched) ho name))
        fun o' t _ ho' => ?_
      exact (ih _ ho'.1).mono fun _ _ _ h => ⟨h.1, nofun⟩

/-- The module of a name without dots is the module of that name. -/
theorem resolveModule_later (m : ManagedState) {o : ForeignObject} (name : String)
    (ho : s.world.Imports o) :
    Leads (Session.Later changed)
      (fun o' t => t.world.Symbol o' ∧ (Text.textSegments '.' name = [name] →
        t.world.at? o'.handle = some (.module name)))
      ((onHost c e).resolveModule m o name) s := by
  rw [resolveModule]
  refine Leads.bind (.ask (.toForeign m.token (.str name))
    (Host.Later.store (.str name)))
    fun a t hl ha => ?_
  have hargument : t.world.at? a.handle = some (.data (.str name)) := by
    cases ha with
    | data _ hfound => exact hfound
  refine Leads.bind (.ask (.call m.token o ⟨[a], []⟩)
    (Host.Later.callImporter (hl.world.imports ho) hargument)) fun package t' _ hpackage => ?_
  refine Leads.bind (walk_later c e m _ _ ⟨_, hpackage, rfl⟩) fun o' u hl' ho' => ?_
  refine .of_ok rfl (.of_eq rfl rfl) ⟨ho'.1, fun hsegments => ?_⟩
  rw [hsegments] at hpackage ho'
  cases ho'.2 rfl
  exact hl'.world.kept hpackage (.inr rfl)

/-- The class of a binding whose module has a name without dots is the class of its name. -/
theorem resolveBinding_later (m : ManagedState) (binding : Binding) (hs : s.Imported) :
    Leads (Session.Later changed)
      (fun found t => t.world.Symbol found.callable ∧
        ∀ cls, binding.moduleSegments = [binding.moduleName] →
          s.world.class? binding.moduleName binding.className = some cls →
          t.world.at? found.callable.handle = some (.classObject cls))
      ((onHost c e).resolveBinding m binding) s := by
  rw [resolveBinding]
  refine Leads.bind (importer_later c e m hs) fun o t hl ho => ?_
  rw [resolveClass]
  refine Leads.bind (resolveModule_later c e m _ ho) fun module u hl' hmodule => ?_
  refine Leads.bind (.ask (.getAttribute m.token module binding.className)
    (Host.Later.getAttribute (h := u.world.touched) hmodule.1 _)) fun callable v _ hcallable => ?_
  refine .of_ok rfl (.of_eq rfl rfl) ⟨hcallable.1, fun cls hsegments hcls => ?_⟩
  refine hcallable.2 _ cls (hmodule.2 hsegments) ?_
  exact (hl'.world.class?_eq _ _).trans ((hl.world.class?_eq _ _).trans hcls)

end Bridge

/-! ## New objects -/

/-- An object is a new instance.  If the binding names a class of a module whose name has no dots,
it is an instance of that class, made from the values that the arguments count as. -/
structure Host.Made (h : Host) (binding : Binding) (arguments : List Value)
    (keywords : List (String × Value)) (o : ForeignObject) (h₁ : Host) : Prop where
  size : h.objects.size ≤ o.handle
  object : ∀ c, binding.moduleSegments = [binding.moduleName] →
    h.class? binding.moduleName binding.className = some c →
    ∃ as, c.instantiate (arguments.map h₁.counted) (keywords.map fun k => (k.1, h₁.counted k.2)) =
        .ok as ∧
      h₁.at? o.handle = some (.instanceOf c as) ∧
      (h.Orderly → (∀ v ∈ arguments, h₁.Keeps (h₁.counted v)) ∧
        ∀ k ∈ keywords, h₁.Keeps (h₁.counted k.2))

/-- An object that a later host makes is one that is made for the earlier one. -/
theorem Host.Made.of_later {h h₁ h₂ : Host} {binding : Binding} {arguments : List Value}
    {keywords : List (String × Value)} {o : ForeignObject} (hl : h.Later changed h₁)
    (hmade : h₁.Made binding arguments keywords o h₂) :
    h.Made binding arguments keywords o h₂ where
  size := Nat.le_trans hl.size hmade.size
  object cls hsegments hcls := by
    obtain ⟨as, has, ho, hkeeps⟩ :=
      hmade.object cls hsegments ((hl.class?_eq _ _).trans hcls)
    exact ⟨as, has, ho, fun hh => hkeeps (hl.orderly hh)⟩

namespace Bridge

variable (c : Configuration) (e : Environment) {s : Session Host}

/-- A new object is made on a later host. -/
theorem newObject_later (m : ManagedState) (binding : Binding) (arguments : List Value)
    (keywords : List (String × Value)) (hs : s.Imported) :
    Leads (Session.Later changed)
      (fun o t => s.world.Made binding arguments keywords o t.world)
      ((onHost c e).newObject m binding arguments keywords) s := by
  rw [newObject]
  refine Leads.bind (resolveBinding_later c e m binding hs) fun found t hl hfound => ?_
  refine Leads.bind (marshal_later c e m.token arguments keywords) fun marshalled u hl' hargs => ?_
  rw [instantiate]
  refine Leads.bind (.ask (.call m.token found.callable marshalled)
    (Host.Later.call (h := u.world.touched) (hl'.world.symbol hfound.1) marshalled))
    fun o v hl'' ho => ?_
  refine .of_ok rfl (.of_eq rfl rfl) ⟨?_, fun cls hsegments hcls => ?_⟩
  · exact Nat.le_trans hl.world.size (Nat.le_trans hl'.world.size ho.1)
  · have hclass := hl'.world.kept (hfound.2 cls hsegments hcls) (.inr rfl)
    obtain ⟨vs, ws, as, hvs, hws, has, hmade⟩ := ho.2 cls hclass
    obtain ⟨rfl, hkeeps⟩ := Host.peeks_of_given hargs.1 hvs hl''.world
    obtain ⟨rfl, hkeeps'⟩ := Host.peekEntries_of_given hargs.2 hws hl''.world
    refine ⟨as, has, hmade, fun hh => ?_⟩
    have horderly := hl'.world.orderly (hl.world.orderly hh)
    exact ⟨hkeeps horderly, hkeeps' horderly⟩

/-- A state is got on a later host. -/
theorem state_later (key : StateKey) :
    Leads (Session.Later changed) (fun _ _ => True) ((onHost c e).state key) s := by
  refine .of_rel (Within.keep ?_ (fun _ _ => .of_eq rfl rfl) s)
  intro s
  refine (Leads.bind (P := fun _ _ => True) (.ask .createState Host.Later.createState)
    fun token t _ _ => ?_).rel
  refine Leads.bind (.ask (Q := fun _ _ => True) (.extendSearchPath token _)
    (.of_ok rfl (.of_eq rfl rfl) trivial)) fun _ u _ _ => ?_
  exact .of_ok rfl (.of_eq rfl rfl) trivial

/-! ## Calls that create -/

/-- An interface is looked up without the host. -/
theorem interface_later (key : InterfaceKey) (i : Interface) :
    Leads (Session.Later changed)
      (fun kept t => s.ledger.validation key i = .ok kept ∧ t.world = s.world ∧
        t.ledger.importers = s.ledger.importers ∧ t.ledger.proxyTypes = s.ledger.proxyTypes)
      ((onHost c e).interface key i) s := by
  obtain ⟨houtcome, hworld, hproxyTypes, hstates⟩ := (onHost c e).interface_outcome key i s
  refine (Leads.quiet hworld hstates.importers).mono ?_
  rintro kept t - ⟨hkept, rfl⟩
  exact ⟨houtcome.symm.trans hkept, hworld, hstates.importers, hproxyTypes⟩

/-- A proxy type is looked up or built for the interface. -/
theorem proxyType_later (key : InterfaceKey) (i : Interface) :
    Leads (Session.Later changed) (fun type _ => s.ledger.tableFor key i = .ok type)
      ((onHost c e).proxyType key i) s := by
  obtain ⟨houtcome, hworld, hstates⟩ := (onHost c e).proxyType_outcome key i s
  refine (Leads.quiet hworld hstates.importers).mono ?_
  rintro type t - ⟨htype, rfl⟩
  exact houtcome.symm.trans htype

/-- A proxy is instantiated on a later host, for an object made there. -/
theorem instantiateProxy_later (key : InterfaceKey) (own : StateKey) (i : Interface)
    (arguments : List Value) (keywords : List (String × Value)) (hs : s.Imported) :
    Leads (Session.Later changed)
      (fun p t => s.ledger.tableFor key i = .ok p.type ∧ ∃ binding, i.binding = some binding ∧
        s.world.Made binding arguments keywords p.object t.world)
      ((onHost c e).instantiateProxy key own i arguments keywords) s := by
  rw [instantiateProxy_eq]
  refine .read (lift_apply _ s) fun binding hbinding => .read (lift_apply _ s) fun _ _ => ?_
  rw [bindProxy]
  refine Leads.bind (proxyType_later c e key i) fun type t hl htype => ?_
  refine Leads.bind (state_later c e _) fun m u hl' _ => ?_
  have hl'' := trans_of _ hl hl'
  refine Leads.bind (newObject_later c e m binding arguments keywords (hl''.imported hs))
    fun o v _ hmade => ?_
  exact .of_ok rfl (.of_eq rfl rfl)
    ⟨htype, binding, Interface.requireBinding_eq_ok_iff.mp hbinding, hmade.of_later hl''.world⟩

/-- A new instance in native form leads to a later host. -/
theorem createInstance_later (target : Target α) (moduleName className : String)
    (arguments : List Value) (hs : s.Imported) :
    Leads (Session.Later changed) (fun _ _ => True)
      ((onHost c e).createInstance target moduleName className arguments) s := by
  refine .observed _ _ (.read (lift_apply _ s) fun _ _ => ?_)
  refine Leads.bind (state_later c e _) fun m t hl _ => ?_
  refine Leads.bind (newObject_later c e m _ arguments [] (hl.imported hs)) fun o u _ _ => ?_
  refine Leads.bind (Q := fun _ _ => True) ?_ fun x v _ _ => .of_ok rfl (.of_eq rfl rfl) trivial
  rw [coerceTo]
  refine Leads.bind (.ask (.coerce m.token o) (Host.Later.coerce o)) fun v w _ _ => ?_
  exact .lift fun _ _ => trivial

end Bridge

/-- A table that is kept or drawn up for the interface of a key belongs to this interface. -/
theorem Ledger.Coherent.interface_of_table {l : Ledger} (hl : l.Coherent) {key : InterfaceKey}
    {i kept : Interface} {type : ProxyType} (hkept : l.validation key i = .ok kept)
    (htype : l.tableFor key kept = .ok type) : type.interface = kept := by
  rw [tableFor] at htype
  cases hfound : l.proxyTypes.find? key with
  | some known =>
      rw [hfound] at htype
      cases htype
      rw [validation, (hl.proxyTypes hfound).1] at hkept
      exact Except.ok.inj hkept
  | none =>
      rw [hfound] at htype
      exact (ProxyType.build_interface htype).2

namespace Bridge

variable (c : Configuration) (e : Environment) {s : Session Host}

/-- An object for a proxy is made of the class that the interface of the proxy is bound to. -/
theorem created_later (key : InterfaceKey) (own : StateKey) (i : Interface)
    (arguments : List Value) (keywords : List (String × Value)) (operation subject : String)
    (hs : s.Imported) :
    Leads (Session.Later changed)
      (fun p t => s.ledger.Coherent → ∃ binding, p.type.interface.binding = some binding ∧
        s.world.Made binding arguments keywords p.object t.world)
      (observed operation subject do
        let kept ← (onHost c e).interface key i
        (onHost c e).instantiateProxy key own kept arguments keywords) s := by
  refine .observed _ _ (Leads.bind (interface_later c e key i) fun kept t hl hkept => ?_)
  obtain ⟨hkept, hworld, himporters, hproxyTypes⟩ := hkept
  refine (instantiateProxy_later c e key own kept arguments keywords (hl.imported hs)).mono ?_
  rintro p u - ⟨htype, binding, hbinding, hmade⟩ hcoherent
  have htable : s.ledger.tableFor key kept = .ok p.type := by
    rw [Ledger.tableFor, hproxyTypes] at htype
    exact htype
  rw [hcoherent.interface_of_table hkept htable, ← hworld]
  exact ⟨binding, hbinding, hmade⟩

/-- An object that is wrapped leads to a later host. -/
theorem wrap_later (i : NativeInterface) (o : ForeignObject) (m : ManagedState) :
    Leads (Session.Later changed) (fun _ _ => True) ((onHost c e).wrap i o m) s := by
  refine .observed _ _ (Leads.bind (interface_later c e _ _) fun kept t _ _ => ?_)
  exact Leads.bind (proxyType_later c e _ kept) fun type u _ _ => .pure trivial

/-! ## Calls that are passed on -/

/-- A call changes the object that is called at most. -/
theorem callObject_later (p : Proxy) (operation foreignName : String) (arguments : List Value) :
    Leads (Session.Later (some p.object.handle)) (fun _ _ => True)
      ((onHost c e).callObject p operation foreignName arguments) s := by
  refine Leads.bind (marshal_later c e p.state.token arguments []) fun marshalled t _ _ => ?_
  refine Leads.bind (.ask (.callMethod p.state.token p.object foreignName marshalled.positional)
    (Host.Later.callMethod p.object foreignName marshalled.positional)) fun results u _ _ => ?_
  rw [unmarshal, toNativeEach]
  refine Leads.bind (.mapM (V := fun _ _ _ => True) (fun o _ v _ => ?_)
    fun _ _ _ _ _ _ => trivial) fun _ _ _ _ => .pure trivial
  exact (Leads.ask (.toNative p.state.token o) (Host.Later.valueOf o)).mono fun _ _ _ _ => trivial

/-- So does a call that is forwarded. -/
theorem forward_later (p : Proxy) (operation foreignName : String) (arguments : List Value) :
    s.Later (some p.object.handle)
      ((onHost c e).forward p operation foreignName arguments s).2 := by
  have h := (callObject_later c e p operation foreignName arguments (s := (s.entered
    (.opened ⟨p.interfaceName, operation, foreignName, p.state.id⟩)).entered .entered)).rel
  rw [forward_apply]
  generalize (onHost c e).callObject p operation foreignName arguments _ = ended at h ⊢
  obtain ⟨r, t⟩ := ended
  cases r with
  | ok v => exact ⟨h.world, h.imported⟩
  | error err => exact ⟨h.world, h.imported⟩

/-! ## Steps -/

end Bridge

/-- The handle of the object that a call is passed on to. -/
def Command.receiver? (call : Call) : Option Nat :=
  call.dispatch?.map fun d => d.proxy.object.handle

/-- The arguments of a call that makes an object for a proxy, by position and by name. -/
def Command.supplied? {π ς : Type} : Command π ς → Option (List Value × List (String × Value))
  | createProxy _ arguments keywords => some (arguments, keywords)
  | createDynamicProxy _ arguments => some (arguments, [])
  | _ => none

namespace Bridge

variable (c : Configuration) (e : Environment) {s : Session Host}

/-- A call that is passed on leaves what the call of the method leaves. -/
theorem step_of_dispatched {σ : Type} (b : Bridge σ) (s : Session σ) {call : Call} {d : Dispatch}
    (h : call.dispatch? = some d) :
    (b.step s call).after =
      (b.forward d.proxy d.operation d.foreignName d.arguments s).2 := by
  cases call with
  | invoke p operation arguments =>
      rw [Command.dispatch?] at h
      cases hroute : p.route operation arguments.length with
      | ok route =>
          rw [hroute] at h
          cases h
          exact congrArg (fun a => (a s).2) (b.invoke_of_route hroute)
      | error err =>
          rw [hroute] at h
          cases h
  | invokeAs p type operation arguments =>
      rw [Command.dispatch?] at h
      cases hroute : p.route operation arguments.length with
      | ok route =>
          rw [hroute] at h
          cases h
          refine (b.invokeAs_after p type operation arguments s).trans ?_
          exact congrArg (fun a => (a s).2) (b.invoke_of_route hroute)
      | error err =>
          rw [hroute] at h
          cases h
  | invokeMethod p name arguments =>
      cases h
      rfl
  | _ => cases h

/-- So does an operation. -/
theorem invoke_later (p : Proxy) (operation : String) (arguments : List Value) :
    s.Later (Command.receiver? (.invoke p operation arguments))
      ((onHost c e).invoke p operation arguments s).2 := by
  rw [Command.receiver?, Command.dispatch?]
  cases hroute : p.route operation arguments.length with
  | ok route =>
      rw [invoke_of_route _ hroute]
      exact forward_later c e p operation route.foreignName arguments
  | error err =>
      rw [invoke_of_no_route _ hroute]
      exact refl_of _ s

/-- Every call leads to a later session, in which no object has changed but the one that the call
was passed on to. -/
theorem step_later (hs : s.Imported) (call : Call) :
    s.Later call.receiver? ((onHost c e).step s call).after := by
  cases call with
  | createInstance target moduleName className arguments =>
      exact (createInstance_later c e target moduleName className arguments hs).rel
  | createProxy i arguments keywords =>
      exact (created_later c e _ _ i.interface arguments keywords _ _ hs).rel
  | createDynamicProxy i arguments => exact (created_later c e _ _ i arguments [] _ _ hs).rel
  | wrap i o m => exact (wrap_later c e i o m).rel
  | invoke p operation arguments => exact invoke_later c e p operation arguments
  | invokeAs p type operation arguments =>
      have h := invoke_later c e p operation arguments (s := s)
      rw [← invokeAs_after _ _ type] at h
      exact h
  | invokeMethod p name arguments => exact forward_later c e p name name arguments
  | shutdown => exact .of_eq rfl rfl

/-- A call that makes an object for a proxy makes a new instance of the class that the interface of
the proxy is bound to. -/
theorem step_made (hs : s.Imported) (hcoherent : s.ledger.Coherent) {call : Call} {p : Proxy}
    {arguments : List Value} {keywords : List (String × Value)}
    (hsupplied : call.supplied? = some (arguments, keywords))
    (hp : ((onHost c e).step s call).proxy? = some p) :
    ∃ binding, p.type.interface.binding = some binding ∧
      s.world.Made binding arguments keywords p.object ((onHost c e).step s call).after.world := by
  cases call with
  | createProxy i arguments keywords =>
      cases hsupplied
      have hok : ((onHost c e).createProxy i arguments keywords s).1 = .ok p :=
        eq_ok_of_toOption ((Step.proxy?_createProxy i arguments keywords).symm.trans hp)
      have hcreated : Leads (Session.Later none) _
          ((onHost c e).createProxy i arguments keywords) s :=
        created_later c e _ _ i.interface arguments keywords _ _ hs
      exact hcreated.ok hok hcoherent
  | createDynamicProxy i arguments =>
      cases hsupplied
      have hok : ((onHost c e).createDynamicProxy i arguments s).1 = .ok p :=
        eq_ok_of_toOption ((Step.proxy?_createDynamicProxy i arguments).symm.trans hp)
      have hcreated : Leads (Session.Later none) _
          ((onHost c e).createDynamicProxy i arguments) s :=
        created_later c e _ _ i arguments [] _ _ hs
      exact hcreated.ok hok hcoherent
  | _ => cases hsupplied

end Bridge

end ObjectBridge
