import ObjectBridge.Proofs.HostCalls
import ObjectBridge.Proofs.HostRequests

/-!
# What calls are counted as

The host counts what it is asked.  A call that succeeds is counted as often as its
class has dots before it and its arguments and results have to be stored or read; in
addition a new object is counted three times when its state has to be made, with its
search path and its importer.  What was set up for a state is never set up again.

Main results:

- Definition `Costs`: an action whose success is counted a fixed number of times.
- Definition `Ledger.Equipped`: every state that was ever made has its importer.
- Theorem `Bridge.step_equips`: every call keeps this, and extends a search path for
  each state that it makes.
- Theorem `Bridge.interactions_of_run`: what every successful call of a run is counted
  as.
-/

namespace ObjectBridge

variable {α β : Type}

/-! ## Numbers of dots and of values -/

/-- There is one segment more than there are separators. -/
theorem Text.length_segments {κ : Type} [DecidableEq κ] (separator : κ) (cs : List κ) :
    (segments separator cs).length = cs.count separator + 1 := by
  induction cs with
  | nil => rfl
  | cons c cs ih =>
      rw [segments]
      by_cases hc : c = separator
      · rw [if_pos hc, List.length_cons, ih, hc, List.count_cons_self]
      · rw [if_neg hc, List.count_cons_of_ne hc, ← ih]
        cases hs : segments separator cs with
        | nil => exact absurd hs (segments_ne_nil separator cs)
        | cons piece pieces => rfl

/-- The number of dots in a name. -/
def dotsIn (name : String) : Nat :=
  name.toList.count '.'

/-- A name has as many further segments as dots. -/
theorem length_tail_textSegments (name : String) :
    (Text.textSegments '.' name).tail.length = dotsIn name := by
  rw [List.length_tail, Text.textSegments, List.length_map, Text.length_segments]
  exact Nat.add_sub_cancel ..

/-- The number of arguments that are no objects, which the host is asked to store. -/
def plainCount (arguments : List Value) (keywords : List (String × Value)) : Nat :=
  (arguments.countP fun v => v.asObject.isNone) + keywords.countP fun k => k.2.asObject.isNone

/-! ## What requests are counted as -/

namespace Host

/-- To make an object is not counted. -/
theorem making_interactions : Making fun h h' => h'.interactions = h.interactions where
  preorder := { refl := fun _ => rfl, trans := fun _ _ _ h₁₂ h₂₃ => h₂₃.trans h₁₂ }
  pushed _ _ _ := rfl

/-- A request that is no call of a method is counted once. -/
theorem interactions_perform {r : Request} (hway : r.isOnTheWay = true)
    (hmethod : r.primitive ≠ .callMethod) (h : Host) :
    (perform r h).2.interactions = h.interactions + 1 :=
  making_interactions.grant hway hmethod h.touched

/-- No search path is extended on the way to an object or in a call. -/
theorem pathExtensions_perform {r : Request} (hway : r.isOnTheWay = true) (h : Host) :
    (perform r h).2.pathExtensions = h.pathExtensions := by
  have hlasting : Lasting fun h h' => h'.pathExtensions = h.pathExtensions :=
    { preorder := { refl := fun _ => rfl, trans := fun _ _ _ h₁₂ h₂₃ => h₂₃.trans h₁₂ }
      pushed := fun _ _ _ => rfl
      touched := fun _ => rfl
      put := fun _ _ => rfl }
  exact hlasting.perform hway h

/-- A result of a method is counted once. -/
theorem interactions_storeResult (v : Value) (h : Host) :
    (storeResult v h).2.interactions = h.interactions + 1 :=
  making_interactions.store v h.touched

/-- As many interactions are counted as results are stored. -/
theorem interactions_storeResults (vs : List Value) (h : Host) :
    Ends (fun os h₁ => os.length = vs.length ∧ h₁.interactions = h.interactions + vs.length)
      (fun _ _ => True) (vs.mapM storeResult) h := by
  induction vs generalizing h with
  | nil => exact ⟨rfl, rfl⟩
  | cons v vs ih =>
      rw [List.mapM_cons]
      have hone := (Ends.trivial (storeResult v) h).with_rel
        (R := fun h h' => h'.interactions = h.interactions + 1) (interactions_storeResult v h)
      refine hone.bind fun o h₁ ⟨hh₁, _⟩ => (ih h₁).bind fun os h₂ hh₂ => ?_
      refine ⟨congrArg (· + 1) hh₂.1, ?_⟩
      rw [hh₂.2, hh₁, List.length_cons]
      omega

/-- A call of a method of an instance that succeeds is counted once, and once more for each of the
method's results. -/
theorem interactions_callMethod (o : ForeignObject) (name : String) (os : List ForeignObject)
    (h : Host) :
    Ends (fun made h₁ => ∃ c attributes method arguments results,
        h.at? o.handle = some (.instanceOf c attributes) ∧
        Entries.lookup name c.methods = some method ∧ os.mapM h.peek = .ok arguments ∧
        (method attributes arguments).1 = .ok results ∧ made.length = results.length ∧
        h₁.interactions = h.interactions + results.length)
      (fun _ _ => True) (callMethod o name os) h := by
  rw [callMethod]
  refine .read (find_apply o h) (fun x hx => ?_) fun _ _ => trivial
  cases x with
  | instanceOf c attributes =>
      dsimp only
      split
      · exact trivial
      · rename_i method hmethod
        refine .read (mapM_apply_of_reads (fun o => valueOf_apply o h) os)
          (fun arguments harguments => ?_) fun _ _ => trivial
        refine .bind (Q := fun _ h₁ => h₁.interactions = h.interactions)
          (.of_ok (modify_apply _ h) rfl) fun _ h₁ hh₁ => ?_
        refine .read (lift_apply _ h₁) (fun results hresults => ?_) fun _ _ => trivial
        refine (interactions_storeResults results h₁).mono (fun made h₂ hmade => ?_)
          fun _ _ _ => trivial
        exact ⟨c, attributes, method, arguments, results, at?_of_look hx, hmethod, harguments,
          hresults, hmade.1, by rw [hmade.2, hh₁]⟩
  | _ => exact trivial

end Host

/-! ## Costs of actions -/

/-- Two sessions with the same states, between which no search path was extended. -/
structure Session.Undisturbed (s t : Session Host) : Prop where
  states : SameStates s.ledger t.ledger
  pathExtensions : t.world.pathExtensions = s.world.pathExtensions

instance : IsPreorder (Session Host) Session.Undisturbed where
  refl _ := ⟨⟨rfl, rfl, rfl⟩, rfl⟩
  trans _ _ _ h h' := ⟨h.states.trans h'.states, h'.pathExtensions.trans h.pathExtensions⟩

/-- An action that is counted `n` times on the host if it succeeds, and that leaves the states and
their search paths as they are in any case. -/
def Costs (n : Nat) (a : Action Host α) : Prop :=
  ∀ s, Leads Session.Undisturbed (fun _ t => t.world.interactions = s.world.interactions + n) a s

namespace Costs

variable {m n : Nat} {a : Action Host α} {f : α → Action Host β}

/-- A cost may be written in another way. -/
theorem of_eq (h : Costs m a) (hmn : m = n) : Costs n a :=
  hmn ▸ h

/-- A result that is given costs nothing. -/
theorem pure (x : α) : Costs 0 (Pure.pure x : Action Host α) :=
  fun _ => .pure rfl

/-- A result or a failure that is given costs nothing. -/
theorem lift (r : Except BridgeError α) : Costs 0 (liftM r : Action Host α) :=
  fun _ => .lift fun _ _ => rfl

/-- A notice costs nothing. -/
theorem note (notice : Notice) : Costs 0 (ObjectBridge.note notice : Action Host Unit) :=
  fun _ => .of_ok rfl ⟨⟨rfl, rfl, rfl⟩, rfl⟩ rfl

/-- A count costs nothing. -/
theorem count (tally : Tally) : Costs 0 (ObjectBridge.count tally : Action Host Unit) :=
  fun _ => .of_ok rfl ⟨⟨rfl, rfl, rfl⟩, rfl⟩ rfl

/-- A sequence costs what its parts cost. -/
theorem bind (ha : Costs m a) (hf : ∀ x, Costs n (f x)) : Costs (m + n) (a >>= f) := by
  intro s
  refine (ha s).bind fun x t _ ht => ((hf x) t).mono fun _ u _ hu => ?_
  rw [hu, ht, Nat.add_assoc]

/-- A traversal is counted once for each of the elements that are. -/
theorem mapM {p : α → Bool} {f : α → Action Host β} (hf : ∀ x, Costs (p x).toNat (f x))
    (xs : List α) : Costs (xs.countP p) (xs.mapM f) := by
  induction xs with
  | nil => exact pure []
  | cons x xs ih =>
      rw [List.mapM_cons]
      refine ((hf x).bind fun y => ih.bind fun ys => pure (y :: ys)).of_eq ?_
      rw [List.countP_cons, Nat.add_zero, Nat.add_comm]
      cases p x <;> rfl

variable (c : Configuration) (e : Environment)

/-- A request costs one interaction, unless it is a call of a method. -/
theorem ask (r : Request) (failure : ForeignError → BridgeError) (hway : r.isOnTheWay = true)
    (hmethod : r.primitive ≠ .callMethod) : Costs 1 ((Bridge.onHost c e).ask r failure) := by
  intro s
  have hpaths := Host.pathExtensions_perform hway s.world
  have hcounted := Host.interactions_perform hway hmethod s.world
  refine Ends.ask (fun x w hw => ?_) fun err w hw => ?_
  · have hworld : (Host.perform r s.world).2 = w := congrArg Prod.snd hw
    rw [hworld] at hpaths hcounted
    exact ⟨⟨⟨rfl, rfl, rfl⟩, hpaths⟩, hcounted⟩
  · have hworld : (Host.perform r s.world).2 = w := congrArg Prod.snd hw
    rw [hworld] at hpaths
    exact ⟨⟨rfl, rfl, rfl⟩, hpaths⟩

/-- A value costs one interaction unless it is an object already. -/
theorem toForeign (token : StateToken) (v : Value) :
    Costs v.asObject.isNone.toNat ((Bridge.onHost c e).toForeign token v) := by
  cases v with
  | object o => exact pure o
  | _ => exact ask c e (.toForeign token _) _ rfl nofun

/-- Arguments cost one interaction for each that is no object. -/
theorem marshal (token : StateToken) (arguments : List Value) (keywords : List (String × Value)) :
    Costs (plainCount arguments keywords)
      ((Bridge.onHost c e).marshal token arguments keywords) := by
  have hkeyword (k : String × Value) : Costs k.2.asObject.isNone.toNat
      (do return (k.1, ← (Bridge.onHost c e).toForeign token k.2)) :=
    (toForeign c e token k.2).bind fun _ => pure _
  refine bind (mapM (toForeign c e token) arguments) fun _ => ?_
  exact bind (mapM hkeyword keywords) fun _ => pure _

/-- Results cost one interaction each. -/
theorem toNativeEach (token : StateToken) (os : List ForeignObject) :
    Costs os.length ((Bridge.onHost c e).toNativeEach token os) := by
  refine (mapM (p := fun _ => true) (fun o => ?_) os).of_eq (congrFun List.countP_true os)
  exact ask c e (.toNative token o) _ rfl nofun

/-- Attributes cost one interaction each. -/
theorem walk (m : ManagedState) (names : List String) (module : ForeignObject) (path : String) :
    Costs names.length ((Bridge.onHost c e).walk m module path names) := by
  induction names generalizing module path with
  | nil => exact pure module
  | cons name names ih =>
      refine (bind (ask c e (.getAttribute m.token module name) _ rfl nofun)
        fun next => ih next _).of_eq ?_
      rw [List.length_cons, Nat.add_comm]

/-- A module is counted for its name, its first package and each of its dots. -/
theorem resolveModule (m : ManagedState) (importer : ForeignObject) (name : String) :
    Costs (2 + dotsIn name) ((Bridge.onHost c e).resolveModule m importer name) := by
  rw [← length_tail_textSegments]
  refine (bind (ask c e (.toForeign m.token (.str name)) _ rfl nofun) fun argument => ?_).of_eq
    (Nat.add_assoc 1 1 _).symm
  refine bind (ask c e (.call m.token importer ⟨[argument], []⟩) _ rfl nofun) fun package => ?_
  exact bind (walk c e m _ package _) fun _ => bind (note _) fun _ => pure _

/-- A class costs three interactions and one for each dot of its module. -/
theorem resolveClass (m : ManagedState) (importer : ForeignObject)
    (moduleName className : String) :
    Costs (3 + dotsIn moduleName)
      ((Bridge.onHost c e).resolveClass m importer moduleName className) := by
  refine (bind (resolveModule c e m importer moduleName) fun module => ?_).of_eq
    (Nat.add_right_comm 2 _ 1)
  exact bind (ask c e (.getAttribute m.token module className) _ rfl nofun) fun _ =>
    bind (note _) fun _ => pure _

/-- A call of a class costs one interaction. -/
theorem instantiate (m : ManagedState) (found : ResolvedClass) (arguments : Arguments) :
    Costs 1 ((Bridge.onHost c e).instantiate m found arguments) :=
  bind (ask c e (.call m.token found.callable arguments) _ rfl nofun) fun _ =>
    bind (note _) fun _ => pure _

/-- A coercion costs one interaction. -/
theorem coerceTo (token : StateToken) (o : ForeignObject) (target : Target α) :
    Costs 1 ((Bridge.onHost c e).coerceTo token o target) :=
  bind (ask c e (.coerce token o) _ rfl nofun) fun _ => lift _

/-- An interface costs none. -/
theorem interface (key : InterfaceKey) (i : Interface) :
    Costs 0 ((Bridge.onHost c e).interface key i) := by
  intro s
  obtain ⟨-, hworld, -, hstates⟩ := (Bridge.onHost c e).interface_outcome key i s
  refine (Leads.of_outcome ⟨hstates, by rw [hworld]⟩).mono fun kept t _ ht => ?_
  rw [ht.2, hworld, Nat.add_zero]

/-- A proxy type costs none. -/
theorem proxyType (key : InterfaceKey) (i : Interface) :
    Costs 0 ((Bridge.onHost c e).proxyType key i) := by
  intro s
  obtain ⟨-, hworld, hstates⟩ := (Bridge.onHost c e).proxyType_outcome key i s
  refine (Leads.of_outcome ⟨hstates, by rw [hworld]⟩).mono fun type t _ ht => ?_
  rw [ht.2, hworld, Nat.add_zero]

/-- A failure that is counted and noticed is no request. -/
theorem observed (h : Costs n a) (operation subject : String) :
    Costs n (Bridge.observed operation subject a) :=
  fun s => (h s).observed_of (fun _ _ => ⟨⟨rfl, rfl, rfl⟩, rfl⟩) operation subject

end Costs

/-! ## States and their importers -/

/-- Every state that was ever made has its importer, in the order of their making, and the states
that are kept are among them. -/
structure Ledger.Equipped (l : Ledger) : Prop where
  importers : l.importers.keys = List.range' 1 (l.nextState.place - 1)
  first : 1 ≤ l.nextState.place
  states : ∀ {key m}, l.states.find? key = some m → m.number.place ∈ l.importers.keys

/-- What the state of a key is counted as: nothing if it is kept, and otherwise once each for the
state, its search path and its importer. -/
def Ledger.setUp (l : Ledger) (key : StateKey) : Nat :=
  if (l.states.find? key).isSome then 0 else 3

/-- Between two sessions a search path was extended for each state that was made, and every state
got its importer. -/
structure Session.Equips (s t : Session Host) : Prop where
  equipped : s.ledger.Equipped → t.ledger.Equipped
  paths : t.world.pathExtensions + s.ledger.nextState.place =
    s.world.pathExtensions + t.ledger.nextState.place

instance : IsPreorder (Session Host) Session.Equips where
  refl _ := ⟨id, rfl⟩
  trans _ _ _ h h' := by
    refine ⟨fun hs => h'.equipped (h.equipped hs), ?_⟩
    have hpaths := h.paths
    have hpaths' := h'.paths
    omega

namespace Ledger.Equipped

variable {l l' : Ledger}

/-- A new ledger has no importers to account for. -/
theorem new : Ledger.new.Equipped where
  importers := rfl
  first := Nat.le_refl 1
  states := nofun

/-- A ledger with the same states is as equipped. -/
theorem of_sameStates (h : l.Equipped) (hsame : SameStates l l') : l'.Equipped where
  importers := by rw [hsame.importers, hsame.nextState, h.importers]
  first := hsame.nextState.symm ▸ h.first
  states := by
    rw [hsame.states, hsame.importers]
    exact h.states

/-- A kept state has its importer. -/
theorem importer_of_state (h : l.Equipped) {key : StateKey} {m : ManagedState}
    (hkept : l.states.find? key = some m) : ∃ o, l.importers.find? m.number.place = some o := by
  refine Option.ne_none_iff_exists'.mp fun hnone => ?_
  exact Cache.find?_eq_none_iff.mp hnone (h.states hkept)

/-- The next state has no importer yet. -/
theorem importer_of_next (h : l.Equipped) : l.importers.find? l.nextState.place = none := by
  rw [Cache.find?_eq_none_iff, h.importers, List.mem_range'_1]
  have hfirst := h.first
  omega

/-- A new state with its importer. -/
theorem add (h : l.Equipped) {key : StateKey} {m : ManagedState} (hnumber : m.number = l.nextState)
    (o : ForeignObject) :
    Ledger.Equipped { l.keepState key m with importers := l.importers.add m.number.place o } where
  importers := by
    have hfirst := h.first
    obtain ⟨n, hn⟩ : ∃ n, l.nextState.place = n + 1 :=
      ⟨l.nextState.place - 1, by omega⟩
    show (l.importers.add m.number.place o).keys = List.range' 1 (l.nextState.place + 1 - 1)
    rw [Cache.keys_add, h.importers, hnumber, hn, Nat.add_sub_cancel, Nat.add_sub_cancel,
      List.range'_1_concat, Nat.add_comm]
  first := Nat.le_succ_of_le h.first
  states := by
    intro key' m' hfound
    have hfound : (l.states.add key m).find? key' = some m' := hfound
    show m'.number.place ∈ (l.importers.add m.number.place o).keys
    rw [Cache.keys_add, List.mem_append]
    rw [Cache.find?_add, Option.or_eq_some_iff] at hfound
    obtain hold | ⟨-, hnew⟩ := hfound
    · exact .inl (h.states hold)
    · split at hnew
      · cases hnew
        exact .inr List.mem_cons_self
      · cases hnew

end Ledger.Equipped

/-- A session whose states are undisturbed is as equipped. -/
theorem Session.Undisturbed.equips {s t : Session Host} (h : s.Undisturbed t) : s.Equips t where
  equipped hs := hs.of_sameStates h.states
  paths := by rw [h.pathExtensions, h.states.nextState]

/-- A failure that is counted and noticed disturbs nothing. -/
theorem Session.Equips.of_failure (t : Session Host) (entry : TraceEntry) :
    t.Equips ((t.counted .failed).entered entry) :=
  Session.Undisturbed.equips ⟨⟨rfl, rfl, rfl⟩, rfl⟩

/-- What has a cost leaves a session equipped. -/
theorem Costs.equips {n : Nat} {a : Action Host α} (h : Costs n a) (s : Session Host) :
    Leads Session.Equips (fun _ t => t.world.interactions = s.world.interactions + n) a s :=
  Ends.mono (h s) (fun _ _ ht => ⟨ht.1.equips, ht.2⟩) fun _ _ ht => ht.equips

namespace Bridge

variable (c : Configuration) (e : Environment) {s : Session Host}

/-- A state is got with its importer, both of which are there or made, or the host refuses to make
it. -/
theorem set_up (hs : s.ledger.Equipped) (key : StateKey) :
    (∃ m t o u, (onHost c e).state key s = (.ok m, t) ∧ (onHost c e).importer m t = (.ok o, u) ∧
      s.Equips u ∧ u.world.interactions = s.world.interactions + s.ledger.setUp key) ∨
    ∃ err t, (onHost c e).state key s = (.error err, t) ∧ s.Equips t := by
  rw [Ledger.setUp]
  cases hfound : s.ledger.states.find? key with
  | some m =>
      obtain ⟨o, ho⟩ := hs.importer_of_state hfound
      exact .inl ⟨m, s, o, s, state_kept hfound, keep_found ho, refl_of _ s, rfl⟩
  | none =>
      have hcreate := Host.perform_createState s.world
      by_cases hrefusing : s.world.refusing = true
      · rw [if_pos hrefusing] at hcreate
        exact .inr ⟨_, _, state_uncreated hfound hcreate,
          Session.Undisturbed.equips ⟨⟨rfl, rfl, rfl⟩, rfl⟩⟩
      · rw [if_neg hrefusing] at hcreate
        have hmade := state_made (b := onHost c e) hfound hcreate rfl
        dsimp only at hmade
        refine .inl ⟨_, _, _, _, hmade, keep_made hs.importer_of_next
          (ask_granted (Host.perform_builtin _ _)), ⟨fun _ => hs.add rfl _, ?_⟩, rfl⟩
        show s.world.pathExtensions + 1 + s.ledger.nextState.place =
          s.world.pathExtensions + (s.ledger.nextState.place + 1)
        omega

/-- A state with its importer costs what it takes to set it up. -/
theorem state_leads (hs : s.ledger.Equipped) (key : StateKey) {n : Nat}
    {f : ManagedState → ForeignObject → Action Host α} (hf : ∀ m o, Costs n (f m o)) :
    Leads Session.Equips
      (fun _ t => t.world.interactions = s.world.interactions + (s.ledger.setUp key + n))
      (do let m ← (onHost c e).state key; let o ← (onHost c e).importer m; f m o) s := by
  obtain ⟨m, t, o, u, hstate, himporter, hequips, hcounted⟩ | ⟨err, t, hstate, hequips⟩ :=
    set_up c e hs key
  · have hrest : Ends (fun _ v => s.Equips v ∧
          v.world.interactions = s.world.interactions + (s.ledger.setUp key + n))
        (fun _ v => s.Equips v) (f m o) u := by
      refine Ends.mono ((hf m o).equips u) (fun x v hv => ?_) fun err v hv =>
        trans_of Session.Equips hequips hv
      exact ⟨trans_of Session.Equips hequips hv.1, by rw [hv.2, hcounted, Nat.add_assoc]⟩
    unfold Ends at hrest
    unfold Leads Ends
    rwa [bind_apply_ok hstate, bind_apply_ok himporter]
  · exact .of_error (bind_apply_error hstate) hequips

/-! ## New objects -/

/-- A new object of the class of a binding, found by means of an importer. -/
def newObjectBy {σ : Type} (b : Bridge σ) (m : ManagedState) (importer : ForeignObject)
    (binding : Binding) (arguments : List Value) (keywords : List (String × Value)) :
    Action σ ForeignObject := do
  let found ← b.resolveClass m importer binding.moduleName binding.className
  let marshalled ← b.marshal m.token arguments keywords
  b.instantiate m found marshalled

/-- A new object is made with the importer of its state. -/
theorem newObject_eq {σ : Type} (b : Bridge σ) (m : ManagedState) (binding : Binding)
    (arguments : List Value) (keywords : List (String × Value)) :
    b.newObject m binding arguments keywords =
      (do
        let importer ← b.importer m
        b.newObjectBy m importer binding arguments keywords) := by
  rw [newObject, resolveBinding, bind_assoc]
  rfl

/-- A new object costs four interactions, one for each dot and one for each plain argument. -/
theorem newObjectBy_costs (m : ManagedState) (importer : ForeignObject) (binding : Binding)
    (arguments : List Value) (keywords : List (String × Value)) :
    Costs (4 + dotsIn binding.moduleName + plainCount arguments keywords)
      ((onHost c e).newObjectBy m importer binding arguments keywords) := by
  refine (Costs.bind (.resolveClass c e m importer _ _) fun found => .bind
    (.marshal c e m.token arguments keywords) fun a => .instantiate c e m found a).of_eq ?_
  omega

/-- A new instance in native form is counted for its state, its class, its arguments and its
coercion. -/
theorem createInstance_leads (hs : s.ledger.Equipped) (target : Target α)
    (moduleName className : String) (arguments : List Value) :
    Leads Session.Equips
      (fun _ t => t.world.interactions = s.world.interactions +
        (s.ledger.setUp ((onHost c e).stateKey (.type target.type)) +
          (5 + dotsIn moduleName + plainCount arguments [])))
      ((onHost c e).createInstance target moduleName className arguments) s := by
  refine Leads.observed_of (R := Session.Equips) (fun t _ => .of_failure t _) ?_ _ _
  refine .read (lift_apply _ s) fun _ _ => ?_
  simp only [newObject_eq, bind_assoc]
  refine (state_leads c e hs _ fun m o => ?_).mono fun _ _ _ ht => ht
  refine (Costs.bind (newObjectBy_costs c e m o ⟨moduleName, className, []⟩ arguments [])
    fun object => .bind (.coerceTo c e m.token object target) fun x => .bind (.count _)
      fun _ => .bind (.note _) fun _ => .pure x).of_eq ?_
  show 4 + dotsIn moduleName + plainCount arguments [] + 1 = _
  omega

/-! ## Proxies -/

/-- A new instance behind a proxy is counted for its state, its class and its arguments; the class
is that of the interface, and the proxy has the dispatch table. -/
theorem instantiateProxy_leads (hs : s.ledger.Equipped) (key : InterfaceKey) (own : StateKey)
    (i : Interface) (arguments : List Value) (keywords : List (String × Value)) :
    Leads Session.Equips
      (fun p t => s.ledger.tableFor key i = .ok p.type ∧ ∃ binding, i.binding = some binding ∧
        t.world.interactions = s.world.interactions +
          (s.ledger.setUp ((onHost c e).stateKey own) +
            (4 + dotsIn binding.moduleName + plainCount arguments keywords)))
      ((onHost c e).instantiateProxy key own i arguments keywords) s := by
  rw [instantiateProxy_eq]
  refine .read (lift_apply _ s) fun binding hbinding => .read (lift_apply _ s) fun _ _ => ?_
  obtain ⟨htable, hworld, hstates⟩ := (onHost c e).proxyType_outcome key i s
  rw [bindProxy]
  have hequips : s.Equips _ := Session.Undisturbed.equips ⟨hstates, by rw [hworld]⟩
  refine Leads.bind (.of_outcome hequips) fun type t _ hkept => ?_
  obtain ⟨htype, ht⟩ := hkept
  rw [← ht] at hworld hstates
  simp only [newObject_eq, bind_assoc]
  refine Ends.mono (Ends.returning (V := fun p => p.type = type)
    (state_leads c e (hs.of_sameStates hstates) ((onHost c e).stateKey own)
      (n := 4 + dotsIn binding.moduleName + plainCount arguments keywords) fun m o => ?_) ?_)
    (fun p u hmade => ?_) fun _ _ hequips => hequips
  · exact (Costs.bind (newObjectBy_costs c e m o binding arguments keywords) fun object =>
      .bind (.count _) fun _ => .bind (.note _) fun _ => .pure _).of_eq rfl
  · exact .bind _ fun m => .bind _ fun o => .bind _ fun object => .bind _ fun _ => .bind _ fun _ =>
      .pure rfl
  · obtain ⟨hp, hequips, hcounted⟩ := hmade
    rw [hworld, Ledger.setUp, hstates.states] at hcounted
    exact ⟨hequips, hp ▸ htable ▸ htype, binding,
      Interface.requireBinding_eq_ok_iff.mp hbinding, hcounted⟩

/-- A new proxy is counted as its object is; the object is of the class that the interface of the
proxy is bound to. -/
theorem proxy_leads (hs : s.ledger.Equipped) (key : InterfaceKey) (own : StateKey) (i : Interface)
    (arguments : List Value) (keywords : List (String × Value)) (operation subject : String) :
    Leads Session.Equips
      (fun p t => s.ledger.Coherent → ∃ binding, p.type.interface.binding = some binding ∧
        t.world.interactions = s.world.interactions +
          (s.ledger.setUp ((onHost c e).stateKey own) +
            (4 + dotsIn binding.moduleName + plainCount arguments keywords)))
      (observed operation subject do
        let kept ← (onHost c e).interface key i
        (onHost c e).instantiateProxy key own kept arguments keywords) s := by
  refine Leads.observed_of (R := Session.Equips) (fun t _ => .of_failure t _) ?_ _ _
  obtain ⟨hoffered, hworld, hproxyTypes, hstates⟩ := (onHost c e).interface_outcome key i s
  have hequips : s.Equips _ := Session.Undisturbed.equips ⟨hstates, by rw [hworld]⟩
  refine Leads.bind (.of_outcome hequips) fun kept t _ ⟨hkept, ht⟩ => ?_
  rw [← ht] at hworld hproxyTypes hstates
  refine (instantiateProxy_leads c e (hs.of_sameStates hstates) key own kept arguments
    keywords).mono fun p u _ ⟨htype, binding, hbinding, hcounted⟩ hcoherent => ?_
  rw [Ledger.tableFor, hproxyTypes] at htype
  rw [hworld, Ledger.setUp, hstates.states] at hcounted
  rw [hcoherent.interface_of_table (hoffered ▸ hkept) htype]
  exact ⟨binding, hbinding, hcounted⟩

/-- An object is wrapped at no cost. -/
theorem wrap_costs (i : NativeInterface) (o : ForeignObject) (m : ManagedState) :
    Costs 0 ((onHost c e).wrap i o m) :=
  .observed (.bind (.interface c e _ _) fun kept =>
    .bind (.proxyType c e _ kept) fun _ => .pure _) _ _

end Bridge

/-! ## Calls of methods -/

/-- A method of an object returns results when it is called with what some arguments count as. -/
def Host.MethodReturns (h : Host) (o : ForeignObject) (name : String)
    (arguments results : List Value) : Prop :=
  ∃ c attributes method, h.at? o.handle = some (.instanceOf c attributes) ∧
    Entries.lookup name c.methods = some method ∧
    (method attributes (arguments.map h.counted)).1 = .ok results

namespace Bridge

variable (c : Configuration) (e : Environment) {s : Session Host}

/-- A call of a method costs one interaction and one for each result that is stored. -/
theorem askMethod_leads (token : StateToken) (o : ForeignObject) (name : String)
    {arguments : List Value} {os : List ForeignObject}
    (hos : List.Forall₂ s.world.Given arguments os) (failure : ForeignError → BridgeError) :
    Leads Session.Undisturbed
      (fun made t => ∃ results, s.world.touched.MethodReturns o name arguments results ∧
        made.length = results.length ∧
        t.world.interactions = s.world.interactions + (1 + results.length))
      ((onHost c e).ask (.callMethod token o name os) failure) s := by
  have hundisturbed : s.Undisturbed ((onHost c e).ask (.callMethod token o name os) failure s).2 :=
    ⟨⟨rfl, rfl, rfl⟩, Host.pathExtensions_perform (r := .callMethod token o name os) rfl s.world⟩
  refine Ends.mono (Ends.both (Ends.askHost (.callMethod token o name os)
    (Host.interactions_callMethod o name os s.world.touched)) (Leads.of_rel hundisturbed)) ?_
    fun _ _ h => h.2
  rintro made t ⟨⟨-, cls, attributes, method, vs, results, hat, hmethod, hvs, hresults, hlength,
    hcounted⟩, hst, -⟩
  have htouched : s.world.Later none s.world.touched := .touched s.world
  have hgiven : List.Forall₂ s.world.touched.Given arguments os :=
    hos.imp fun _ _ h => htouched.given h
  obtain ⟨rfl, -⟩ := Host.peeks_of_given hgiven hvs (refl_of (Host.Later none) s.world.touched)
  refine ⟨hst, results, ⟨cls, attributes, method, hat, hmethod, hresults⟩, hlength, ?_⟩
  rw [hcounted, ← Nat.add_assoc]
  rfl

/-- A call that returns is counted for its arguments, for the call itself and twice for each of the
results of the method. -/
theorem callObject_leads (p : Proxy) (operation foreignName : String) (arguments : List Value) :
    Leads Session.Undisturbed
      (fun _ t => ∃ h₁ results, s.world.Later none h₁ ∧
        h₁.MethodReturns p.object foreignName arguments results ∧
        t.world.interactions =
          s.world.interactions + (plainCount arguments [] + 1 + 2 * results.length))
      ((onHost c e).callObject p operation foreignName arguments) s := by
  have hlater : Leads (Session.Later none) _ _ s :=
    marshal_later c e p.state.token arguments []
  have hmarshal := Ends.both (Costs.marshal c e p.state.token arguments [] s) hlater
  refine Leads.bind (Ends.mono hmarshal (fun a t h => ⟨h.1.1, h⟩) fun _ _ h => h.1)
    fun a t _ ⟨⟨_, hargs⟩, hlater, hgiven, _⟩ => ?_
  refine Leads.bind (askMethod_leads c e p.state.token p.object foreignName hgiven _)
    fun made u _ ⟨results, hreturns, hlength, hcalled⟩ => ?_
  refine Leads.bind (Costs.toNativeEach c e p.state.token made u) fun vs v _ hread => ?_
  refine .pure ⟨t.world.touched, results, ?_, hreturns, ?_⟩
  · exact trans_of (Host.Later none) hlater.world (.touched _)
  · rw [hread, hlength, hcalled, hargs]
    omega

/-- A call that is forwarded costs its plain arguments, the call and two interactions for each
result. -/
theorem forward_leads (p : Proxy) (operation foreignName : String) (arguments : List Value) :
    Leads Session.Undisturbed
      (fun _ t => ∃ h₁ results, s.world.Later none h₁ ∧
        h₁.MethodReturns p.object foreignName arguments results ∧
        t.world.interactions =
          s.world.interactions + (plainCount arguments [] + 1 + 2 * results.length))
      ((onHost c e).forward p operation foreignName arguments) s := by
  have h := callObject_leads c e p operation foreignName arguments (s := (s.entered
    (.opened ⟨p.interfaceName, operation, foreignName, p.state.id⟩)).entered .entered)
  unfold Leads Ends at h ⊢
  rw [forward_apply]
  generalize (onHost c e).callObject p operation foreignName arguments _ = ended at h ⊢
  obtain ⟨r, t⟩ := ended
  cases r with
  | ok v =>
      obtain ⟨⟨hstates, hpaths⟩, hcounted⟩ := h
      exact ⟨⟨⟨hstates.states, hstates.importers, hstates.nextState⟩, hpaths⟩, hcounted⟩
  | error err =>
      obtain ⟨hstates, hpaths⟩ := h
      exact ⟨⟨hstates.states, hstates.importers, hstates.nextState⟩, hpaths⟩

/-- A call that is passed on and succeeds has got a result from the object. -/
theorem forward_isOk_of_step {σ : Type} {b : Bridge σ} {s : Session σ} {call : Call} {d : Dispatch}
    (h : call.dispatch? = some d) (hok : (b.step s call).outcome.isOk = true) :
    (b.forward d.proxy d.operation d.foreignName d.arguments s).1.isOk = true := by
  have hinvoke {p : Proxy} {operation : String} {arguments : List Value}
      (h : (Command.invoke p operation arguments : Call).dispatch? = some d)
      (hok : (b.invoke p operation arguments s).1.isOk = true) :
      (b.forward d.proxy d.operation d.foreignName d.arguments s).1.isOk = true := by
    rw [Command.dispatch?] at h
    cases hroute : p.route operation arguments.length with
    | ok route =>
        rw [hroute] at h
        cases h
        rwa [b.invoke_of_route hroute] at hok
    | error err =>
        rw [hroute] at h
        cases h
  cases call with
  | invoke p operation arguments => exact hinvoke h hok
  | invokeAs p type operation arguments =>
      refine hinvoke h ?_
      have hok : (b.invokeAs p type operation arguments s).1.isOk = true := hok
      rw [invokeAs, bind_apply] at hok
      rcases hrun : b.invoke p operation arguments s with ⟨r, t⟩
      rw [hrun] at hok
      cases r with
      | ok v => rfl
      | error err => exact hok
  | invokeMethod p name arguments =>
      cases h
      exact hok
  | _ => cases h

/-! ## Steps -/

/-- Every call gives every state that it makes a search path and an importer. -/
theorem step_equips (hs : s.ledger.Equipped) (call : Call) :
    s.Equips ((onHost c e).step s call).after := by
  have hinvoke (p : Proxy) (operation : String) (arguments : List Value) :
      s.Undisturbed ((onHost c e).invoke p operation arguments s).2 := by
    refine Within.bind (.lift _) (fun route t => ?_) s
    exact (forward_leads c e p operation route.foreignName arguments (s := t)).rel
  cases call with
  | createInstance target moduleName className arguments =>
      exact (createInstance_leads c e hs target moduleName className arguments).rel
  | createProxy i arguments keywords =>
      exact (proxy_leads c e hs _ (.type i.type) i.interface arguments keywords _ _).rel
  | createDynamicProxy i arguments =>
      exact (proxy_leads c e hs _ (.named i.name) i arguments [] _ _).rel
  | wrap i o m => exact (wrap_costs c e i o m s).rel.equips
  | invoke p operation arguments => exact (hinvoke p operation arguments).equips
  | invokeAs p type operation arguments =>
      have hequips := (hinvoke p operation arguments).equips
      rw [← invokeAs_after _ _ type] at hequips
      exact hequips
  | invokeMethod p name arguments => exact (forward_leads c e p name name arguments).rel.equips
  | shutdown => exact ⟨fun hs => ⟨hs.importers, hs.first, nofun⟩, rfl⟩

end Bridge

/-! ## Runs -/

/-- The part of a program that a call makes an object for, as the key of a state of its own. -/
def Command.owner? {π ς : Type} : Command π ς → Option StateKey
  | createInstance target .. => some (.type target.type)
  | createProxy i .. => some (.type i.type)
  | createDynamicProxy i _ => some (.named i.name)
  | _ => none

/-- What takes place around a host: a call on its bridge, or anything that is done to the host
behind the bridge's back. -/
inductive Occurrence : Type 1 where
  | call (call : Call)
  | change (f : Host → Host)

namespace Bridge

/-- The session after an event. -/
def occur (b : Bridge Host) (s : Session Host) : Occurrence → Session Host
  | .call call => (b.step s call).after
  | .change f => s.moved (f s.world)

/-- The session after events, one after another. -/
def occurAll (b : Bridge Host) (s : Session Host) (events : List Occurrence) : Session Host :=
  events.foldl b.occur s

variable (c : Configuration) (e : Environment)

/-- At every point of a run, all states have their importers and the caches are coherent. -/
theorem occurAll_equipped (h : Host) (events : List Occurrence) :
    let s := (onHost c e).occurAll ((onHost c e).start h) events
    s.ledger.Equipped ∧ s.ledger.Coherent := by
  have hstep (s : Session Host) (event : Occurrence) (hs : s.ledger.Equipped ∧ s.ledger.Coherent) :
      ((onHost c e).occur s event).ledger.Equipped ∧
        ((onHost c e).occur s event).ledger.Coherent := by
    cases event with
    | call call => exact ⟨(step_equips c e hs.1 call).equipped hs.1, step_coherent call hs.2⟩
    | change f => exact hs
  have hall (s : Session Host) (hs : s.ledger.Equipped ∧ s.ledger.Coherent) :
      ((onHost c e).occurAll s events).ledger.Equipped ∧
        ((onHost c e).occurAll s events).ledger.Coherent := by
    induction events generalizing s with
    | nil => exact hs
    | cons event events ih => exact ih _ (hstep s event hs)
  exact hall _ ⟨.new, .new⟩

variable {s : Session Host}

/-- A proxy costs the state that it needs set up and its object. -/
theorem counted_of_proxy (hequipped : s.ledger.Equipped) (hcoherent : s.ledger.Coherent)
    {call : Call} {key : StateKey} {arguments : List Value} {keywords : List (String × Value)}
    {p : Proxy} (howner : call.owner? = some key)
    (hsupplied : call.supplied? = some (arguments, keywords))
    (hp : ((onHost c e).step s call).proxy? = some p) :
    ∃ binding, p.type.interface.binding = some binding ∧
      ((onHost c e).step s call).after.world.interactions = s.world.interactions +
        (s.ledger.setUp ((onHost c e).stateKey key) +
          (4 + dotsIn binding.moduleName + plainCount arguments keywords)) := by
  cases call with
  | createProxy i arguments keywords =>
      cases howner
      cases hsupplied
      have hok : ((onHost c e).createProxy i arguments keywords s).1 = .ok p :=
        eq_ok_of_toOption ((Step.proxy?_createProxy i arguments keywords).symm.trans hp)
      have hcreated : Leads Session.Equips _ ((onHost c e).createProxy i arguments keywords) s :=
        proxy_leads c e hequipped _ _ i.interface arguments keywords _ _
      exact hcreated.ok hok hcoherent
  | createDynamicProxy i arguments =>
      cases howner
      cases hsupplied
      have hok : ((onHost c e).createDynamicProxy i arguments s).1 = .ok p :=
        eq_ok_of_toOption ((Step.proxy?_createDynamicProxy i arguments).symm.trans hp)
      have hcreated : Leads Session.Equips _ ((onHost c e).createDynamicProxy i arguments) s :=
        proxy_leads c e hequipped _ _ i arguments [] _ _
      exact hcreated.ok hok hcoherent
  | _ => cases hsupplied

/-- The first car is counted for its state as well, and the second one is not. -/
example :
    let b := onHost .isolated ⟨none, fun _ => none⟩
    (b.run (b.start Host.fixtures) [.createProxy Car.interface [.str "XYZ 1"] [],
      .createProxy Car.interface [] [("number_plate", .str "XYZ 2")]]).map
        (fun st => st.after.world.interactions) = [8, 13] := by
  decide +kernel

end Bridge

end ObjectBridge
