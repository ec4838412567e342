import ObjectBridge.Proofs.Lockstep
import ObjectBridge.Proofs.TwinRequests

/-!
# Sessions on twin hosts

Two bridges over twin hosts may keep different states, made at different times and
under different keys, and the importers of these.  As long as neither host refuses
to make states, getting one is nothing but an aside, and so is finding its importer
and letting go of all states.  So the two bridges are in lockstep.

Main results:

- Definition `Session.Twin`: sessions that differ in their states only.
- Theorems `Bridge.state_aside`, `Bridge.importer_aside` and `Bridge.shutdown_aside`:
  what is done about states is an aside.
- Definition `Lockstep.twins`: bridges with any modes are in lockstep on twin hosts.
-/

namespace ObjectBridge

/-! ## What states have to do with -/

/-- Counters that differ in the number of states only. -/
def Counters.SameButStates (c c' : Counters) : Prop :=
  c' = { c with statesCreated := c'.statesCreated }

namespace Counters.SameButStates

variable {c c' c'' : Counters}

/-- Counters are the same as themselves. -/
theorem refl (c : Counters) : SameButStates c c :=
  rfl

/-- Being the same but for the states goes both ways. -/
theorem symm (h : SameButStates c c') : SameButStates c' c := by
  rw [SameButStates] at h ⊢
  rw [h]

/-- Being the same but for the states carries over. -/
theorem trans (h : SameButStates c c') (h' : SameButStates c' c'') : SameButStates c c'' := by
  rw [SameButStates] at h h' ⊢
  rw [h', h]

/-- An event that is recorded on both sides keeps counters the same but for the states. -/
theorem record (h : SameButStates c c') (tally : Tally) :
    SameButStates (c.record tally) (c'.record tally) := by
  rw [SameButStates] at h
  rw [h]
  cases tally <;> rfl

end Counters.SameButStates

namespace Session

variable {base : Nat} {s s₁ s₂ t t₁ : Session Host}

/-- Every importer kept for a state is one. -/
def Imported (s : Session Host) : Prop :=
  ∀ id o, s.ledger.importers.find? id = some o → s.world.Imports o

/-- A session that may have got states, lost states and found importers, and has done nothing
else. -/
structure Aside (base : Nat) (s s₁ : Session Host) : Prop where
  world : s.world.Aside base s₁.world
  interfaces : s₁.ledger.interfaces = s.ledger.interfaces
  proxyTypes : s₁.ledger.proxyTypes = s.ledger.proxyTypes
  counters : s.ledger.counters.SameButStates s₁.ledger.counters
  imported : s.Imported → s₁.Imported

/-- Two sessions over twin hosts that differ in their states and the importers of these, but keep
the same interfaces and dispatch tables and count the same otherwise. -/
structure Twin (base : Nat) (s t : Session Host) : Prop where
  world : s.world.Twin base t.world
  interfaces : s.ledger.interfaces = t.ledger.interfaces
  proxyTypes : s.ledger.proxyTypes = t.ledger.proxyTypes
  counters : s.ledger.counters.SameButStates t.ledger.counters
  left : s.Imported
  right : t.Imported

/-- Kept importers are still importers when the host has grown and none was added. -/
theorem Imported.mono (hgrows : s.world.Grows base s₁.world)
    (himporters : s₁.ledger.importers = s.ledger.importers) (h : s.Imported) : s₁.Imported :=
  fun id o hfound => (h id o (himporters ▸ hfound)).mono hgrows

/-- A session stands aside from itself. -/
theorem Aside.refl (s : Session Host) : s.Aside base s :=
  ⟨.refl _, rfl, rfl, .refl _, id⟩

/-- Asides of both leave twin sessions. -/
theorem Twin.aside (hT : s.Twin base t) (hs : s.Aside base s₁) (ht : t.Aside base t₁) :
    s₁.Twin base t₁ where
  world := hT.world.aside hs.world ht.world
  interfaces := by rw [hs.interfaces, ht.interfaces, hT.interfaces]
  proxyTypes := by rw [hs.proxyTypes, ht.proxyTypes, hT.proxyTypes]
  counters := (hs.counters.symm.trans hT.counters).trans ht.counters
  left := hs.imported hT.left
  right := ht.imported hT.right

/-- Worlds that stay twins and only grow, with ledgers as before, leave twin sessions. -/
theorem Twin.moved {w w' : Host} (hT : s.Twin base t) (hw : w.Twin base w')
    (hgrows : (Coupling.hosts base).grows s.world t.world w w') :
    (s.moved w).Twin base (t.moved w') where
  world := hw
  interfaces := hT.interfaces
  proxyTypes := hT.proxyTypes
  counters := hT.counters
  left := hT.left.mono hgrows.1 rfl
  right := hT.right.mono hgrows.2 rfl

end Session

/-! ## What is done about states -/

namespace Host

variable {base : Nat}

/-- The host with one more request counted. -/
def touched (h : Host) : Host :=
  { h with interactions := h.interactions + 1 }

/-- A request that is counted leaves nothing of interest changed. -/
theorem touched_aside (h : Host) : h.Aside base h.touched :=
  .of_eq rfl rfl rfl

/-- A request is counted and then granted or refused. -/
theorem perform_apply (r : Request) (h : Host) : perform r h = grant r h.touched :=
  rfl

/-- A host that does not refuse makes a state, which is an aside. -/
theorem createState_aside (base : Nat) {h : Host} (hwilling : h.refusing = false) :
    ∃ token h₁, perform .createState h = (.ok token, h₁) ∧ h.Aside base h₁ := by
  have hrefusing : ¬h.touched.refusing = true := ne_true_of_eq_false hwilling
  refine ⟨⟨h.searchPaths.size⟩, { h.touched with searchPaths := h.searchPaths.push [] }, ?_,
    .of_eq rfl rfl rfl⟩
  rw [perform_apply]
  show createState h.touched = _
  rw [createState, bind_apply, get_apply]
  simp only [if_neg hrefusing]
  rfl

/-- A search path is extended without any change of interest. -/
theorem extendSearchPath_aside (base : Nat) (token : StateToken) (paths : List Path) (h : Host) :
    ∃ h₁, perform (.extendSearchPath token paths) h = (.ok (), h₁) ∧ h.Aside base h₁ :=
  ⟨_, rfl, .of_eq rfl rfl rfl⟩

/-- The importer is found by its name, as a new object. -/
theorem builtin_aside (token : StateToken) {h : Host} (hbase : base ≤ h.objects.size) :
    ∃ o h₁, perform (.builtin token Bridge.importerName) h = (.ok o, h₁) ∧ h.Aside base h₁ ∧
      h₁.Imports o := by
  have hname : Bridge.importerName = importerName := rfl
  refine ⟨⟨h.objects.size, HostObject.importer.typeName⟩, h.touched.pushed .importer, ?_,
    h.touched_aside.trans (.pushed hbase rfl), at?_made⟩
  rw [perform_apply]
  show builtin Bridge.importerName h.touched = _
  rw [builtin, if_pos hname]
  rfl

end Host

namespace Bridge

/-- A bridge over a scripted host. -/
def onHost (c : Configuration) (e : Environment) : Bridge Host :=
  ⟨Host.interpreter, c, e⟩

variable (base : Nat) (c : Configuration) (e : Environment)

/-- A state is got without fail, and getting it is an aside. -/
theorem state_aside (key : StateKey) {s : Session Host} (hwilling : s.world.refusing = false) :
    ∃ m s₁, (onHost c e).state key s = (.ok m, s₁) ∧ s.Aside base s₁ := by
  rw [state, keep_apply]
  cases (Ledger.statesPlace.read s).find? key with
  | some m => exact ⟨m, s, rfl, .refl s⟩
  | none =>
      obtain ⟨token, h₁, hcreate, haside₁⟩ := Host.createState_aside base hwilling
      obtain ⟨h₂, hextend, haside₂⟩ := Host.extendSearchPath_aside base token
        (c.paths.resolve e) h₁
      rw [createState, bind_apply_ok (ask_granted hcreate), bind_apply_ok (ask_granted hextend)]
      have haside := haside₁.trans haside₂
      exact ⟨_, _, rfl, haside, rfl, rfl, rfl, fun hs => hs.mono haside.grows rfl⟩

/-- The importer of a state is found without fail, and finding it is an aside. -/
theorem importer_aside (m : ManagedState) {s : Session Host} (hbase : base ≤ s.world.objects.size)
    (hs : s.Imported) :
    ∃ o s₁, (onHost c e).importer m s = (.ok o, s₁) ∧ s.Aside base s₁ ∧ s₁.world.Imports o := by
  rw [importer, keep_apply]
  cases hfound : (Ledger.importersPlace.read s).find? m.number.place with
  | some o => exact ⟨o, s, rfl, .refl s, hs m.number.place o hfound⟩
  | none =>
      obtain ⟨o, h₁, hbuiltin, haside, himports⟩ := Host.builtin_aside m.token hbase
      rw [resolveImporter, ask_granted hbuiltin]
      refine ⟨o, _, rfl, ⟨haside, rfl, rfl, .refl _, fun _ id o' hkept => ?_⟩, himports⟩
      have hadd : (s.ledger.importers.add m.number.place o).find? id = some o' := hkept
      rw [Cache.find?_add, Option.or_eq_some_iff] at hadd
      -- A kept importer was kept before or is the one just found.
      rcases hadd with hold | ⟨_, hnew⟩
      · exact (hs id o' hold).mono haside.grows
      · split at hnew
        · cases hnew
          exact himports
        · cases hnew

/-- Letting go of all states is an aside. -/
theorem shutdown_aside (s : Session Host) :
    ∃ s₁, (onHost c e).shutdown s = (.ok (), s₁) ∧ s.Aside base s₁ :=
  ⟨_, rfl, .refl _, rfl, rfl, .refl _, fun hs => hs⟩

end Bridge

/-- A session that starts on a host that has nothing to hide is a twin of itself. -/
theorem Bridge.start_twin (b b' : Bridge Host) {h : Host} (huniform : h.Uniform)
    (hwilling : h.refusing = false) :
    (b.start h).Twin h.objects.size (b'.start h) where
  world := .self huniform hwilling
  interfaces := rfl
  proxyTypes := rfl
  counters := .refl _
  left _ _ hfound := by cases hfound
  right _ _ hfound := by cases hfound

/-! ## Bridges in lockstep -/

/-- Twin sessions, whose hosts only grow. -/
def Coupling.sessions (base : Nat) : Coupling (Session Host) (Session Host) where
  rel := Session.Twin base
  grows s t s₁ t₁ := (Coupling.hosts base).grows s.world t.world s₁.world t₁.world
  grows_refl _ _ := (Coupling.hosts base).grows_refl _ _
  grows_trans hg hg₁ := (Coupling.hosts base).grows_trans hg hg₁

namespace Lockstep

variable {base : Nat} {c c' : Configuration} {e e' : Environment} {s t : Session Host}

/-- Requests that twin hosts answer alike are answered alike in twin sessions. -/
theorem twins_ask {q r : Request} {V : Host → Host → q.Answer → r.Answer → Prop}
    (hT : s.Twin base t)
    (h : ∀ {h h'}, h.Twin base h' → (Coupling.hosts base).grows s.world t.world h h' →
      (Coupling.hosts base).InStep V (Host.grant q) (Host.grant r) h h') :
    (Coupling.sessions base).Asks (.onHost c e) (.onHost c' e') q r
      (fun s t => V s.world t.world) s t := by
  intro failure
  obtain ⟨hrel, hgrows, hagree⟩ := hT.world.perform h
  exact ⟨hT.moved hrel hgrows, hgrows, hagree.mapError failure⟩

/-- What changes nothing but keeps twin sessions leaves them in step. -/
theorem twins_moves {f g : Session Host → Session Host} (hf : ∀ s, (f s).world = s.world)
    (hg : ∀ t, (g t).world = t.world)
    (h : ∀ {s t}, s.Twin base t → (f s).Twin base (g t)) : (Coupling.sessions base).Moves f g := by
  intro s t hT
  refine ⟨h hT, ?_⟩
  show (Coupling.hosts base).grows s.world t.world (f s).world (g t).world
  rw [hf, hg]
  exact (Coupling.hosts base).grows_refl _ _

/-- Asides that both make end alike. -/
theorem twins_aside {α β : Type} {V : Session Host → Session Host → α → β → Prop}
    {a : Action Host α} {a' : Action Host β} {x : α} {y : β} {s₁ t₁ : Session Host}
    (hT : s.Twin base t) (ha : a s = (.ok x, s₁)) (ha' : a' t = (.ok y, t₁))
    (hs : s.Aside base s₁) (ht : t.Aside base t₁) (hxy : V s₁ t₁ x y) :
    (Coupling.sessions base).InStep V a a' s t :=
  .of_ok ha ha' (hT.aside hs ht) ⟨hs.world.grows, ht.world.grows⟩ hxy

/-- Bridges that check the number of arguments alike are in lockstep on twin hosts, whatever their
modes and search paths are. -/
def twins (base : Nat) (c c' : Configuration) (e e' : Environment)
    (hcheck : c.checkArity = c'.checkArity) : Lockstep (.onHost c e) (.onHost c' e') where
  toCoupling := .sessions base
  imported s t o o' := s.world.Imports o ∧ t.world.Imports o'
  symbol s t := Host.Found base s.world t.world
  object s t := Host.Matched base s.world t.world
  passed s t := Host.Passed base s.world t.world
  value s t := Host.Alike base s.world t.world
  state _ _ _ _ := True
  carrier s t type := type.Alike (Host.Linked base s.world t.world)
  imported_stable _ _ _ _ _ _ hgrows h := ⟨h.1.mono hgrows.1, h.2.mono hgrows.2⟩
  symbol_stable _ _ _ _ _ _ hgrows h := Host.found_stable hgrows h
  object_stable _ _ _ _ _ _ hgrows h := Host.matched_stable hgrows h
  passed_stable _ _ _ _ _ _ hgrows h := Host.passed_stable hgrows h
  value_stable _ _ _ _ _ _ hgrows h := Host.alike_stable hgrows h
  state_stable _ _ _ _ _ _ _ _ := trivial
  object_typeName h := h.2
  passed_typeName h := h.typeName_eq
  value_typeName h := h.typeName_eq
  value_asObject h := rel_mono (fun ho => .linked ho) h.asObject
  value_toJson h := h.toJson_eq
  value_none := .of_plain rfl
  value_str _ := .of_plain rfl
  value_list h := Value.Alike.list_iff.mpr h
  value_decode _ h := NativeType.Alike.decode h
  checkArity := hcheck
  enter _ _ := twins_moves (fun _ => rfl) (fun _ => rfl) fun hT =>
    ⟨hT.world, hT.interfaces, hT.proxyTypes, hT.counters, hT.left, hT.right⟩
  count tally := twins_moves (fun _ => rfl) (fun _ => rfl) fun hT =>
    ⟨hT.world, hT.interfaces, hT.proxyTypes, hT.counters.record tally, hT.left, hT.right⟩
  clock _ := rfl
  interfaces hT := hT.interfaces
  proxyTypes hT := hT.proxyTypes
  keepInterfaces _ := twins_moves (fun _ => rfl) (fun _ => rfl) fun hT =>
    ⟨hT.world, rfl, hT.proxyTypes, hT.counters, hT.left, hT.right⟩
  keepProxyTypes _ := twins_moves (fun _ => rfl) (fun _ => rfl) fun hT =>
    ⟨hT.world, hT.interfaces, rfl, hT.counters, hT.left, hT.right⟩
  ownState own hT := by
    obtain ⟨m, s₁, hs, haside⟩ :=
      Bridge.state_aside base c e ((Bridge.onHost c e).stateKey own) hT.world.willing
    obtain ⟨m', t₁, ht, haside'⟩ :=
      Bridge.state_aside base c' e' ((Bridge.onHost c' e').stateKey own) hT.world.willing'
    exact twins_aside hT hs ht haside haside' trivial
  importer {s t m m'} hT _ := by
    obtain ⟨o, s₁, hs, haside, ho⟩ := Bridge.importer_aside base c e m hT.world.base_le hT.left
    obtain ⟨o', t₁, ht, haside', ho'⟩ :=
      Bridge.importer_aside base c' e' m' hT.world.base_le' hT.right
    exact twins_aside hT hs ht haside haside' ⟨ho, ho'⟩
  askToForeign hT _ hv := twins_ask hT fun hT₁ hgrows => hT₁.store (Host.alike_stable hgrows hv)
  askImport hT _ hi hos := twins_ask hT fun hT₁ hgrows =>
    hT₁.callImporter (hi.1.mono hgrows.1) (hi.2.mono hgrows.2)
      (Host.passed_stable.forall₂ hgrows hos)
  askAttribute name hT _ ho := twins_ask hT fun hT₁ hgrows =>
    hT₁.getAttribute (Host.found_stable hgrows ho) name
  askCall hT _ hc hos hks := twins_ask hT fun hT₁ hgrows =>
    hT₁.call (Host.found_stable hgrows hc) (Host.passed_stable.forall₂ hgrows hos)
      (hks.imp fun _ _ hk => ⟨hk.1, Host.passed_stable hgrows hk.2⟩)
  askMethod name hT _ ho hos :=
    twins_ask (q := .callMethod _ _ name _) (r := .callMethod _ _ name _)
      (V := fun h h' => List.Forall₂ (Host.Passed base h h')) hT fun hT₁ hgrows =>
      hT₁.callMethod (.linked (Host.matched_stable hgrows ho)) name
        (Host.passed_stable.forall₂ hgrows hos)
  askToNative hT _ ho := twins_ask hT fun hT₁ hgrows => hT₁.valueOf (Host.passed_stable hgrows ho)
  askCoerce hT _ ho := twins_ask hT fun hT₁ hgrows =>
    hT₁.coerce (.linked (Host.matched_stable hgrows ho))

end Lockstep

end ObjectBridge
