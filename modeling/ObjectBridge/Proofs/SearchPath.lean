import Mathlib.Data.List.Nodup
import ObjectBridge.Proofs.HostRequests
import ObjectBridge.Proofs.Registry
import ObjectBridge.Proofs.Upkeep

/-!
# The search path of a state

The settings gather paths from three sources, and the host adds paths to the search path of a
state.  Both drop a path that is there already, however it is spelled.  So a new state has exactly
the paths of the settings on its search path, and later ones follow in the order in which they
were first met.

Main results:

- Definition `Path.Adds`: what is added to a list of paths for some candidates.
- Theorem `Path.addAll_adds`: adding paths adds that.
- Theorem `Bridge.did_furnishes`: what a deed does to search paths.
- Theorem `Bridge.searchPaths_of_history`: the paths of the settings, and the search path of a
  state from its creation on.
-/

namespace ObjectBridge

/-! ## Paths that are added once -/

namespace Path

/-- Paths that are added to a list of others for some candidates: every candidate that the list does
not hold yet, once and as it is first spelled. -/
structure Adds (paths candidates added : List Path) : Prop where
  sublist : added.Sublist candidates
  distinct : (added.map components).Nodup
  new : ∀ p ∈ added, p.components ∉ paths.map components
  complete : ∀ p ∈ candidates, p.components ∈ (paths ++ added).map components
  first : ∀ p ∈ added, ∃ before after, candidates = before ++ p :: after ∧
    p.components ∉ before.map components

variable {p : Path} {paths candidates added more : List Path}

/-- A path is in a list when one with the same components is. -/
theorem isIn_iff : p.isIn paths = true ↔ p.components ∈ paths.map components := by
  simp only [isIn, List.any_eq_true, same, beq_iff_eq, List.mem_map]
  constructor
  · rintro ⟨q, hq, heq⟩
    exact ⟨q, hq, heq.symm⟩
  · rintro ⟨q, hq, heq⟩
    exact ⟨q, hq, heq.symm⟩

namespace Adds

/-- Nothing is added by nothing. -/
theorem nil : Adds paths [] [] where
  sublist := .slnil
  distinct := .nil
  new _ := nofun
  complete _ := nofun
  first _ := nofun

/-- A candidate that is there already is passed over. -/
theorem skip (hp : p.components ∈ paths.map components) (h : Adds paths candidates added) :
    Adds paths (p :: candidates) added where
  sublist := h.sublist.cons p
  distinct := h.distinct
  new := h.new
  complete := by
    refine List.forall_mem_cons.mpr ⟨?_, h.complete⟩
    rw [List.map_append]
    exact List.mem_append_left _ hp
  first q hq := by
    obtain ⟨before, after, rfl, hbefore⟩ := h.first q hq
    refine ⟨p :: before, after, rfl, ?_⟩
    rw [List.map_cons, List.mem_cons, not_or]
    exact ⟨fun heq => h.new q hq (heq ▸ hp), hbefore⟩

/-- A new candidate is added. -/
theorem cons (hp : p.components ∉ paths.map components)
    (h : Adds (paths ++ [p]) candidates added) : Adds paths (p :: candidates) (p :: added) := by
  have hnew (q : Path) (hq : q ∈ added) :
      q.components ∉ paths.map components ∧ q.components ≠ p.components := by
    have h := h.new q hq
    rw [List.map_append, List.mem_append, not_or] at h
    exact ⟨h.1, fun heq => h.2 (List.mem_singleton.mpr heq)⟩
  refine ⟨h.sublist.cons_cons p, ?_, ?_, ?_, ?_⟩
  · rw [List.map_cons, List.nodup_cons]
    refine ⟨fun hmem => ?_, h.distinct⟩
    obtain ⟨q, hq, heq⟩ := List.mem_map.mp hmem
    exact (hnew q hq).2 heq
  · exact List.forall_mem_cons.mpr ⟨hp, fun q hq => (hnew q hq).1⟩
  · refine List.forall_mem_cons.mpr ⟨by simp, fun q hq => ?_⟩
    have hq := h.complete q hq
    rwa [List.append_assoc] at hq
  · refine List.forall_mem_cons.mpr ⟨⟨[], candidates, rfl, List.not_mem_nil⟩, fun q hq => ?_⟩
    obtain ⟨before, after, rfl, hbefore⟩ := h.first q hq
    refine ⟨p :: before, after, rfl, ?_⟩
    rw [List.map_cons, List.mem_cons, not_or]
    exact ⟨(hnew q hq).2, hbefore⟩

end Adds

/-- Adding paths to a list appends those that it does not hold yet. -/
theorem addAll_adds (paths candidates : List Path) :
    ∃ added, addAll paths candidates = paths ++ added ∧ Adds paths candidates added := by
  induction candidates generalizing paths with
  | nil => exact ⟨[], (List.append_nil paths).symm, .nil⟩
  | cons p candidates ih =>
    have hstep : addAll paths (p :: candidates) = addAll (add paths p) candidates := rfl
    rw [hstep, add]
    by_cases hp : p.components ∈ paths.map components
    · obtain ⟨added, hadded, h⟩ := ih paths
      rw [if_pos (isIn_iff.mpr hp)]
      exact ⟨added, hadded, h.skip hp⟩
    · obtain ⟨added, hadded, h⟩ := ih (paths ++ [p])
      rw [if_neg (mt isIn_iff.mp hp)]
      exact ⟨p :: added, by rw [hadded, List.append_assoc, List.singleton_append], h.cons hp⟩

/-- Paths are added one list after another. -/
theorem addAll_append (paths candidates more : List Path) :
    addAll paths (candidates ++ more) = addAll (addAll paths candidates) more :=
  List.foldl_append

/-- Paths that a list holds already are not added. -/
theorem addAll_of_known (h : ∀ p ∈ candidates, p.components ∈ paths.map components) :
    addAll paths candidates = paths := by
  induction candidates with
  | nil => rfl
  | cons p candidates ih =>
    rw [List.forall_mem_cons] at h
    have hstep : addAll paths (p :: candidates) = addAll (add paths p) candidates := rfl
    rw [hstep, add, if_pos (isIn_iff.mpr h.1), ih h.2]

/-- Paths that are all different are added as they are. -/
theorem addAll_of_distinct (h : ((paths ++ candidates).map components).Nodup) :
    addAll paths candidates = paths ++ candidates := by
  induction candidates generalizing paths with
  | nil => exact (List.append_nil paths).symm
  | cons p candidates ih =>
    have hp : p.components ∉ paths.map components := by
      rw [List.map_append, List.map_cons, List.nodup_middle, List.nodup_cons] at h
      exact fun hmem => h.1 (List.mem_append_left _ hmem)
    have hstep : addAll paths (p :: candidates) = addAll (add paths p) candidates := rfl
    rw [hstep, add, if_neg (mt isIn_iff.mp hp), ih (by simpa using h), List.append_assoc,
      List.singleton_append]

end Path

/-! ## The paths of the settings -/

/-- The paths that a text lists: its pieces between colons that are not empty. -/
def Path.Listed (raw : List UInt8) (paths : List Path) : Prop :=
  ∃ pieces, pieces ≠ [] ∧ Text.joinSegments Path.colon pieces = raw ∧
    (∀ piece ∈ pieces, Path.colon ∉ piece) ∧
    paths = (pieces.filter fun piece => piece ≠ []).map Path.mk

/-- The paths of a variable are the pieces between its colons. -/
theorem Path.splitList_listed (raw : List UInt8) : Path.Listed raw (Path.splitList raw) :=
  ⟨Text.segments colon raw, Text.segments_ne_nil colon raw, Text.joinSegments_segments colon raw,
    fun _ => Text.not_mem_of_mem_segments, rfl⟩

namespace PathSettings

variable (s : PathSettings) (env : Environment)

/-- The paths that the variable of some settings gives: none if no variable is named or it is not
set. -/
inductive FromVariable : List Path → Prop where
  | unnamed (noname : s.pathVariable = "") : FromVariable []
  | unset (missing : env.valueOf s.pathVariable = none) : FromVariable []
  | listed {raw : List UInt8} {paths : List Path} (name : s.pathVariable ≠ "")
      (value : env.valueOf s.pathVariable = some raw) (listed : Path.Listed raw paths) :
      FromVariable paths

/-- The paths of some settings in the order of their sources: the installation directory if it is
wanted and known, those of the variable, and the extra ones. -/
def Gathers (candidates : List Path) : Prop :=
  ∃ install listed, candidates = install ++ listed ++ s.extra ∧
    (∀ p, install = [p] ↔ s.includeInstallDir = true ∧
      (s.installDir = some p ∨ s.installDir = none ∧ env.programDir = some p)) ∧
    install.length ≤ 1 ∧ FromVariable s env listed

/-- The entries of the variable come from it. -/
theorem variableEntries_fromVariable : FromVariable s env (s.variableEntries env) := by
  rw [variableEntries]
  by_cases hname : s.pathVariable = ""
  · rw [if_pos hname]
    exact .unnamed hname
  · rw [if_neg hname]
    cases hvalue : env.valueOf s.pathVariable with
    | none => exact .unset hvalue
    | some raw => exact .listed hname hvalue (Path.splitList_listed raw)

/-- The candidates are gathered from the settings and the variable. -/
theorem candidates_gathers : Gathers s env (s.candidates env) := by
  refine ⟨s.installEntries env, _, rfl, ?_, ?_, variableEntries_fromVariable s env⟩
  · intro p
    rw [installEntries]
    cases s.includeInstallDir <;> cases s.installDir <;> cases env.programDir <;> simp
  · rw [installEntries]
    split
    · cases s.installDir.or env.programDir <;> simp
    · simp

/-- The paths of some settings are their candidates, each once and as it is first spelled. -/
theorem resolve_adds : Path.Adds [] (s.candidates env) (s.resolve env) := by
  obtain ⟨added, hadded, h⟩ := Path.addAll_adds [] (s.candidates env)
  rw [List.nil_append] at hadded
  rwa [resolve, hadded]

/-- Adding the paths of some settings to an empty list changes none of them. -/
theorem addAll_resolve : Path.addAll [] (s.resolve env) = s.resolve env :=
  Path.addAll_of_distinct (resolve_adds s env).distinct

end PathSettings

/-! ## Search paths of the host -/

/-- What a request of a user adds to the search path of a state. -/
def Request.extension (token : StateToken) : Request → List Path
  | extendSearchPath other entries => if other = token then entries else []
  | _ => []

namespace Host

variable {h h' : Host} {paths : List Path}

/-- Two hosts with the same search paths. -/
def SamePaths (h h' : Host) : Prop :=
  h'.searchPaths = h.searchPaths

/-- No step with objects changes a search path. -/
theorem lasting_samePaths : Lasting SamePaths where
  preorder :=
    { refl := fun _ => rfl
      trans := fun _ _ _ h₁₂ h₂₃ => h₂₃.trans h₁₂ }
  touched _ := rfl
  pushed _ _ _ := rfl
  put _ _ := rfl

/-- No request but those for states changes a search path. -/
theorem searchPaths_perform {r : Request} (hway : r.isOnTheWay = true) (h : Host) :
    (perform r h).2.searchPaths = h.searchPaths :=
  lasting_samePaths.perform hway h

/-- Extending the search path of a state adds to it, and to no other. -/
theorem getElem?_extended (token : StateToken) (entries : List Path) {n : Nat}
    (hn : h.searchPaths[n]? = some paths) :
    (perform (.extendSearchPath token entries) h).2.searchPaths[n]? =
      some (if token.index = n then Path.addAll paths entries else paths) := by
  change (h.searchPaths.modify token.index fun paths => Path.addAll paths entries)[n]? = _
  rw [Array.getElem?_modify, hn]
  split <;> rfl

/-- A request extends the search path of a state that is there by what it gives for it. -/
theorem getElem?_performed (r : Request) (token : StateToken)
    (hpaths : h.searchPaths[token.index]? = some paths) :
    (perform r h).2.searchPaths[token.index]? =
      some (Path.addAll paths (r.extension token)) := by
  cases r with
  | createState =>
    have hlt := (Array.getElem?_eq_some_iff.mp hpaths).1
    rw [perform_createState]
    split
    · exact hpaths
    · change (h.searchPaths.push [])[token.index]? = _
      rw [Array.getElem?_push, if_neg (Nat.ne_of_lt hlt), hpaths]
      rfl
  | extendSearchPath other entries =>
    rw [getElem?_extended other entries hpaths, Request.extension]
    by_cases hother : other = token
    · rw [if_pos hother, if_pos (congrArg StateToken.index hother)]
    · rw [if_neg hother, if_neg fun hindex => hother (StateToken.mk.injEq .. ▸ hindex)]
      rfl
  | searchPath other => exact hpaths
  | _ =>
    refine (congrArg (fun paths => paths[token.index]?) (searchPaths_perform ?_ h)).trans hpaths
    rfl

end Host

/-! ## What happens to search paths -/

/-- Between two sessions search paths are extended by what is given, and every state whose creation
is told of has the paths of the settings on its search path. -/
structure Bridge.Furnishes (b : Bridge Host) (given : StateToken → List Path)
    (s t : Session Host) : Prop where
  kept : ∀ (token : StateToken) paths, s.world.searchPaths[token.index]? = some paths →
    t.world.searchPaths[token.index]? = some (Path.addAll paths (given token))
  told : ∃ log, t.trace = s.trace ++ log ∧ ∀ m ∈ log.filterMap TraceEntry.created?,
    m.injectedPath = b.statePaths ∧ t.world.searchPaths[m.token.index]? = some b.statePaths

namespace Bridge.Furnishes

variable {b : Bridge Host} {s t u : Session Host} {given more : StateToken → List Path}

/-- States that are furnished twice are furnished. -/
theorem trans_given (hst : b.Furnishes (fun _ => []) s t) (htu : b.Furnishes (fun _ => []) t u) :
    b.Furnishes (fun _ => []) s u where
  kept token paths hpaths := htu.kept token paths (hst.kept token paths hpaths)
  told := by
    obtain ⟨log, htrace, htold⟩ := hst.told
    obtain ⟨log', htrace', htold'⟩ := htu.told
    refine ⟨log ++ log', by rw [htrace', htrace, List.append_assoc], fun m hm => ?_⟩
    rw [List.filterMap_append, List.mem_append] at hm
    obtain hm | hm := hm
    · exact ⟨(htold m hm).1, htu.kept _ _ (htold m hm).2⟩
    · exact htold' m hm

/-- Nothing happens to the search paths, and no state is told of. -/
theorem of_same (hworld : t.world.searchPaths = s.world.searchPaths) {log : List TraceEntry}
    (htrace : t.trace = s.trace ++ log) (hlog : log.filterMap TraceEntry.created? = []) :
    b.Furnishes (fun _ => []) s t where
  kept token paths hpaths := by rwa [hworld]
  told := ⟨log, htrace, by rw [hlog]; exact nofun⟩

instance : IsPreorder (Session Host) (b.Furnishes fun _ => []) where
  refl s := .of_same rfl (List.append_nil s.trace).symm rfl
  trans _ _ _ := trans_given

end Bridge.Furnishes

namespace Bridge

variable (c : Configuration) (e : Environment)

/-- A state that is got has the paths of the settings on its search path if it is new. -/
theorem state_furnishes (key : StateKey) :
    Within ((onHost c e).Furnishes fun _ => []) ((onHost c e).state key) := by
  intro s
  cases hfound : s.ledger.states.find? key with
  | some m =>
    rw [state_kept hfound]
    exact refl_of _ s
  | none =>
    have hcreate := Host.perform_createState s.world
    cases hrefusing : s.world.refusing with
    | true =>
      rw [hrefusing, if_pos rfl] at hcreate
      rw [state_uncreated (b := onHost c e) hfound hcreate]
      exact .of_same rfl (List.append_nil s.trace).symm rfl
    | false =>
      rw [hrefusing, if_neg Bool.false_ne_true] at hcreate
      generalize hmade : ({ s.world.touched with
        searchPaths := s.world.searchPaths.push [] } : Host) = made at hcreate
      have hpaths : made.searchPaths = s.world.searchPaths.push [] := by
        rw [← hmade]
      have hextend : (onHost c e).interpreter.perform
          (.extendSearchPath ⟨s.world.searchPaths.size⟩ (onHost c e).statePaths) made = (.ok (),
            (Host.perform
              (.extendSearchPath ⟨s.world.searchPaths.size⟩ (onHost c e).statePaths) made).2) := rfl
      rw [state_made (b := onHost c e) hfound hcreate hextend]
      constructor
      · intro token paths hold
        have hlt := (Array.getElem?_eq_some_iff.mp hold).1
        have hkept : made.searchPaths[token.index]? = some paths := by
          rw [hpaths, Array.getElem?_push, if_neg (Nat.ne_of_lt hlt), hold]
        rw [Host.getElem?_extended _ _ hkept, if_neg (Nat.ne_of_gt hlt)]
        rfl
      · refine ⟨_, rfl, fun m hm => ?_⟩
        obtain rfl := List.mem_singleton.mp hm
        have hnew : made.searchPaths[s.world.searchPaths.size]? = some [] := by
          rw [hpaths, Array.getElem?_push_size]
        refine ⟨rfl, ?_⟩
        rw [Host.getElem?_extended _ _ hnew, if_pos rfl]
        exact congrArg some (PathSettings.addAll_resolve _ _)

/-- Every call furnishes the states that it makes. -/
theorem upholds_furnishes : (onHost c e).Upholds ((onHost c e).Furnishes fun _ => []) where
  preorder := inferInstance
  ask request failure hway s :=
    .of_same (Host.searchPaths_perform hway s.world) (List.append_nil s.trace).symm rfl
  state := state_furnishes c e
  ledger s l := .of_same rfl (List.append_nil s.trace).symm rfl
  entered s entry hentry := by
    have hnone : [entry].filterMap TraceEntry.created? = [] := by
      rw [List.filterMap_cons, hentry]
      rfl
    exact .of_same rfl rfl hnone

/-- What another thread does is told of in the same words. -/
theorem created?_toElsewhere (entry : TraceEntry) :
    entry.toElsewhere.created? = entry.created? := by
  cases entry with
  | notice n => cases n <;> rfl
  | _ => rfl

/-- A thread that furnishes its states does so beside others. -/
theorem inThread_furnishes {α : Type} {b : Bridge Host} {a : Action Host α}
    (h : Within (b.Furnishes fun _ => []) a) : Within (b.Furnishes fun _ => []) (inThread a) := by
  intro s
  obtain ⟨hkept, log, htrace, htold⟩ := h { s with trace := [] }
  refine ⟨hkept, log.map TraceEntry.toElsewhere, ?_, fun m hm => htold m ?_⟩
  · exact congrArg (fun trace => s.trace ++ trace.map TraceEntry.toElsewhere) htrace
  · rwa [List.filterMap_map, Function.comp_def, funext created?_toElsewhere] at hm

/-- So does every use of the registry. -/
theorem stateCall_furnishes (use : StateCall) :
    Within ((onHost c e).Furnishes fun _ => []) (use.perform (onHost c e)) := by
  cases use with
  | get key => exact .bind (state_furnishes c e key) fun _ => .pure _
  | release => exact .bind (upholds_furnishes c e).releaseStates fun _ => .pure _

end Bridge

/-! ## Histories -/

/-- The host with another value of an attribute of an instance. -/
def Host.assigned (h : Host) (o : ForeignObject) (name : String) (v : Value) : Host :=
  match h.object? o with
  | some (.instanceOf c attributes) => h.put o (.instanceOf c (Entries.insert name v attributes))
  | _ => h

/-- What is done with a bridge over a host or with the host itself. -/
inductive HostDeed where
  | call (call : Call)
  | use (use : StateCall)
  | useInThreads (key : StateKey) (threads : Nat)
  | interface (key : InterfaceKey) (i : Interface)
  | proxyType (key : InterfaceKey) (i : Interface)
  | importer (m : ManagedState)
  | resolve (m : ManagedState) (binding : Binding)
  | request (request : Request)
  | define (name : String) (classes : List HostClass)
  | refuse (refusing : Bool)
  /-- A handle of another host turns up. -/
  | alien (typeName : String)
  | assign (o : ForeignObject) (name : String) (v : Value)

/-- A host whose attributes are assigned has the same search paths. -/
theorem Host.searchPaths_assigned (h : Host) (o : ForeignObject) (name : String) (v : Value) :
    (h.assigned o name v).searchPaths = h.searchPaths := by
  rw [assigned]
  split <;> rfl

/-- The paths that a deed adds to the search path of a state behind the bridge's back. -/
def HostDeed.extension (token : StateToken) : HostDeed → List Path
  | request r => r.extension token
  | _ => []

namespace Bridge

/-- The session after a deed. -/
def did (b : Bridge Host) (s : Session Host) : HostDeed → Session Host
  | .call call => (b.step s call).after
  | .use use => (b.stateStep s use).after
  | .useInThreads key threads => (b.statesOfThreads key threads s).2
  | .interface key i => (b.interface key i s).2
  | .proxyType key i => (b.proxyType key i s).2
  | .importer m => (b.importer m s).2
  | .resolve m binding => (b.resolveBinding m binding s).2
  | .request r => { s with world := (b.interpreter.perform r s.world).2 }
  | .define name classes => { s with world := s.world.defineModule name classes }
  | .refuse refusing => { s with world := { s.world with refusing } }
  | .alien typeName => { s with world := (s.world.alien typeName).2 }
  | .assign o name v => { s with world := s.world.assigned o name v }

/-- The session after a history. -/
def didAll (b : Bridge Host) (s : Session Host) (history : List HostDeed) : Session Host :=
  history.foldl b.did s

/-- The states whose creation is told of between two sessions. -/
def newStates (s t : Session Host) : List ManagedState :=
  (t.trace.drop s.trace.length).filterMap TraceEntry.created?

/-- The search path of a state as the interpreter tells it. -/
def searchPath (b : Bridge Host) (s : Session Host) (m : ManagedState) :
    Except ForeignError (List Path) :=
  (b.interpreter.perform (.searchPath m.token) s.world).1

variable (c : Configuration) (e : Environment) {s : Session Host} {m : ManagedState}
  {paths : List Path}

/-- The search path of a state is the one that the host has for it. -/
theorem searchPath_eq (h : s.world.searchPaths[m.token.index]? = some paths) :
    (onHost c e).searchPath s m = .ok paths := by
  have happly : (onHost c e).searchPath s m = .ok (s.world.searchPaths.getD m.token.index []) := rfl
  rw [happly, Array.getD_eq_getD_getElem?, h, Option.getD_some]

/-- Every deed extends search paths by what it gives, and furnishes the states that it creates. -/
theorem did_furnishes (s : Session Host) (deed : HostDeed) :
    (onHost c e).Furnishes deed.extension s ((onHost c e).did s deed) := by
  cases deed with
  | call call => exact (upholds_furnishes c e).perform call s
  | use use => exact stateCall_furnishes c e use s
  | useInThreads key threads =>
    exact Within.statesOfThreads (fun key => inThread_furnishes (state_furnishes c e key)) key
      threads s
  | interface key i => exact (upholds_furnishes c e).interface key i s
  | proxyType key i => exact (upholds_furnishes c e).proxyType key i s
  | importer m => exact (upholds_furnishes c e).tolerates.carries.keptImporter m s
  | resolve m binding => exact (upholds_furnishes c e).tolerates.carries.resolveBinding m binding s
  | request r =>
    exact ⟨fun token _ hpaths => Host.getElem?_performed r token hpaths,
      [], (List.append_nil s.trace).symm, nofun⟩
  | assign o name v =>
    exact .of_same (Host.searchPaths_assigned _ o name v) (List.append_nil s.trace).symm rfl
  | define | refuse | alien => exact .of_same rfl (List.append_nil s.trace).symm rfl

/-- A search path at the end of a history, from the search path before it. -/
theorem didAll_searchPaths (history : List HostDeed)
    (h : s.world.searchPaths[m.token.index]? = some paths) :
    ((onHost c e).didAll s history).world.searchPaths[m.token.index]? =
      some (Path.addAll paths (history.flatMap (HostDeed.extension m.token))) := by
  induction history generalizing s paths with
  | nil => exact h
  | cons deed history ih =>
    rw [List.flatMap_cons, Path.addAll_append]
    exact ih ((did_furnishes c e s deed).kept m.token paths h)

/-- A state that was created in a deed has the paths of the settings, and they are its search
path. -/
theorem searchPath_of_newStates {deed : HostDeed}
    (hm : m ∈ newStates s ((onHost c e).did s deed)) :
    m.injectedPath = c.paths.resolve e ∧
      ((onHost c e).did s deed).world.searchPaths[m.token.index]? = some (c.paths.resolve e) := by
  obtain ⟨log, htrace, htold⟩ := (did_furnishes c e s deed).told
  rw [newStates, htrace, List.drop_left] at hm
  exact htold m hm

/-- The paths of some settings are their candidates, each once and as it is first spelled.  Every
state that is created has exactly them on its search path, and it keeps them: whatever is done
later, its search path goes on with what is added to it, each path that is not there yet once and
as it is first spelled.  Adding the same again changes nothing. -/
theorem searchPaths_of_history (c : Configuration) (e : Environment) :
    c.paths.Gathers e (c.paths.candidates e) ∧
    Path.Adds [] (c.paths.candidates e) (c.paths.resolve e) ∧
    ∀ (s : Session Host) (deed : HostDeed) (m : ManagedState),
      let b := onHost c e
      let t := b.did s deed
      m ∈ newStates s t →
        m.injectedPath = c.paths.resolve e ∧ b.searchPath t m = .ok m.injectedPath ∧
        ∀ history : List HostDeed, ∃ added,
          b.searchPath (b.didAll t history) m = .ok (m.injectedPath ++ added) ∧
          Path.Adds m.injectedPath (history.flatMap (HostDeed.extension m.token)) added ∧
          ∀ entries : List Path,
            let extension := HostDeed.request (.extendSearchPath m.token entries)
            let u := b.didAll t (history ++ [extension])
            (∃ more, b.searchPath u m = .ok (m.injectedPath ++ added ++ more) ∧
              Path.Adds (m.injectedPath ++ added) entries more) ∧
            (extension ∈ history → b.searchPath u m = b.searchPath (b.didAll t history) m) := by
  refine ⟨PathSettings.candidates_gathers _ _, PathSettings.resolve_adds _ _, ?_⟩
  intro s deed m b t hm
  obtain ⟨hinjected, hpaths⟩ := searchPath_of_newStates c e hm
  rw [← hinjected] at hpaths
  refine ⟨hinjected, searchPath_eq c e hpaths, fun history => ?_⟩
  obtain ⟨added, hadded, hadds⟩ :=
    Path.addAll_adds m.injectedPath (history.flatMap (HostDeed.extension m.token))
  have hhistory := didAll_searchPaths c e history hpaths
  refine ⟨added, hadded ▸ searchPath_eq c e hhistory, hadds, fun entries => ?_⟩
  intro extension u
  have hentries : extension.extension m.token = entries := if_pos rfl
  have hu : u.world.searchPaths[m.token.index]? =
      some (Path.addAll (m.injectedPath ++ added) entries) := by
    have hextended := (did_furnishes c e (b.didAll t history) extension).kept m.token _ hhistory
    rw [hentries, hadded] at hextended
    change (List.foldl b.did t (history ++ [extension])).world.searchPaths[m.token.index]? = _
    rw [List.foldl_append]
    exact hextended
  constructor
  · obtain ⟨more, hmore, hmoreAdds⟩ := Path.addAll_adds (m.injectedPath ++ added) entries
    exact ⟨more, hmore ▸ searchPath_eq c e hu, hmoreAdds⟩
  · intro hrepeated
    -- All of the entries were given before.
    have hknown : ∀ p ∈ entries, p.components ∈ (m.injectedPath ++ added).map Path.components := by
      intro p hp
      refine hadds.complete p (List.mem_flatMap.mpr ⟨extension, hrepeated, ?_⟩)
      rwa [hentries]
    rw [Path.addAll_of_known hknown] at hu
    rw [searchPath_eq c e hu, searchPath_eq c e hhistory, hadded]

/-- Settings whose sources overlap: a directory that is listed again with a slash at its end, and a
listed path that is also an extra one. -/
def overlappingPaths : PathSettings :=
  ⟨true, some (.ofText "/opt/app"), "APP_PATH", [.ofText "/lib", .ofText "./extra"]⟩

/-- Surroundings in which the variable is set. -/
def overlappingEnvironment : Environment where
  programDir := none
  valueOf name := if name = "APP_PATH" then some (Path.ofText "/opt/app/:/lib//:").bytes else none

theorem searchPath_of_overlap :
    let b := onHost ⟨.shared, overlappingPaths, true⟩ overlappingEnvironment
    let t := b.did (b.start .empty) (.use (.get .shared))
    let m : ManagedState :=
      ⟨.first, .shared, ⟨0⟩, [.ofText "/opt/app", .ofText "/lib//", .ofText "./extra"]⟩
    m ∈ newStates (b.start .empty) t ∧ b.searchPath t m = .ok m.injectedPath := by
  intro b t m
  have hm : m ∈ newStates (b.start .empty) t := by decide +kernel
  exact ⟨hm, ((searchPaths_of_history _ _).2.2 _ _ m hm).2.1⟩

end Bridge

end ObjectBridge
