import Mathlib.Data.List.Nodup
import ObjectBridge.Proofs.Coherence
import ObjectBridge.Proofs.HostRequests
import ObjectBridge.Proofs.Recording

/-!
# The registry of states

A bridge hands out states by key, and makes a state on the first use of its key
with two requests, either of which may be refused.  A refusal leaves the registry
as it was; a release empties it.  The numbers of states go on over all of this.
They are shown as words, so two states can be shown with one number only if as
many as there are words were made from one to the other.

Main results:

- Definitions `Bridge.stateStep`, `Bridge.stateRun`: uses of the registry one
  after another, with the requests of each.
- Theorem `Bridge.stateStep_uses`: the five ways in which a use can go.
- Theorem `Registered.nodup_ids`: states that were made not too far from each other
  are shown with different numbers.
- Theorem `Bridge.registry_of_run`: the registry at the end of a run, and what was
  handed out from it on the way.
- Theorem `Bridge.registry_shares_id`: a run so long that the words have run out.
-/

namespace ObjectBridge

variable {σ α : Type}

/-- What is found in a cache is an entry of it. -/
theorem Cache.mem_of_find? {κ : Type} [DecidableEq κ] {c : Cache κ α} {key : κ} {x : α}
    (h : c.find? key = some x) : (key, x) ∈ c.entries := by
  obtain ⟨entry, hfound, rfl⟩ := Option.map_eq_some_iff.mp h
  have hkey := List.find?_some hfound
  rw [decide_eq_true_eq] at hkey
  subst hkey
  exact List.mem_of_find?_eq_some hfound

/-! ## Uses of the registry -/

/-- A use of the registry. -/
inductive StateCall where
  | get (key : StateKey)
  | release
deriving DecidableEq

/-- The action of a use; a release hands out nothing. -/
def StateCall.perform (b : Bridge σ) : StateCall → Action σ (Option ManagedState)
  | get key => do return some (← b.state key)
  | release => do
    b.releaseStates
    return none

/-- A use of the registry in a run, with the requests that were made in it. -/
structure StateStep (σ : Type) where
  call : StateCall
  before : Session σ
  requests : List Exchange
  outcome : Except BridgeError (Option ManagedState)
  after : Session σ

/-- The state that is made in a step: it is handed out after something was asked for. -/
def StateStep.made? (st : StateStep σ) : Option ManagedState :=
  match st.requests, st.outcome with
  | _ :: _, .ok handed => handed
  | _, _ => none

namespace Bridge

/-- The step of a use of the registry. -/
def stateStep (b : Bridge σ) (s : Session σ) (c : StateCall) : StateStep σ :=
  ⟨c, s, (c.perform b.recorded s.recorded).2.world.log, (c.perform b s).1, (c.perform b s).2⟩

/-- The steps of a sequence of uses. -/
def stateRun (b : Bridge σ) : Session σ → List StateCall → List (StateStep σ)
  | _, [] => []
  | s, c :: calls => b.stateStep s c :: b.stateRun (b.stateStep s c).after calls

/-- The session after a sequence of uses. -/
def stateFinish (b : Bridge σ) : Session σ → List StateCall → Session σ
  | s, [] => s
  | s, c :: calls => b.stateFinish (b.stateStep s c).after calls

/-- What an interpreter that is watched answers, and what is written down. -/
theorem recorded_answer {b : Bridge σ} {r : Request} {w : Recorded σ}
    {answer : Except ForeignError r.Answer} {world : σ}
    (h : b.interpreter.perform r w.world = (answer, world)) :
    b.recorded.interpreter.perform r w = (answer, ⟨world, w.log ++ [⟨r, answer⟩]⟩) := by
  have happly : b.recorded.interpreter.perform r w =
      ((b.interpreter.perform r w.world).1,
        ⟨(b.interpreter.perform r w.world).2,
          w.log ++ [⟨r, (b.interpreter.perform r w.world).1⟩]⟩) := rfl
  rw [happly, h]

/-! ## The ways a use can go -/

/-- How a use of the registry goes: all is released, a state is there, it is not created, its
search path is not extended, or it is made with the next number. -/
inductive Uses (b : Bridge σ) (s : Session σ) : StateStep σ → Prop where
  | released :
      Uses b s ⟨.release, s, [], .ok none,
        ⟨s.world, { s.ledger with states := .empty },
          s.trace ++ [.notice (.statesReleased b.interpreter.name s.ledger.states.size)]⟩⟩
  | kept {key : StateKey} {m : ManagedState} (found : s.ledger.states.find? key = some m) :
      Uses b s ⟨.get key, s, [], .ok (some m), s⟩
  | uncreated {key : StateKey} {e : ForeignError} {world : σ}
      (missing : s.ledger.states.find? key = none) :
      Uses b s ⟨.get key, s, [⟨.createState, .error e⟩], .error (.state key.text (.raised e)),
        s.moved world⟩
  | unextended {key : StateKey} {token : StateToken} {e : ForeignError} {world : σ}
      (missing : s.ledger.states.find? key = none) :
      Uses b s ⟨.get key, s,
        [⟨.createState, .ok token⟩, ⟨.extendSearchPath token b.statePaths, .error e⟩],
        .error (.state key.text (.raised e)), s.moved world⟩
  | made {key : StateKey} {token : StateToken} {world : σ} {m : ManagedState}
      (missing : s.ledger.states.find? key = none)
      (new : m = ⟨s.ledger.nextState, key, token, b.statePaths⟩) :
      Uses b s ⟨.get key, s,
        [⟨.createState, .ok token⟩, ⟨.extendSearchPath token b.statePaths, .ok ()⟩],
        .ok (some m), ⟨world, s.ledger.keepState key m,
          s.trace ++ [.notice (.stateCreated b.interpreter.name m)]⟩⟩

/-- The step of a get, by what the bridge does with and without a watch on its interpreter. -/
theorem stateStep_get {b : Bridge σ} {s t : Session σ} {u : Session (Recorded σ)} {key : StateKey}
    {r : Except BridgeError ManagedState} (h : b.state key s = (r, t))
    (hrecorded : b.recorded.state key s.recorded = (r, u)) :
    b.stateStep s (.get key) = ⟨.get key, s, u.world.log, r.map some, t⟩ := by
  rw [stateStep, StateCall.perform, StateCall.perform, bind_apply, bind_apply, h, hrecorded]
  cases r <;> rfl

/-- A key that holds no state has one made, if the interpreter grants both requests. -/
theorem stateStep_of_made {b : Bridge σ} {s : Session σ} {key : StateKey} {token : StateToken}
    {world world' : σ} (hmissing : s.ledger.states.find? key = none)
    (hcreate : b.interpreter.perform .createState s.world = (.ok token, world))
    (hextend : b.interpreter.perform (.extendSearchPath token b.statePaths) world =
      (.ok (), world')) :
    let m : ManagedState := ⟨s.ledger.nextState, key, token, b.statePaths⟩
    b.stateStep s (.get key) = ⟨.get key, s,
      [⟨.createState, .ok token⟩, ⟨.extendSearchPath token b.statePaths, .ok ()⟩],
      .ok (some m), ⟨world', s.ledger.keepState key m,
        s.trace ++ [.notice (.stateCreated b.interpreter.name m)]⟩⟩ := by
  have hrecorded : s.recorded.ledger.states.find? key = none := hmissing
  have hcreated := recorded_answer (w := s.recorded.world) hcreate
  have hextended := recorded_answer
    (w := ⟨world, s.recorded.world.log ++ [⟨.createState, .ok token⟩]⟩) hextend
  rw [stateStep_get (state_made hmissing hcreate hextend)
    (state_made hrecorded hcreated hextended)]
  exact rfl

/-- Every call of the registry uses it. -/
theorem stateStep_uses (b : Bridge σ) (s : Session σ) (c : StateCall) :
    b.Uses s (b.stateStep s c) := by
  cases c with
  | release => exact .released
  | get key =>
      cases hfound : s.ledger.states.find? key with
      | some m =>
          have hrecorded : s.recorded.ledger.states.find? key = some m := hfound
          rw [stateStep_get (state_kept hfound) (state_kept hrecorded)]
          exact .kept hfound
      | none =>
          have hrecorded : s.recorded.ledger.states.find? key = none := hfound
          rcases hcreate : b.interpreter.perform .createState s.world with ⟨answer, world⟩
          have hcreated := recorded_answer (w := s.recorded.world) hcreate
          cases answer with
          | error e =>
              rw [stateStep_get (state_uncreated hfound hcreate)
                (state_uncreated hrecorded hcreated)]
              exact .uncreated hfound
          | ok token =>
              rcases hextend : b.interpreter.perform (.extendSearchPath token b.statePaths) world
                with ⟨answer, world'⟩
              have hextended := recorded_answer
                (w := ⟨world, s.recorded.world.log ++ [⟨.createState, .ok token⟩]⟩) hextend
              cases answer with
              | error e =>
                  rw [stateStep_get (state_unextended hfound hcreate hextend)
                    (state_unextended hrecorded hcreated hextended)]
                  exact .unextended hfound
              | ok _ =>
                  rw [stateStep_of_made hfound hcreate hextend]
                  exact .made hfound rfl

/-- A key that holds a state has it handed out, and nothing else happens. -/
theorem stateStep_of_kept {b : Bridge σ} {s : Session σ} {key : StateKey} {m : ManagedState}
    (h : s.ledger.states.find? key = some m) :
    b.stateStep s (.get key) = ⟨.get key, s, [], .ok (some m), s⟩ := by
  have hrecorded : s.recorded.ledger.states.find? key = some m := h
  rw [stateStep_get (state_kept h) (state_kept hrecorded)]
  rfl

end Bridge

/-! ## What a use leaves -/

namespace Bridge.Uses

variable {b : Bridge σ} {s : Session σ} {st : StateStep σ} {key : StateKey} {m : ManagedState}

/-- A state that is handed out is kept under the key that it was asked for with. -/
theorem kept_after (h : b.Uses s st) (hcall : st.call = .get key)
    (houtcome : st.outcome = .ok (some m)) : st.after.ledger.states.find? key = some m := by
  cases h with
  | released => cases hcall
  | kept found =>
      cases hcall
      cases houtcome
      exact found
  | uncreated => cases houtcome
  | unextended => cases houtcome
  | made missing new =>
      cases hcall
      cases houtcome
      exact Cache.find?_add_self m missing

/-- A state is kept until all are released. -/
theorem persists (h : b.Uses s st) (hcall : st.call ≠ .release)
    (hkept : s.ledger.states.find? key = some m) : st.after.ledger.states.find? key = some m := by
  cases h with
  | released => exact absurd rfl hcall
  | kept => exact hkept
  | uncreated => exact hkept
  | unextended => exact hkept
  | made => exact Cache.find?_add_of_some _ _ hkept

/-- A key that is not asked for holds no state that it did not hold before. -/
theorem missing_after (h : b.Uses s st) (hcall : st.call ≠ .get key)
    (hmissing : s.ledger.states.find? key = none) :
    st.after.ledger.states.find? key = none := by
  cases h with
  | released => rfl
  | kept => exact hmissing
  | uncreated => exact hmissing
  | unextended => exact hmissing
  | @made other =>
      have hne : other ≠ key := by
        rintro rfl
        exact hcall rfl
      exact (Cache.find?_add_of_ne _ _ hne).trans hmissing

/-- A use that fails leaves the ledger as it is; no state is kept under its key. -/
theorem failed (h : b.Uses s st) (hcall : st.call = .get key) {e : BridgeError}
    (houtcome : st.outcome = .error e) :
    st.after.ledger = s.ledger ∧ s.ledger.states.find? key = none := by
  cases h with
  | released => cases houtcome
  | kept => cases houtcome
  | uncreated missing =>
      cases hcall
      exact ⟨rfl, missing⟩
  | unextended missing =>
      cases hcall
      exact ⟨rfl, missing⟩
  | made => cases houtcome

/-- Where no state is kept, one is asked for. -/
theorem asks (h : b.Uses s st) (hcall : st.call = .get key)
    (hmissing : s.ledger.states.find? key = none) :
    ∃ answer rest, st.requests = ⟨.createState, answer⟩ :: rest := by
  cases h with
  | released => cases hcall
  | kept found =>
      cases hcall
      rw [hmissing] at found
      cases found
  | uncreated => exact ⟨_, _, rfl⟩
  | unextended => exact ⟨_, _, rfl⟩
  | made => exact ⟨_, _, rfl⟩

/-- The search path of a state is extended when it is made, and at no other time. -/
theorem extends_once (h : b.Uses s st) :
    (∀ m, st.made? = some m → st.requests =
      [⟨.createState, .ok m.token⟩, ⟨.extendSearchPath m.token m.injectedPath, .ok ()⟩]) ∧
    (st.made? = none →
      ∀ x ∈ st.requests, x.primitive = .extendSearchPath → x.granted = false) := by
  cases h with
  | released => exact ⟨fun m hm => (by cases hm), fun _ x hx => (by cases hx)⟩
  | kept => exact ⟨fun m hm => (by cases hm), fun _ x hx => (by cases hx)⟩
  | uncreated =>
      refine ⟨fun m hm => (by cases hm), fun _ x hx hprimitive => ?_⟩
      rw [List.mem_singleton.mp hx] at hprimitive
      cases hprimitive
  | unextended =>
      refine ⟨fun m hm => (by cases hm), fun _ x hx hprimitive => ?_⟩
      obtain rfl | hx := List.mem_cons.mp hx
      · cases hprimitive
      · rw [List.mem_singleton.mp hx]
        rfl
  | made missing new =>
      refine ⟨fun m hm => ?_, fun hnone => (by cases hnone)⟩
      cases hm
      rw [new]

end Bridge.Uses

/-! ## Numbers as they are shown -/

/-- What is left of a number in a word is shown for it. -/
theorem ManagedState.id_of_number {m : ManagedState} {n : Nat} (h : m.number = .nth n) :
    m.id = n % UInt64.size := by
  rw [ManagedState.id, h]
  exact UInt64.toNat_ofNat'

/-- Numbers are told apart by what is left of them in a word, unless they are too far from each
other. -/
theorem nodup_range'_mod {start length : Nat} (h : length ≤ UInt64.size) :
    ((List.range' start length).map (· % UInt64.size)).Nodup := by
  refine List.Nodup.map_on (fun x hx y hy heq => ?_) (List.nodup_range' 1)
  rw [List.mem_range'_1] at hx hy
  simp only [UInt64.size] at h heq
  omega

/-! ## The invariant of a step -/

/-- A registry in order, after some states were made: those that are kept are among them and under
their own keys, and their numbers go up from one without a gap. -/
structure Registered (made : List ManagedState) (s : Session σ) : Prop where
  keyed : ∀ entry ∈ s.ledger.states.entries, entry.2.key = entry.1
  known : ∀ entry ∈ s.ledger.states.entries, entry.2 ∈ made
  numbered : made.map ManagedState.number = (List.range' 1 made.length).map StateNumber.nth
  next : s.ledger.nextState = .nth (made.length + 1)

namespace Registered

variable {b : Bridge σ} {made : List ManagedState} {s : Session σ} {st : StateStep σ}

/-- No state is registered at the start. -/
theorem start (b : Bridge σ) (world : σ) : Registered [] (b.start world) where
  keyed entry hentry := by cases hentry
  known entry hentry := by cases hentry
  numbered := rfl
  next := rfl

/-- States with one number are the same state. -/
theorem injective (h : Registered made s) {m m' : ManagedState} (hm : m ∈ made) (hm' : m' ∈ made)
    (hnumber : m.number = m'.number) : m = m' := by
  have hnodup : (made.map ManagedState.number).Nodup := by
    rw [h.numbered]
    exact (List.nodup_range' 1).map fun _ _ heq => congrArg StateNumber.place heq
  exact List.inj_on_of_nodup_map hnodup hm hm' hnumber

/-- The states are shown with the numbers from one on, as far as these are left in a word. -/
theorem ids (h : Registered made s) :
    made.map ManagedState.id = (List.range' 1 made.length).map (· % UInt64.size) := by
  have hid : ManagedState.id = (fun k => k.word.toNat) ∘ ManagedState.number := rfl
  rw [hid, ← List.map_map, h.numbered, List.map_map]
  exact List.map_congr_left fun n _ => UInt64.toNat_ofNat

/-- Of states that were made in a row, no more than there are words, no two are shown with one
number. -/
theorem nodup_ids (h : Registered made s) {early stretch late : List ManagedState}
    (hmade : made = early ++ stretch ++ late) (hlength : stretch.length ≤ UInt64.size) :
    (stretch.map ManagedState.id).Nodup := by
  have hids := h.ids
  rw [hmade, List.append_assoc, List.map_append, List.map_append, List.length_append,
    List.length_append, ← List.range'_append_1, ← List.range'_append_1, List.map_append,
    List.map_append] at hids
  obtain ⟨-, hrest⟩ := List.append_inj hids (by simp)
  obtain ⟨hstretch, -⟩ := List.append_inj hrest (by simp)
  rw [hstretch]
  exact nodup_range'_mod hlength

/-- A new state has the next number. -/
theorem add (h : Registered made s) {key : StateKey} {m : ManagedState}
    (hnumber : m.number = s.ledger.nextState) (hkey : m.key = key) {t : Session σ}
    (ht : t.ledger = s.ledger.keepState key m) :
    Registered (made ++ [m]) t where
  keyed entry hentry := by
    rw [ht] at hentry
    obtain hold | hnew := List.mem_append.mp hentry
    · exact h.keyed entry hold
    · rw [List.mem_singleton.mp hnew]
      exact hkey
  known entry hentry := by
    rw [ht] at hentry
    obtain hold | hnew := List.mem_append.mp hentry
    · exact List.mem_append_left _ (h.known entry hold)
    · rw [List.mem_singleton.mp hnew]
      exact List.mem_append_right _ List.mem_cons_self
  numbered := by
    rw [List.map_append, h.numbered, List.length_append, List.length_singleton,
      List.range'_1_concat, List.map_append, List.map_singleton, List.map_singleton, hnumber,
      h.next, Nat.add_comm]
  next := by
    rw [ht, Ledger.keepState, h.next, StateNumber.next_nth, List.length_append,
      List.length_singleton]

/-- A registry in order stays so when no state is added to it. -/
theorem of_subset (h : Registered made s) {t : Session σ}
    (hstates : t.ledger.states.entries ⊆ s.ledger.states.entries)
    (hnext : t.ledger.nextState = s.ledger.nextState) : Registered (made ++ []) t where
  keyed entry hentry := h.keyed entry (hstates hentry)
  known entry hentry := by
    rw [List.append_nil]
    exact h.known entry (hstates hentry)
  numbered := by
    rw [List.append_nil]
    exact h.numbered
  next := by
    rw [List.append_nil, hnext]
    exact h.next

/-- Every use keeps the registry in order; what it hands out was made some time. -/
theorem step (h : Registered made s) (huse : b.Uses s st) :
    Registered (made ++ st.made?.toList) st.after ∧
      ∀ m, st.outcome = .ok (some m) → m ∈ made ++ st.made?.toList := by
  cases huse with
  | released => exact ⟨h.of_subset (List.nil_subset _) rfl, fun m hm => (by cases hm)⟩
  | kept found =>
      refine ⟨h.of_subset (List.Subset.refl _) rfl, fun m hm => ?_⟩
      cases hm
      exact List.mem_append_left _ (h.known _ (Cache.mem_of_find? found))
  | uncreated => exact ⟨h.of_subset (List.Subset.refl _) rfl, fun m hm => (by cases hm)⟩
  | unextended => exact ⟨h.of_subset (List.Subset.refl _) rfl, fun m hm => (by cases hm)⟩
  | @made key token world m missing new =>
      have hnumber : m.number = s.ledger.nextState := congrArg ManagedState.number new
      have hkey : m.key = key := congrArg ManagedState.key new
      refine ⟨h.add hnumber hkey rfl, fun m hm => ?_⟩
      cases hm
      exact List.mem_append_right _ List.mem_cons_self

end Registered

/-! ## Runs -/

namespace Bridge

variable {b : Bridge σ} {s : Session σ} {key : StateKey} {m : ManagedState}

/-- A run registers the states that are made in it, and hands out no others. -/
theorem registered_run {made : List ManagedState} (h : Registered made s)
    (calls : List StateCall) :
    Registered (made ++ (b.stateRun s calls).filterMap StateStep.made?) (b.stateFinish s calls) ∧
      ∀ st ∈ b.stateRun s calls, ∀ m, st.outcome = .ok (some m) →
        m ∈ made ++ (b.stateRun s calls).filterMap StateStep.made? := by
  induction calls generalizing s made with
  | nil =>
      rw [stateRun, List.filterMap_nil, List.append_nil]
      exact ⟨h, fun st hst => by cases hst⟩
  | cons c calls ih =>
      obtain ⟨hstep, hhanded⟩ := h.step (b.stateStep_uses s c)
      obtain ⟨hrest, hothers⟩ := ih hstep
      have hmade : (b.stateRun s (c :: calls)).filterMap StateStep.made? =
          (b.stateStep s c).made?.toList ++
            (b.stateRun (b.stateStep s c).after calls).filterMap StateStep.made? := by
        rw [stateRun, List.filterMap_cons]
        cases (b.stateStep s c).made? <;> rfl
      rw [hmade, ← List.append_assoc]
      refine ⟨hrest, fun st hst m hm => ?_⟩
      obtain rfl | hst := List.mem_cons.mp hst
      · exact List.mem_append_left _ (hhanded m hm)
      · exact hothers st hst m hm

/-- A state that is kept stays there as long as nothing is released. -/
theorem stateFinish_persists (calls : List StateCall) (hcalls : .release ∉ calls)
    (hkept : s.ledger.states.find? key = some m) :
    (b.stateFinish s calls).ledger.states.find? key = some m := by
  induction calls generalizing s with
  | nil => exact hkept
  | cons c calls ih =>
      rw [List.mem_cons, not_or] at hcalls
      exact ih hcalls.2 ((b.stateStep_uses s c).persists (Ne.symm hcalls.1) hkept)

/-- A state that is missing stays so as long as it is not asked for. -/
theorem stateFinish_missing (calls : List StateCall) (hcalls : .get key ∉ calls)
    (hmissing : s.ledger.states.find? key = none) :
    (b.stateFinish s calls).ledger.states.find? key = none := by
  induction calls generalizing s with
  | nil => exact hmissing
  | cons c calls ih =>
      rw [List.mem_cons, not_or] at hcalls
      exact ih hcalls.2 ((b.stateStep_uses s c).missing_after (Ne.symm hcalls.1) hmissing)

/-- Every step of a run is a use of the registry. -/
theorem uses_of_mem {calls : List StateCall} {st : StateStep σ} (h : st ∈ b.stateRun s calls) :
    b.Uses st.before st := by
  induction calls generalizing s with
  | nil => cases h
  | cons c calls ih =>
      obtain rfl | h := List.mem_cons.mp h
      · exact b.stateStep_uses s c
      · exact ih h

/-- The registry after any run of gets and releases.  The states that are kept are under their own
keys, and all states ever handed out were made with the numbers from one on, in this order, also
across releases.  A number is shown as a word, and no two of as many states in a row as there are
words are shown with one.  The search path of a state is extended when it is made and at no other
time.
A state that was got is got again until all are released, without any request.  A get that fails
leaves the ledger as it was, and the next one of the same key asks for a state again. -/
theorem registry_of_run (b : Bridge σ) (world : σ) (calls : List StateCall) :
    let steps := b.stateRun (b.start world) calls
    let made := steps.filterMap StateStep.made?
    let s := b.stateFinish (b.start world) calls
    (∀ entry ∈ s.ledger.states.entries, entry.2.key = entry.1) ∧
      (∀ key m between, (b.stateStep s (.get key)).outcome = .ok (some m) → .release ∉ between →
        let t := b.stateFinish (b.stateStep s (.get key)).after between
        b.stateStep t (.get key) = ⟨.get key, t, [], .ok (some m), t⟩) ∧
      (made.map ManagedState.number = (List.range' 1 made.length).map StateNumber.nth ∧
        s.ledger.nextState = .nth (made.length + 1) ∧
        (∀ st ∈ steps, ∀ m, st.outcome = .ok (some m) → m ∈ made) ∧
        (∀ m ∈ made, ∀ m' ∈ made, m.number = m'.number → m = m') ∧
        made.map ManagedState.id = (List.range' 1 made.length).map (· % UInt64.size) ∧
        ∀ early stretch late, made = early ++ stretch ++ late →
          stretch.length ≤ UInt64.size → (stretch.map ManagedState.id).Nodup) ∧
      (∀ st ∈ steps,
        (∀ m, st.made? = some m → st.requests =
          [⟨.createState, .ok m.token⟩, ⟨.extendSearchPath m.token m.injectedPath, .ok ()⟩]) ∧
        (st.made? = none →
          ∀ x ∈ st.requests, x.primitive = .extendSearchPath → x.granted = false)) ∧
      ∀ key e, (b.stateStep s (.get key)).outcome = .error e →
        (b.stateStep s (.get key)).after.ledger = s.ledger ∧
        ∀ between, .get key ∉ between →
          ∃ answer rest, (b.stateStep
            (b.stateFinish (b.stateStep s (.get key)).after between) (.get key)).requests =
              ⟨.createState, answer⟩ :: rest := by
  intro steps made s
  obtain ⟨hregistered, hhanded⟩ := registered_run (.start b world) calls
  rw [List.nil_append] at hregistered hhanded
  refine ⟨hregistered.keyed, ?_, ⟨hregistered.numbered, hregistered.next, hhanded, ?_,
    hregistered.ids, ?_⟩, ?_, ?_⟩
  · intro key m between houtcome hbetween t
    have hkept := (b.stateStep_uses s (.get key)).kept_after rfl houtcome
    exact stateStep_of_kept (stateFinish_persists between hbetween hkept)
  · intro m hm m' hm' hnumber
    exact hregistered.injective hm hm' hnumber
  · intro early stretch late hmade hlength
    exact hregistered.nodup_ids hmade hlength
  · intro st hst
    exact (uses_of_mem hst).extends_once
  · intro key e houtcome
    obtain ⟨hledger, hmissing⟩ := (b.stateStep_uses s (.get key)).failed rfl houtcome
    refine ⟨hledger, fun between hbetween => ?_⟩
    have hstill : (b.stateStep s (.get key)).after.ledger.states.find? key = none := by
      rw [hledger, hmissing]
    exact (b.stateStep_uses _ (.get key)).asks rfl (stateFinish_missing between hbetween hstill)

/-- The shared state is got and all states are released, time and again. -/
def visits (n : Nat) : List StateCall :=
  (List.replicate n [.get .shared, .release]).flatten

/-- One more visit comes before the others. -/
theorem visits_succ (n : Nat) : visits (n + 1) = .get .shared :: .release :: visits n := by
  rw [visits, List.replicate_succ, List.flatten_cons]
  rfl

/-- A willing host makes a new state for a key that holds none, and stays willing. -/
theorem visit_makes (c : Configuration) (e : Environment) {s : Session Host}
    (hempty : s.ledger.states = .empty) (hwilling : s.world.refusing = false) :
    let st := (onHost c e).stateStep s (.get .shared)
    ∃ m, st.made? = some m ∧ m.token = ⟨s.world.searchPaths.size⟩ ∧
      st.after.world.refusing = false ∧
      st.after.world.searchPaths.size = s.world.searchPaths.size + 1 := by
  intro st
  have hmissing : s.ledger.states.find? .shared = none := by
    rw [hempty]
    rfl
  have hcreate := Host.perform_createState s.world
  rw [hwilling, if_neg Bool.false_ne_true] at hcreate
  rw [show st = _ from stateStep_of_made (b := onHost c e) hmissing hcreate rfl]
  exact ⟨_, rfl, rfl, hwilling, Array.size_modify.trans (Array.size_push _)⟩

/-- In each visit to a willing host a new state is made. -/
theorem tokens_of_visits (c : Configuration) (e : Environment) (n : Nat) {s : Session Host}
    (hempty : s.ledger.states = .empty) (hwilling : s.world.refusing = false) :
    (((onHost c e).stateRun s (visits n)).filterMap StateStep.made?).map ManagedState.token =
      (List.range' s.world.searchPaths.size n).map StateToken.mk := by
  induction n generalizing s with
  | zero => rfl
  | succ n ih =>
      obtain ⟨m, hmade, htoken, hstill, hsize⟩ := visit_makes c e hempty hwilling
      rw [visits_succ, stateRun, List.filterMap_cons_some hmade, stateRun,
        List.filterMap_cons_none rfl, List.map_cons, htoken, List.range'_succ, List.map_cons,
        ← hsize]
      exact congrArg (_ :: ·) (ih rfl hstill)

/-- The states of visits from the start are numbered without a gap, and so are their tokens. -/
theorem exists_made_of_visits (c : Configuration) (e : Environment) {n k : Nat} (hk : k < n) :
    let b := onHost c e
    ∃ m ∈ (b.stateRun (b.start .empty) (visits n)).filterMap StateStep.made?,
      m.number = .nth (k + 1) ∧ m.token = ⟨k⟩ := by
  intro b
  have htokens := tokens_of_visits c e n (s := b.start .empty) rfl rfl
  have hnumbered := (registered_run (b := b) (.start b .empty) (visits n)).1.numbered
  rw [List.nil_append] at hnumbered
  generalize (b.stateRun (b.start .empty) (visits n)).filterMap StateStep.made? = made at *
  have hlength : made.length = n := by
    rw [← List.length_map, htokens, List.length_map, List.length_range']
  obtain rfl := hlength
  have hnumber := List.getElem_of_eq hnumbered (by rwa [List.length_map])
  have htoken := List.getElem_of_eq htokens (by rwa [List.length_map])
  rw [List.getElem_map, List.getElem_map, List.getElem_range', Nat.one_mul, Nat.add_comm] at hnumber
  rw [List.getElem_map, List.getElem_map, List.getElem_range', Nat.one_mul] at htoken
  exact ⟨made[k], List.getElem_mem hk, hnumber, htoken.trans (congrArg _ (Nat.zero_add k))⟩

/-- After as many visits as there are words, and one more, two states that were made for the bridge
are shown with one number. -/
theorem registry_shares_id :
    let b := onHost .isolated ⟨none, fun _ => none⟩
    let calls := (List.replicate (UInt64.size + 1) [StateCall.get .shared, .release]).flatten
    let made := (b.stateRun (b.start Host.empty) calls).filterMap StateStep.made?
    ∃ m ∈ made, ∃ m' ∈ made, m.id = m'.id ∧ m.token ≠ m'.token := by
  intro b calls made
  obtain ⟨m, hm, hfirst, htoken⟩ := exists_made_of_visits .isolated ⟨none, fun _ => none⟩
    (Nat.succ_pos UInt64.size)
  obtain ⟨m', hm', hlast, htoken'⟩ := exists_made_of_visits .isolated ⟨none, fun _ => none⟩
    (Nat.lt_succ_self UInt64.size)
  refine ⟨m, hm, m', hm', ?_, ?_⟩
  · rw [ManagedState.id_of_number hfirst, ManagedState.id_of_number hlast, Nat.zero_add,
      Nat.add_mod_left]
  · rw [htoken, htoken']
    exact fun heq => absurd (congrArg StateToken.index heq) (by decide)

end Bridge

end ObjectBridge
