import Mathlib.Logic.Function.Basic
import ObjectBridge.Proofs.Fetches

/-!
# Interleaved fetches

Any number of callers fetch from one ledger at the same time, each in two steps,
and the steps of all of them come in any order.  A caller whose lookup missed may
find that another one was faster; the states may be released between any two steps.

Main results:

- Definitions `Bridge.takeTurn`, `Bridge.moments`, `Bridge.raceFinish`: a race of
  callers, turn by turn.
- Theorem `Bridge.takeTurn_goes`: the ways in which a turn can go.
- Theorem `Bridge.fetches_of_race`: who gets what in a race, and what is in the
  ledger at its end.
-/

namespace ObjectBridge

variable {σ γ : Type}

/-! ## Races -/

/-- How far a caller got. -/
inductive Phase where
  | waiting
  | missed
  | done (outcome : Except BridgeError Kept)

/-- The number of steps that are left. -/
def Phase.left : Phase → Nat
  | waiting => 2
  | missed => 1
  | done _ => 0

/-- A turn in a race: the next step of a caller, or a release of all states. -/
inductive Turn (γ : Type) where
  | step (caller : γ)
  | release
deriving DecidableEq

/-- Whether a turn may empty a slot. -/
def Turn.Clears : Turn γ → Slot → Prop
  | .release, .state _ => True
  | _, _ => False

/-- Callers at work on one session. -/
structure Race (σ γ : Type) where
  session : Session σ
  phase : γ → Phase

/-- What the ledger of a race holds in a slot. -/
def Race.at? (r : Race σ γ) (slot : Slot) : Option Kept :=
  r.session.ledger.at? slot

namespace Race

variable [DecidableEq γ]

/-- The race after a caller got further. -/
def moved (r : Race σ γ) (caller : γ) (s : Session σ) (phase : Phase) : Race σ γ :=
  ⟨s, Function.update r.phase caller phase⟩

/-- A caller that has moved is in its new phase. -/
@[simp] theorem moved_phase_self (r : Race σ γ) (caller : γ) (s : Session σ) (phase : Phase) :
    (r.moved caller s phase).phase caller = phase :=
  Function.update_self ..

/-- The other callers are in the phases that they were in. -/
theorem moved_phase_of_ne (r : Race σ γ) {caller other : γ} (s : Session σ) (phase : Phase)
    (h : other ≠ caller) : (r.moved caller s phase).phase other = r.phase other :=
  Function.update_of_ne h ..

/-- Of two moves of one caller the last one counts. -/
@[simp] theorem moved_moved (r : Race σ γ) (caller : γ) (s t : Session σ) (phase phase' : Phase) :
    (r.moved caller s phase).moved caller t phase' = r.moved caller t phase' := by
  simp [moved]

end Race

/-- A turn of a race, with the race before and after it. -/
structure Moment (σ γ : Type) where
  before : Race σ γ
  turn : Turn γ
  after : Race σ γ

/-- A caller gets its answer in a moment. -/
def Moment.Answers (m : Moment σ γ) (caller : γ) (outcome : Except BridgeError Kept) : Prop :=
  (∀ earlier, m.before.phase caller ≠ .done earlier) ∧ m.after.phase caller = .done outcome

namespace Bridge

/-- What is created in a moment, and for which slot: nothing is there when a caller enters, and the
creation succeeds. -/
def created? (b : Bridge σ) (ask : γ → Fetch) (m : Moment σ γ) : Option (Slot × Kept) :=
  match m.turn with
  | .step c =>
    match m.before.phase c, m.before.at? (ask c).slot, ((ask c).create b m.before.session).1 with
    | .missed, none, .ok x => some ((ask c).slot, x)
    | _, _, _ => none
  | .release => none

/-- What a moment creates is what its entry creates where nothing is kept yet. -/
theorem created?_eq_some_iff {b : Bridge σ} {ask : γ → Fetch} {m : Moment σ γ} {slot : Slot}
    {x : Kept} :
    b.created? ask m = some (slot, x) ↔
      ∃ c, m.turn = .step c ∧ m.before.phase c = .missed ∧ (ask c).slot = slot ∧
        m.before.at? slot = none ∧ ((ask c).create b m.before.session).1 = .ok x := by
  obtain ⟨r, t, r'⟩ := m
  cases t with
  | release => simp [created?]
  | step c =>
      simp only [created?, Turn.step.injEq, exists_eq_left']
      split
      next hphase hmissing hcreate =>
        constructor
        · rintro ⟨⟩
          exact ⟨hphase, rfl, hmissing, hcreate⟩
        · rintro ⟨-, rfl, -, hcreate'⟩
          rw [hcreate] at hcreate'
          cases hcreate'
          rfl
      next hnone =>
        simp only [reduceCtorEq, false_iff]
        rintro ⟨hphase, rfl, hmissing, hcreate⟩
        exact hnone x hphase hmissing hcreate

/-- The race before its first turn. -/
def raceStart (b : Bridge σ) (world : σ) : Race σ γ :=
  ⟨b.start world, fun _ => .waiting⟩

/-- The ledger of a race is audited at its start. -/
theorem audited_raceStart (b : Bridge σ) (world : σ) :
    (b.raceStart world : Race σ γ).session.ledger.Audited [] :=
  Ledger.books_new

variable [DecidableEq γ]

/-- The race after a turn.  A caller that is done takes no further step. -/
def takeTurn (b : Bridge σ) (ask : γ → Fetch) (r : Race σ γ) : Turn γ → Race σ γ
  | .step c =>
    match r.phase c with
    | .waiting =>
      match r.at? (ask c).slot with
      | some x => r.moved c r.session (.done (.ok x))
      | none => r.moved c r.session .missed
    | .missed =>
      let (outcome, s) := (ask c).enter b r.session
      r.moved c s (.done outcome)
    | .done _ => r
  | .release => { r with session := (b.releaseStates r.session).2 }

/-- The moments of a race, in the order of its turns. -/
def moments (b : Bridge σ) (ask : γ → Fetch) : Race σ γ → List (Turn γ) → List (Moment σ γ)
  | _, [] => []
  | r, t :: turns => ⟨r, t, b.takeTurn ask r t⟩ :: b.moments ask (b.takeTurn ask r t) turns

/-- The race after its last turn. -/
def raceFinish (b : Bridge σ) (ask : γ → Fetch) : Race σ γ → List (Turn γ) → Race σ γ
  | r, [] => r
  | r, t :: turns => b.raceFinish ask (b.takeTurn ask r t) turns

/-! ## The ways a turn can go -/

/-- How a turn goes: a lookup finds something or misses, an entry follows, a caller is done already,
or the states are released. -/
inductive TurnGoes (b : Bridge σ) (ask : γ → Fetch) (r : Race σ γ) : Turn γ → Race σ γ → Prop where
  | looked {c : γ} {x : Kept} (phase : r.phase c = .waiting)
      (kept : r.at? (ask c).slot = some x) :
      TurnGoes b ask r (.step c) (r.moved c r.session (.done (.ok x)))
  | missed {c : γ} (phase : r.phase c = .waiting) (missing : r.at? (ask c).slot = none) :
      TurnGoes b ask r (.step c) (r.moved c r.session .missed)
  | entered {c : γ} {outcome : Except BridgeError Kept} {s : Session σ}
      (phase : r.phase c = .missed) (goes : (ask c).Goes b r.session outcome s) :
      TurnGoes b ask r (.step c) (r.moved c s (.done outcome))
  | idle {c : γ} {outcome : Except BridgeError Kept} (phase : r.phase c = .done outcome) :
      TurnGoes b ask r (.step c) r
  | released {s : Session σ} (ledger : s.ledger = { r.session.ledger with states := .empty }) :
      TurnGoes b ask r .release { r with session := s }

/-- Every turn goes in one of these ways. -/
theorem takeTurn_goes (b : Bridge σ) (ask : γ → Fetch) (r : Race σ γ) (t : Turn γ) :
    b.TurnGoes ask r t (b.takeTurn ask r t) := by
  cases t with
  | release => exact .released rfl
  | step c =>
      rw [takeTurn]
      cases hphase : r.phase c with
      | waiting =>
          cases hfound : r.at? (ask c).slot with
          | some x => simpa only [hfound] using .looked hphase hfound
          | none => simpa only [hfound] using .missed hphase hfound
      | missed => exact .entered hphase ((ask c).enter_goes b r.session)
      | done outcome => exact .idle hphase

namespace TurnGoes

variable {b : Bridge σ} {ask : γ → Fetch} {r r' : Race σ γ} {t : Turn γ} {c : γ} {slot : Slot}
  {x : Kept}

/-- A caller that is done stays done. -/
theorem stays_done (h : b.TurnGoes ask r t r') {outcome : Except BridgeError Kept}
    (hdone : r.phase c = .done outcome) : r'.phase c = .done outcome := by
  have hne {other : γ} {phase : Phase} (hphase : r.phase other = phase)
      (hother : ∀ outcome, phase ≠ .done outcome) : c ≠ other := by
    rintro rfl
    exact hother outcome (hphase.symm.trans hdone)
  cases h with
  | looked phase => rw [r.moved_phase_of_ne _ _ (hne phase nofun), hdone]
  | missed phase => rw [r.moved_phase_of_ne _ _ (hne phase nofun), hdone]
  | entered phase => rw [r.moved_phase_of_ne _ _ (hne phase nofun), hdone]
  | idle => exact hdone
  | released => exact hdone

/-- Every step of a caller brings it further. -/
theorem left_step (h : b.TurnGoes ask r (.step c) r') :
    (r'.phase c).left ≤ (r.phase c).left - 1 := by
  cases h with
  | looked phase => simp [Phase.left]
  | missed phase => simp [Phase.left, phase]
  | entered phase => simp [Phase.left]
  | idle phase => simp [Phase.left, phase]

/-- A caller is where it was after a turn that is not its own. -/
theorem phase_other (h : b.TurnGoes ask r t r') (hne : t ≠ .step c) : r'.phase c = r.phase c := by
  have hcaller {other : γ} (hstep : t = .step other) : c ≠ other := by
    rintro rfl
    exact hne hstep
  cases h with
  | looked => exact r.moved_phase_of_ne _ _ (hcaller rfl)
  | missed => exact r.moved_phase_of_ne _ _ (hcaller rfl)
  | entered => exact r.moved_phase_of_ne _ _ (hcaller rfl)
  | idle => rfl
  | released => rfl

/-- What is in a slot stays there until the states are released. -/
theorem persists (h : b.TurnGoes ask r t r') (hclears : ¬ t.Clears slot)
    (hkept : r.at? slot = some x) : r'.at? slot = some x := by
  cases h with
  | looked => exact hkept
  | missed => exact hkept
  | entered _ goes => exact goes.persists hkept
  | idle => exact hkept
  | released ledger =>
      refine (congrArg (Ledger.at? · slot) ledger).trans ?_
      cases slot with
      | state => exact absurd trivial hclears
      | _ => exact hkept

/-- A caller is answered by a lookup that finds something, or by its entry. -/
theorem answered (h : b.TurnGoes ask r t r') {outcome : Except BridgeError Kept}
    (hbefore : ∀ earlier, r.phase c ≠ .done earlier) (hafter : r'.phase c = .done outcome) :
    (∃ x, outcome = .ok x ∧ r'.at? (ask c).slot = some x) ∨
      (ask c).Goes b r.session outcome r'.session := by
  have hturn : t = .step c := by
    by_contra hne
    exact hbefore outcome ((h.phase_other hne).symm.trans hafter)
  subst hturn
  cases h with
  | looked _ kept =>
      rw [Race.moved_phase_self] at hafter
      cases hafter
      exact .inl ⟨_, rfl, kept⟩
  | missed =>
      rw [Race.moved_phase_self] at hafter
      cases hafter
  | entered _ goes =>
      rw [Race.moved_phase_self] at hafter
      cases hafter
      exact .inr goes
  | idle phase => exact absurd phase (hbefore _)

/-- A caller that succeeds gets what is in its slot at that time. -/
theorem answered_ok (h : b.TurnGoes ask r t r')
    (hanswers : Moment.Answers ⟨r, t, r'⟩ c (.ok x)) : r'.at? (ask c).slot = some x := by
  obtain ⟨y, hy, hkept⟩ | hgoes := h.answered hanswers.1 hanswers.2
  · cases hy
    exact hkept
  · exact hgoes.current

/-- A caller that fails leaves the ledger as it is. -/
theorem answered_error (h : b.TurnGoes ask r t r') {e : BridgeError}
    (hanswers : Moment.Answers ⟨r, t, r'⟩ c (.error e)) : r'.session.ledger = r.session.ledger := by
  obtain ⟨y, hy, -⟩ | hgoes := h.answered hanswers.1 hanswers.2
  · cases hy
  · exact hgoes.unchanged

end TurnGoes

/-! ## Creations -/

namespace TurnGoes

variable {b : Bridge σ} {ask : γ → Fetch} {r r' : Race σ γ} {t : Turn γ} {slot : Slot} {x : Kept}

/-- A turn that creates something is an entry that adds it to an empty slot and returns it. -/
theorem adds_of_created (h : b.TurnGoes ask r t r')
    (hcreated : b.created? ask ⟨r, t, r'⟩ = some (slot, x)) :
    r.at? slot = none ∧ r.session.ledger.Adds slot x r'.session.ledger ∧
      ∃ c, (ask c).slot = slot ∧ Moment.Answers ⟨r, t, r'⟩ c (.ok x) := by
  obtain ⟨c, hturn, hphase, rfl, hmissing, hcreate⟩ := created?_eq_some_iff.mp hcreated
  cases hturn
  cases h with
  | looked phase => cases hphase.symm.trans phase
  | missed phase => cases hphase.symm.trans phase
  | entered _ goes =>
      obtain ⟨rfl, hadds⟩ := goes.of_created hmissing hcreate
      have hbefore (earlier : Except BridgeError Kept) : r.phase c ≠ .done earlier := by
        rw [hphase]
        nofun
      exact ⟨hmissing, hadds, c, rfl, hbefore, r.moved_phase_self ..⟩
  | idle phase => cases hphase.symm.trans phase

/-- A turn that neither creates nor releases anything leaves the ledger as it is. -/
theorem unchanged (h : b.TurnGoes ask r t r') (hrelease : t ≠ .release)
    (hnone : b.created? ask ⟨r, t, r'⟩ = none) : r'.session.ledger = r.session.ledger := by
  cases h with
  | looked => rfl
  | missed => rfl
  | @entered c outcome s phase goes =>
      refine goes.of_not_created fun x hmissing hcreate => ?_
      have hsome : b.created? ask ⟨r, .step c, r.moved c s (.done outcome)⟩ =
          some ((ask c).slot, x) :=
        created?_eq_some_iff.mpr ⟨c, rfl, phase, rfl, hmissing, hcreate⟩
      rw [hnone] at hsome
      cases hsome
  | idle => rfl
  | released => exact absurd rfl hrelease

/-- A turn keeps the books in order. -/
theorem audited (h : b.TurnGoes ask r t r') {made : List Kept}
    (haudited : r.session.ledger.Audited made) :
    r'.session.ledger.Audited
      (made ++ ((b.created? ask ⟨r, t, r'⟩).map Prod.snd).toList) := by
  cases hcreated : b.created? ask ⟨r, t, r'⟩ with
  | some entry =>
      obtain ⟨-, hadds, -⟩ := h.adds_of_created hcreated
      exact hadds.audited haudited
  | none =>
      rw [Option.map_none, Option.toList_none, List.append_nil]
      by_cases hrelease : t = .release
      · subst hrelease
        cases h with
        | @released s ledger =>
            show s.ledger.Audited made
            rw [ledger]
            exact haudited.release
      · rw [h.unchanged hrelease hcreated]
        exact haudited

end TurnGoes

/-! ## Whole races -/

variable {b : Bridge σ} {ask : γ → Fetch} {r : Race σ γ} {turns : List (Turn γ)} {slot : Slot}
  {x : Kept}

/-- Every moment of a race goes in one of these ways. -/
theorem goes_of_mem {m : Moment σ γ} (h : m ∈ b.moments ask r turns) :
    b.TurnGoes ask m.before m.turn m.after := by
  induction turns generalizing r with
  | nil => cases h
  | cons t turns ih =>
      obtain rfl | h := List.mem_cons.mp h
      · exact b.takeTurn_goes ask r t
      · exact ih h

/-- A part of the moments of a race is a race of its own. -/
theorem moments_eq_append {first second : List (Moment σ γ)}
    (h : b.moments ask r turns = first ++ second) :
    ∃ early late, first = b.moments ask r early ∧
      second = b.moments ask (b.raceFinish ask r early) late := by
  induction first generalizing r turns with
  | nil => exact ⟨[], turns, rfl, h.symm⟩
  | cons m first ih =>
      cases turns with
      | nil => cases h
      | cons t turns =>
          obtain ⟨rfl, hrest⟩ := List.cons.inj h
          obtain ⟨early, late, rfl, rfl⟩ := ih hrest
          exact ⟨t :: early, late, rfl, rfl⟩

/-- A caller that is done at the end was done before or got its answer on the way. -/
theorem raceFinish_done_iff {c : γ} {outcome : Except BridgeError Kept} :
    (b.raceFinish ask r turns).phase c = .done outcome ↔
      r.phase c = .done outcome ∨ ∃ m ∈ b.moments ask r turns, m.Answers c outcome := by
  induction turns generalizing r with
  | nil => simp [raceFinish, moments]
  | cons t turns ih =>
      have hstep : (b.takeTurn ask r t).phase c = .done outcome ↔
          r.phase c = .done outcome ∨ Moment.Answers ⟨r, t, b.takeTurn ask r t⟩ c outcome := by
        constructor
        · intro hafter
          by_cases hbefore : ∃ earlier, r.phase c = .done earlier
          · obtain ⟨earlier, hbefore⟩ := hbefore
            have hstays := (b.takeTurn_goes ask r t).stays_done hbefore
            rw [hstays] at hafter
            exact .inl (hbefore.trans hafter)
          · exact .inr ⟨not_exists.mp hbefore, hafter⟩
        · rintro (hbefore | hanswers)
          · exact (b.takeTurn_goes ask r t).stays_done hbefore
          · exact hanswers.2
      simp only [raceFinish, ih, hstep, moments, List.mem_cons, exists_eq_or_imp, or_assoc]

/-- The steps of a caller bring it to its end. -/
theorem left_raceFinish (b : Bridge σ) (ask : γ → Fetch) (r : Race σ γ) (turns : List (Turn γ))
    (c : γ) :
    ((b.raceFinish ask r turns).phase c).left ≤ (r.phase c).left - turns.count (.step c) := by
  induction turns generalizing r with
  | nil => exact Nat.le_refl _
  | cons t turns ih =>
      have hrest := ih (b.takeTurn ask r t)
      rw [raceFinish, List.count_cons]
      by_cases hturn : t = .step c
      · subst hturn
        have hstep := (b.takeTurn_goes ask r (.step c)).left_step
        simp only [BEq.rfl, if_true]
        omega
      · rw [(b.takeTurn_goes ask r t).phase_other hturn] at hrest
        simpa [hturn] using hrest

/-- A caller that waits is done after two steps. -/
theorem done_of_count {c : γ} (hwaiting : r.phase c = .waiting)
    (hcount : 2 ≤ turns.count (.step c)) :
    ∃ outcome, (b.raceFinish ask r turns).phase c = .done outcome := by
  have hleft := b.left_raceFinish ask r turns c
  rw [hwaiting, Phase.left, Nat.sub_eq_zero_of_le hcount] at hleft
  cases hphase : (b.raceFinish ask r turns).phase c with
  | done outcome => exact ⟨outcome, rfl⟩
  | _ =>
      rw [hphase] at hleft
      cases hleft

/-! ## Stretches without a release -/

/-- What is kept stays there to the end of a race that does not clear it. -/
theorem raceFinish_persists (hclears : ∀ m ∈ b.moments ask r turns, ¬ m.turn.Clears slot)
    (hkept : r.at? slot = some x) : (b.raceFinish ask r turns).at? slot = some x := by
  induction turns generalizing r with
  | nil => exact hkept
  | cons t turns ih =>
      rw [moments, List.forall_mem_cons] at hclears
      exact ih hclears.2 ((b.takeTurn_goes ask r t).persists hclears.1 hkept)

/-- Whoever succeeds in a stretch without a release gets what is in the slot at its end. -/
theorem answers_raceFinish (hclears : ∀ m ∈ b.moments ask r turns, ¬ m.turn.Clears slot)
    {m : Moment σ γ} (hm : m ∈ b.moments ask r turns) {c : γ} (hslot : (ask c).slot = slot)
    (hanswers : m.Answers c (.ok x)) : (b.raceFinish ask r turns).at? slot = some x := by
  induction turns generalizing r with
  | nil => cases hm
  | cons t turns ih =>
      rw [moments, List.forall_mem_cons] at hclears
      obtain rfl | hm := List.mem_cons.mp hm
      · have hkept := (b.takeTurn_goes ask r t).answered_ok hanswers
        rw [hslot] at hkept
        rw [raceFinish]
        exact raceFinish_persists hclears.2 hkept
      · exact ih hclears.2 hm

/-- All who succeed in a stretch without a release get the same. -/
theorem agree_of_answers (hclears : ∀ m ∈ b.moments ask r turns, ¬ m.turn.Clears slot) :
    ∀ m ∈ b.moments ask r turns, ∀ m' ∈ b.moments ask r turns, ∀ c c' x x',
      (ask c).slot = slot → (ask c').slot = slot → m.Answers c (.ok x) → m'.Answers c' (.ok x') →
        x = x' := by
  intro m hm m' hm' c c' x x' hslot hslot' hanswers hanswers'
  have hkept := answers_raceFinish hclears hm hslot hanswers
  rw [answers_raceFinish hclears hm' hslot' hanswers'] at hkept
  exact (Option.some.inj hkept).symm

/-- Nothing is created for a slot that holds something. -/
theorem created?_of_kept (hclears : ∀ m ∈ b.moments ask r turns, ¬ m.turn.Clears slot)
    (hkept : r.at? slot = some x) :
    ((b.moments ask r turns).filterMap (b.created? ask)).countP (·.1 = slot) = 0 := by
  induction turns generalizing r with
  | nil => rfl
  | cons t turns ih =>
      rw [moments, List.forall_mem_cons] at hclears
      have hrest := ih hclears.2 ((b.takeTurn_goes ask r t).persists hclears.1 hkept)
      rw [moments, List.filterMap_cons]
      cases hcreated : b.created? ask ⟨r, t, b.takeTurn ask r t⟩ with
      | none => exact hrest
      | some entry =>
          have hne : entry.1 ≠ slot := by
            rintro rfl
            have hmissing := ((b.takeTurn_goes ask r t).adds_of_created hcreated).1
            rw [hkept] at hmissing
            cases hmissing
          simpa [hne] using hrest

/-- At most one thing is created for a slot in a stretch without a release. -/
theorem created?_at_most_once (hclears : ∀ m ∈ b.moments ask r turns, ¬ m.turn.Clears slot) :
    ((b.moments ask r turns).filterMap (b.created? ask)).countP (·.1 = slot) ≤ 1 := by
  induction turns generalizing r with
  | nil => exact Nat.zero_le 1
  | cons t turns ih =>
      rw [moments, List.forall_mem_cons] at hclears
      rw [moments, List.filterMap_cons]
      cases hcreated : b.created? ask ⟨r, t, b.takeTurn ask r t⟩ with
      | none => exact ih hclears.2
      | some entry =>
          by_cases hslot : entry.1 = slot
          · subst hslot
            obtain ⟨hmissing, hadds, -⟩ := (b.takeTurn_goes ask r t).adds_of_created hcreated
            have hkept : (b.takeTurn ask r t).at? entry.1 = some entry.2 := hadds.at?_self hmissing
            simp [created?_of_kept hclears.2 hkept]
          · simpa [hslot] using ih hclears.2

/-- After a race the ledger is audited for what was made in it. -/
theorem audited_raceFinish {made : List Kept} (h : r.session.ledger.Audited made) :
    (b.raceFinish ask r turns).session.ledger.Audited
      (made ++ ((b.moments ask r turns).filterMap (b.created? ask)).map Prod.snd) := by
  induction turns generalizing r made with
  | nil => simpa [raceFinish, moments] using h
  | cons t turns ih =>
      have hrest := ih ((b.takeTurn_goes ask r t).audited h)
      rw [raceFinish, moments, List.filterMap_cons]
      cases hcreated : b.created? ask ⟨r, t, b.takeTurn ask r t⟩ with
      | none => simpa [hcreated] using hrest
      | some entry => simpa [hcreated] using hrest

/-- A caller that is not interrupted does what a fetch does. -/
theorem raceFinish_uninterrupted (b : Bridge σ) (ask : γ → Fetch) (r : Race σ γ) (c : γ)
    (hphase : r.phase c = .waiting) :
    b.raceFinish ask r [.step c, .step c] =
      r.moved c ((ask c).perform b r.session).2 (.done ((ask c).perform b r.session).1) := by
  rw [raceFinish, raceFinish, raceFinish]
  cases hfound : r.at? (ask c).slot with
  | some x =>
      have hlook : b.takeTurn ask r (.step c) = r.moved c r.session (.done (.ok x)) := by
        simp only [takeTurn, hphase, hfound]
      have hidle : b.takeTurn ask (r.moved c r.session (.done (.ok x))) (.step c) =
          r.moved c r.session (.done (.ok x)) := by
        simp only [takeTurn, Race.moved_phase_self]
      rw [hlook, hidle, Fetch.perform_found hfound]
  | none =>
      have hlook : b.takeTurn ask r (.step c) = r.moved c r.session .missed := by
        simp only [takeTurn, hphase, hfound]
      have henter : b.takeTurn ask (r.moved c r.session .missed) (.step c) =
          r.moved c ((ask c).enter b r.session).2 (.done ((ask c).enter b r.session).1) := by
        simp only [takeTurn, Race.moved_phase_self, Race.moved_moved]
        rfl
      rw [hlook, henter, Fetch.enter_eq_perform]

/-- Fetches in any interleaving, with releases of all states in between.  A caller that takes two
steps gets its answer.  Whoever succeeds gets what is in its slot at that time; whoever fails, and
every turn that creates nothing, leaves the ledger as it was.  What is created goes to an empty slot
and is returned.  Between two releases at most one thing is created for each slot, and all who
succeed get the same; what is no state is never released.  The numbers of the states and the
counters are those of all that was created, and nothing of it is lost but by a release.  A caller
that is not interrupted does what a fetch does. -/
theorem fetches_of_race (b : Bridge σ) (ask : γ → Fetch) (world : σ) (turns : List (Turn γ)) :
    let moments := b.moments ask (b.raceStart world) turns
    let last := b.raceFinish ask (b.raceStart world) turns
    (∀ c outcome, last.phase c = .done outcome ↔ ∃ m ∈ moments, m.Answers c outcome) ∧
      (∀ c, 2 ≤ turns.count (.step c) → ∃ outcome, last.phase c = .done outcome) ∧
      (∀ m ∈ moments, ∀ c x, m.Answers c (.ok x) → m.after.at? (ask c).slot = some x) ∧
      (∀ m ∈ moments, ∀ c e, m.Answers c (.error e) →
        m.after.session.ledger = m.before.session.ledger) ∧
      (∀ m ∈ moments, m.turn ≠ .release → b.created? ask m = none →
        m.after.session.ledger = m.before.session.ledger) ∧
      (∀ m ∈ moments, ∀ slot x, b.created? ask m = some (slot, x) →
        m.before.at? slot = none ∧ m.after.at? slot = some x ∧
          ∃ c, (ask c).slot = slot ∧ m.Answers c (.ok x)) ∧
      (∀ early between late slot, moments = early ++ between ++ late →
        (∀ m ∈ between, ¬ m.turn.Clears slot) →
        (between.filterMap (b.created? ask)).countP (·.1 = slot) ≤ 1 ∧
          ∀ m ∈ between, ∀ m' ∈ between, ∀ c c' x x', (ask c).slot = slot →
            (ask c').slot = slot → m.Answers c (.ok x) → m'.Answers c' (.ok x') → x = x') ∧
      last.session.ledger.Audited ((moments.filterMap (b.created? ask)).map Prod.snd) ∧
      ∀ r c, r.phase c = .waiting → b.raceFinish ask r [.step c, .step c] =
        r.moved c ((ask c).perform b r.session).2 (.done ((ask c).perform b r.session).1) := by
  intro moments last
  have hdone (c : γ) (outcome : Except BridgeError Kept) :
      last.phase c = .done outcome ↔ ∃ m ∈ moments, m.Answers c outcome := by
    refine raceFinish_done_iff.trans (or_iff_right ?_)
    nofun
  refine ⟨hdone, fun c => done_of_count rfl, ?_, ?_, ?_, ?_, ?_,
    audited_raceFinish (b.audited_raceStart world), fun r c => b.raceFinish_uninterrupted ask r c⟩
  · intro m hm c x
    exact (goes_of_mem hm).answered_ok
  · intro m hm c e
    exact (goes_of_mem hm).answered_error
  · intro m hm
    exact (goes_of_mem hm).unchanged
  · intro m hm slot x hcreated
    obtain ⟨hmissing, hadds, hanswers⟩ := (goes_of_mem hm).adds_of_created hcreated
    exact ⟨hmissing, hadds.at?_self hmissing, hanswers⟩
  · intro early between late slot hmoments hclears
    rw [List.append_assoc] at hmoments
    obtain ⟨first, rest, -, hrest⟩ := moments_eq_append hmoments
    obtain ⟨stretch, -, rfl, -⟩ := moments_eq_append hrest.symm
    exact ⟨created?_at_most_once hclears, agree_of_answers hclears⟩

/-- Both callers miss; the slower one gets what the faster one put there. -/
example (b : Bridge σ) (world : σ) :
    let ask (c : Bool) : Fetch := .interface (.named "Car") (.named (if c then "Car" else "Truck"))
    let last := b.raceFinish ask (b.raceStart world)
      [.step true, .step false, .release, .step true, .step false]
    last.phase false = .done (.ok (.interface (.named "Car"))) :=
  rfl

end Bridge

end ObjectBridge
