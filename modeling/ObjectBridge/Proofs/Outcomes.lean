import Mathlib.Data.List.Forall2
import ObjectBridge.Proofs.Ledger

/-!
# How actions end

A judgement on one action in one session: what holds of the result and of the session after it
when it succeeds, and what holds of the failure and of the session after it when it fails.

Main results:

- Definition `Ends`: the judgement.
- Theorems `Ends.bind` and `Ends.mapM`: the parts of an action carry it over to the whole.
- Theorem `Ends.ask`: a request ends as the interpreter answers it.
- Definition `Leads`: the judgement for actions that stay within a relation in any case.
-/

namespace ObjectBridge

variable {ε ς σ α β : Type}

/-- An action ends with a result and a session that `Q` holds of, or with a failure and a session
that `E` holds of. -/
def Ends (Q : α → ς → Prop) (E : ε → ς → Prop) (a : ExceptT ε (StateM ς) α) (s : ς) : Prop :=
  match a s with
  | (.ok x, t) => Q x t
  | (.error e, t) => E e t

namespace Ends

variable {Q Q' : α → ς → Prop} {P : β → ς → Prop} {E E' : ε → ς → Prop}
  {a : ExceptT ε (StateM ς) α} {f : α → ExceptT ε (StateM ς) β} {s t : ς}

/-- An action that succeeds ends as the result and the session after it say. -/
theorem of_ok {x : α} (h : a s = (.ok x, t)) (hQ : Q x t) : Ends Q E a s := by
  rw [Ends, h]
  exact hQ

/-- An action that fails ends as the error and the session after it say. -/
theorem of_error {e : ε} (h : a s = (.error e, t)) (hE : E e t) : Ends Q E a s := by
  rw [Ends, h]
  exact hE

/-- What holds after a success, read off the way an action ends. -/
theorem ok {x : α} (h : Ends Q E a s) (hok : (a s).1 = .ok x) : Q x (a s).2 := by
  rw [Ends] at h
  rcases hrun : a s with ⟨r, t⟩
  rw [hrun] at h hok
  cases r with
  | ok y =>
      cases hok
      exact h
  | error e => cases hok

/-- What holds after a failure, read off the way an action ends. -/
theorem error {e : ε} (h : Ends Q E a s) (herror : (a s).1 = .error e) : E e (a s).2 := by
  rw [Ends] at h
  rcases hrun : a s with ⟨r, t⟩
  rw [hrun] at h herror
  cases r with
  | ok x => cases herror
  | error e' =>
      cases herror
      exact h

/-- Both outcomes may be said to be less. -/
theorem mono (h : Ends Q E a s) (hQ : ∀ x t, Q x t → Q' x t) (hE : ∀ e t, E e t → E' e t) :
    Ends Q' E' a s := by
  unfold Ends at h ⊢
  generalize a s = ended at h ⊢
  obtain ⟨r, t⟩ := ended
  cases r with
  | ok x => exact hQ x t h
  | error e => exact hE e t h

/-- Nothing is said about an action that may end in any way. -/
theorem trivial (a : ExceptT ε (StateM ς) α) (s : ς) :
    Ends (fun _ _ => True) (fun _ _ => True) a s := by
  unfold Ends
  split <;> exact True.intro

theorem pure {x : α} (h : Q x s) : Ends Q E (Pure.pure x : ExceptT ε (StateM ς) α) s :=
  h

/-- A result or a failure that is given ends in the session where it is given. -/
theorem lift {r : Except ε α} (hok : ∀ x, r = .ok x → Q x s) (herror : ∀ e, r = .error e → E e s) :
    Ends Q E (liftM r : ExceptT ε (StateM ς) α) s := by
  cases r with
  | ok x => exact hok x rfl
  | error e => exact herror e rfl

/-- A sequence ends as its second part does from wherever the first one ends, or with its failure.
-/
theorem bind (ha : Ends Q E a s) (hf : ∀ x t, Q x t → Ends P E (f x) t) :
    Ends P E (a >>= f) s := by
  unfold Ends at ha
  rw [Ends, bind_apply]
  generalize a s = ended at ha ⊢
  obtain ⟨r, t⟩ := ended
  cases r with
  | ok x => exact hf x t ha
  | error e => exact ha

/-- A first part that only reads. -/
theorem read {r : Except ε α} (ha : a s = (r, s)) (hok : ∀ x, r = .ok x → Ends P E (f x) s)
    (herror : ∀ e, r = .error e → E e s) : Ends P E (a >>= f) s :=
  bind (Q := fun x t => r = .ok x ∧ t = s)
    (by
      cases r with
      | ok x => exact of_ok ha ⟨rfl, rfl⟩
      | error e => exact of_error ha (herror e rfl))
    fun x _ ⟨hx, ht⟩ => ht ▸ hok x hx

/-- What holds of a result and of a failure alike holds of the outcome. -/
theorem outcome {C : Except ε α → Prop}
    (h : Ends (fun x _ => C (.ok x)) (fun e _ => C (.error e)) a s) : C (a s).1 := by
  unfold Ends at h
  generalize a s = ended at h
  obtain ⟨r, t⟩ := ended
  cases r with
  | ok x => exact h
  | error e => exact h

/-- An action that also stays within a relation does so where it ends. -/
theorem with_rel {R : ς → ς → Prop} (h : Ends Q E a s) (hrel : R s (a s).2) :
    Ends (fun x t => R s t ∧ Q x t) E a s := by
  unfold Ends at h ⊢
  generalize a s = ended at h hrel ⊢
  obtain ⟨r, t⟩ := ended
  cases r with
  | ok x => exact ⟨hrel, h⟩
  | error e => exact h

/-- Two judgements on one action. -/
theorem both (h : Ends Q E a s) (h' : Ends Q' E' a s) :
    Ends (fun x t => Q x t ∧ Q' x t) (fun e t => E e t ∧ E' e t) a s := by
  unfold Ends at h h' ⊢
  generalize a s = ended at h h' ⊢
  obtain ⟨r, t⟩ := ended
  cases r <;> exact ⟨h, h'⟩

/-- What an action returns in any case, it returns here. -/
theorem returning {V : α → Prop} (h : Ends Q E a s) (hV : Returns V a) :
    Ends (fun x t => V x ∧ Q x t) E a s := by
  have hreturned := hV s
  unfold Ends at h ⊢
  generalize a s = ended at h hreturned ⊢
  obtain ⟨r, t⟩ := ended
  cases r with
  | ok x => exact ⟨hreturned x rfl, h⟩
  | error e => exact h

/-- A traversal whose steps keep what earlier ones brought about brings it about for every
element. -/
theorem mapM {R : ς → ς → Prop} [IsPreorder ς R] {V : α → β → ς → Prop} {xs : List α}
    (hf : ∀ x ∈ xs, ∀ t, R s t → Ends (fun y u => R t u ∧ V x y u) E (f x) t)
    (hV : ∀ x y t u, R t u → V x y t → V x y u) :
    Ends (fun ys t => R s t ∧ List.Forall₂ (V · · t) xs ys) E (xs.mapM f) s := by
  induction xs generalizing s with
  | nil => exact ⟨refl_of R s, .nil⟩
  | cons x xs ih =>
      rw [List.mapM_cons]
      refine (hf x (.head _) s (refl_of R s)).bind fun y t ⟨hst, hy⟩ => ?_
      have hrest := ih fun x hx u htu => hf x (.tail _ hx) u (trans_of R hst htu)
      refine hrest.bind fun ys u ⟨htu, hys⟩ => ?_
      exact ⟨trans_of R hst htu, .cons (hV x y t u htu hy) hys⟩

end Ends

/-! ## Staying within a relation -/

/-- An action stays within a relation to the session it starts in, and `Q` holds of its result and
the session then. -/
def Leads (R : ς → ς → Prop) (Q : α → ς → Prop) (a : ExceptT ε (StateM ς) α) (s : ς) : Prop :=
  Ends (fun x t => R s t ∧ Q x t) (fun _ t => R s t) a s

namespace Leads

variable {R : ς → ς → Prop} {Q Q' : α → ς → Prop} {P : β → ς → Prop}
  {a : ExceptT ε (StateM ς) α} {f : α → ExceptT ε (StateM ς) β} {s t : ς}

/-- An action that succeeds leads where it says. -/
theorem of_ok {x : α} (h : a s = (.ok x, t)) (hst : R s t) (hQ : Q x t) : Leads R Q a s :=
  Ends.of_ok h ⟨hst, hQ⟩

/-- An action that fails leads anywhere within the relation. -/
theorem of_error {e : ε} (h : a s = (.error e, t)) (hst : R s t) : Leads R Q a s :=
  Ends.of_error h hst

/-- However an action ends, it stays within the relation. -/
theorem rel (h : Leads R Q a s) : R s (a s).2 := by
  cases hr : (a s).1 with
  | ok x => exact (Ends.ok h hr).1
  | error e => exact Ends.error h hr

/-- What holds after a success, read off where an action leads. -/
theorem ok {x : α} (h : Leads R Q a s) (hok : (a s).1 = .ok x) : Q x (a s).2 :=
  (Ends.ok h hok).2

/-- An action that does not fail has a result of which this holds. -/
theorem of_isOk (h : Leads R Q a s) (hok : (a s).1.isOk = true) : ∃ x, Q x (a s).2 := by
  cases hr : (a s).1 with
  | ok x => exact ⟨x, h.ok hr⟩
  | error e =>
      rw [hr] at hok
      cases hok

/-- An action leads to less as well. -/
theorem mono (h : Leads R Q a s) (hQ : ∀ x t, R s t → Q x t → Q' x t) : Leads R Q' a s :=
  Ends.mono h (fun x t h => ⟨h.1, hQ x t h.1 h.2⟩) fun _ _ h => h

/-- An action that stays within a relation leads to its own outcome. -/
theorem of_outcome (h : R s (a s).2) : Leads R (fun x t => (a s).1 = .ok x ∧ t = (a s).2) a s := by
  rcases hrun : a s with ⟨r, t⟩
  rw [hrun] at h
  cases r with
  | ok x => exact .of_ok hrun h ⟨rfl, rfl⟩
  | error e => exact .of_error hrun h

/-- An action that stays within a relation leads there, whatever it returns. -/
theorem of_rel (h : R s (a s).2) : Leads R (fun _ _ => True) a s :=
  (of_outcome h).mono fun _ _ _ _ => True.intro

variable [IsPreorder ς R]

theorem pure {x : α} (h : Q x s) : Leads R Q (Pure.pure x : ExceptT ε (StateM ς) α) s :=
  ⟨refl_of R s, h⟩

theorem throw (e : ε) : Leads R Q (MonadExcept.throw e : ExceptT ε (StateM ς) α) s :=
  refl_of R s

/-- A result that is given leads nowhere else. -/
theorem lift {r : Except ε α} (h : ∀ x, r = .ok x → Q x s) :
    Leads R Q (liftM r : ExceptT ε (StateM ς) α) s :=
  Ends.lift (fun x hx => ⟨refl_of R s, h x hx⟩) fun _ _ => refl_of R s

/-- A sequence leads where its second part does from wherever the first one leads. -/
theorem bind (ha : Leads R Q a s) (hf : ∀ x t, R s t → Q x t → Leads R P (f x) t) :
    Leads R P (a >>= f) s :=
  Ends.bind (Ends.mono ha (fun _ _ h => h) fun _ _ h => h) fun x t ⟨hst, hQ⟩ =>
    Ends.mono (hf x t hst hQ) (fun _ _ h => ⟨trans_of R hst h.1, h.2⟩) fun _ _ h =>
      trans_of R hst h

/-- A first part that only reads. -/
theorem read {r : Except ε α} (ha : a s = (r, s)) (hf : ∀ x, r = .ok x → Leads R P (f x) s) :
    Leads R P (a >>= f) s := by
  cases r with
  | ok x =>
      have h := hf x rfl
      unfold Leads Ends at h ⊢
      rwa [bind_apply_ok ha]
  | error e => exact of_error (bind_apply_error ha) (refl_of R s)

/-- A traversal leads to results one by one, when what holds of each outlasts the steps after it. -/
theorem mapM {V : α → β → ς → Prop} {xs : List α}
    (hf : ∀ x ∈ xs, ∀ t, R s t → Leads R (V x) (f x) t)
    (hV : ∀ x y t u, R t u → V x y t → V x y u) :
    Leads R (fun ys t => List.Forall₂ (V · · t) xs ys) (xs.mapM f) s :=
  Ends.mapM (E := fun _ u => R s u) (fun x hx t hst => Ends.mono (hf x hx t hst) (fun _ _ h => h)
    fun _ _ htu => trans_of R hst htu) hV

end Leads

/-! ## Results in parts -/

/-- A sequence that succeeds does so in both of its parts. -/
theorem exists_of_bind_eq_ok {r : Except ε α} {f : α → Except ε β} {y : β}
    (h : (r >>= f) = .ok y) : ∃ x, r = .ok x ∧ f x = .ok y := by
  cases r with
  | ok x => exact ⟨x, rfl, h⟩
  | error e => cases h

/-- A sequence succeeds exactly when both of its parts do. -/
theorem bind_eq_ok_iff {r : Except ε α} {f : α → Except ε β} {y : β} :
    (r >>= f) = .ok y ↔ ∃ x, r = .ok x ∧ f x = .ok y := by
  refine ⟨exists_of_bind_eq_ok, ?_⟩
  rintro ⟨x, rfl, hx⟩
  exact hx

/-- What is made of a result has the result behind it. -/
theorem exists_of_map_eq_ok {r : Except ε α} {f : α → β} {y : β} (h : r.map f = .ok y) :
    ∃ x, r = .ok x ∧ f x = y := by
  cases r with
  | ok x => exact ⟨x, rfl, Except.ok.inj h⟩
  | error e => cases h

/-- An outcome that holds a value is that value. -/
theorem eq_ok_of_toOption {r : Except ε α} {x : α} (h : r.toOption = some x) : r = .ok x := by
  cases r with
  | ok y => exact congrArg Except.ok (Option.some.inj h)
  | error e => cases h

/-- A traversal that succeeds does so in each of its elements. -/
theorem forall₂_of_mapM_eq_ok {f : α → Except ε β} {xs : List α} {ys : List β}
    (h : xs.mapM f = .ok ys) : List.Forall₂ (fun x y => f x = .ok y) xs ys := by
  induction xs generalizing ys with
  | nil =>
      cases h
      exact .nil
  | cons x xs ih =>
      rw [List.mapM_cons] at h
      obtain ⟨y, hy, h⟩ := exists_of_bind_eq_ok h
      obtain ⟨rest, hrest, h⟩ := exists_of_bind_eq_ok h
      cases h
      exact .cons hy (ih hrest)

/-- A traversal succeeds exactly when every step does. -/
theorem mapM_eq_ok_iff {f : α → Except ε β} {xs : List α} {ys : List β} :
    xs.mapM f = .ok ys ↔ List.Forall₂ (fun x y => f x = .ok y) xs ys := by
  refine ⟨forall₂_of_mapM_eq_ok, fun h => ?_⟩
  induction h with
  | nil => rfl
  | cons hx _ ih =>
      rw [List.mapM_cons, hx, ih]
      rfl

/-- Whatever is on the right of related lists has its partner on the left. -/
theorem exists_of_forall₂ {R : α → β → Prop} {xs : List α} {ys : List β}
    (h : List.Forall₂ R xs ys) {y : β} (hy : y ∈ ys) : ∃ x ∈ xs, R x y := by
  induction h with
  | nil => exact absurd hy List.not_mem_nil
  | @cons x y' xs ys hxy _ ih =>
      rcases List.mem_cons.1 hy with rfl | hrest
      · exact ⟨x, .head _, hxy⟩
      · obtain ⟨x', hx', hR⟩ := ih hrest
        exact ⟨x', .tail _ hx', hR⟩

/-! ## Actions of a bridge -/

/-- A request ends as the interpreter answers it. -/
theorem Ends.ask {b : Bridge σ} {request : Request} {failure : ForeignError → BridgeError}
    {s : Session σ} {Q : request.Answer → Session σ → Prop} {E : BridgeError → Session σ → Prop}
    (hok : ∀ x w, b.interpreter.perform request s.world = (.ok x, w) → Q x (s.moved w))
    (herror : ∀ e w, b.interpreter.perform request s.world = (.error e, w) →
      E (failure e) (s.moved w)) :
    Ends Q E (b.ask request failure) s := by
  rcases h : b.interpreter.perform request s.world with ⟨r, w⟩
  cases r with
  | ok x => exact .of_ok (ask_granted h) (hok x w h)
  | error e => exact .of_error (ask_refused h) (herror e w h)

/-- A value given to the interpreter is an object already, or what the interpreter makes of it. -/
theorem Ends.toForeign {b : Bridge σ} {token : StateToken} {v : Value} {s : Session σ}
    {Q : ForeignObject → Session σ → Prop} {E : BridgeError → Session σ → Prop}
    (hobject : ∀ o, v = .object o → Q o s)
    (hok : ∀ o w, v.asObject = none →
      b.interpreter.perform (.toForeign token v) s.world = (.ok o, w) → Q o (s.moved w))
    (herror : ∀ e w, v.asObject = none →
      b.interpreter.perform (.toForeign token v) s.world = (.error e, w) →
      E (.conversion v.typeName (.raised e)) (s.moved w)) :
    Ends Q E (b.toForeign token v) s := by
  cases v with
  | object o => exact hobject o rfl
  | _ =>
      rw [Bridge.toForeign]
      · exact .ask (fun o w => hok o w rfl) fun e w => herror e w rfl
      · nofun

/-- A conversion ends with what the interpreter makes of the object, or with its complaint named
after the type. -/
theorem Ends.toNative {b : Bridge σ} {token : StateToken} {o : ForeignObject} {s : Session σ}
    {Q : Value → Session σ → Prop} {E : BridgeError → Session σ → Prop}
    (hok : ∀ v w, b.interpreter.perform (.toNative token o) s.world = (.ok v, w) → Q v (s.moved w))
    (herror : ∀ e w, b.interpreter.perform (.toNative token o) s.world = (.error e, w) →
      E (.conversion o.typeName (.raised e)) (s.moved w)) :
    Ends Q E (b.toNative token o) s :=
  Ends.ask hok herror

/-- An observed operation stays within a relation if counting and noticing a failure does. -/
theorem Leads.observed_of {R : Session σ → Session σ → Prop} [IsPreorder (Session σ) R]
    (hR : ∀ (t : Session σ) entry, R t ((t.counted .failed).entered entry))
    {Q : α → Session σ → Prop} {a : Action σ α} {s : Session σ} (h : Leads R Q a s)
    (operation subject : String) : Leads R Q (Bridge.observed operation subject a) s := by
  unfold Leads Ends at h ⊢
  rw [observed_apply]
  generalize a s = ended at h ⊢
  obtain ⟨r, t⟩ := ended
  cases r with
  | ok x => exact h
  | error e => exact trans_of R h (hR t _)

/-- A call that is passed on ends as the call of the method does. -/
theorem Ends.forward {b : Bridge σ} {p : Proxy} {operation foreignName : String}
    {arguments : List Value} {s : Session σ} {Q : Value → Session σ → Prop}
    {E : BridgeError → Session σ → Prop}
    (h : Ends Q E (b.callObject p operation foreignName arguments)
      ((s.entered (.opened ⟨p.interfaceName, operation, foreignName, p.state.id⟩)).entered
        .entered))
    (hQ : ∀ v t l trace, Q v t → Q v ⟨t.world, l, trace⟩)
    (hE : ∀ e t l trace, E e t → E e ⟨t.world, l, trace⟩) :
    Ends Q E (b.forward p operation foreignName arguments) s := by
  rw [Ends] at h ⊢
  rw [Bridge.forward_apply]
  generalize b.callObject p operation foreignName arguments _ = ended at h
  obtain ⟨r, t⟩ := ended
  cases r with
  | ok v => exact hQ v t _ _ h
  | error e => exact hE e t _ _ h

end ObjectBridge
