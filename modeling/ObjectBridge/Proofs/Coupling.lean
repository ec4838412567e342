import Mathlib.Data.List.Forall2
import ObjectBridge.Proofs.Action

/-!
# Actions in step

Two actions run side by side, each on a state of its own.  They keep in step when
they take related states to related states and end alike: both with the same
failure, or both with results that are related.  What results are related may
depend on the states, as with references into them; the states only grow in a way
that keeps results related.

Main results:

- Definition `Coupling.InStep`: two actions keep in step from two states.
- Theorems `Coupling.InStep.bind` and `Coupling.InStep.mapM`: sequences and
  traversals keep in step when their parts do.
-/

namespace ObjectBridge

variable {ε ς τ α β α' β' : Type}

/-- Two outcomes agree: both fail in the same way, or both succeed with related results. -/
inductive Agree (V : α → β → Prop) : Except ε α → Except ε β → Prop where
  | ok {x : α} {y : β} (related : V x y) : Agree V (.ok x) (.ok y)
  | error (e : ε) : Agree V (.error e) (.error e)

namespace Agree

/-- Outcomes that agree do so for every wider relation. -/
theorem mono {V W : α → β → Prop} (hVW : ∀ {x y}, V x y → W x y) {r : Except ε α}
    {q : Except ε β} (h : Agree V r q) : Agree W r q := by
  cases h with
  | ok h => exact .ok (hVW h)
  | error e => exact .error e

/-- Results that agree are mapped to results that do. -/
theorem map {V : α → β → Prop} {W : α' → β' → Prop} {f : α → α'} {g : β → β'} {r : Except ε α}
    {q : Except ε β} (h : Agree V r q) (hfg : ∀ {x y}, V x y → W (f x) (g y)) :
    Agree W (r.map f) (q.map g) := by
  cases h with
  | ok h => exact .ok (hfg h)
  | error e => exact .error e

/-- Errors that agree do so after being wrapped in the same way. -/
theorem mapError {ε' : Type} {V : α → β → Prop} {r : Except ε α} {q : Except ε β}
    (f : ε → ε') (h : Agree V r q) : Agree V (r.mapError f) (q.mapError f) := by
  cases h with
  | ok h => exact .ok h
  | error e => exact .error (f e)

/-- Sequences agree when their parts do. -/
theorem bind {V : α → β → Prop} {W : α' → β' → Prop} {r : Except ε α} {q : Except ε β}
    {f : α → Except ε α'} {g : β → Except ε β'} (h : Agree V r q)
    (hfg : ∀ {x y}, V x y → Agree W (f x) (g y)) : Agree W (r >>= f) (q >>= g) := by
  cases h with
  | ok h => exact hfg h
  | error e => exact .error e

/-- Traversals agree when their steps do, one by one. -/
theorem mapM {W : α' → β' → Prop} {f : α → Except ε α'} {g : β → Except ε β'} {xs : List α}
    {ys : List β} (h : List.Forall₂ (fun x y => Agree W (f x) (g y)) xs ys) :
    Agree (List.Forall₂ W) (xs.mapM f) (ys.mapM g) := by
  induction h with
  | nil => exact .ok .nil
  | cons hxy _ ih =>
      rw [List.mapM_cons, List.mapM_cons]
      exact hxy.bind fun hx => ih.bind fun hxs => .ok (.cons hx hxs)

/-- An outcome agrees with itself. -/
theorem refl {V : α → α → Prop} (hV : ∀ x, V x x) (r : Except ε α) : Agree V r r := by
  cases r with
  | ok x => exact .ok (hV x)
  | error e => exact .error e

/-- Outcomes that agree up to equality are equal. -/
theorem eq {r q : Except ε α} (h : Agree Eq r q) : r = q := by
  cases h with
  | ok h => rw [h]
  | error e => rfl

end Agree

/-- A relation between the states of two machines and the ways in which related states grow. -/
structure Coupling (ς τ : Type) where
  rel : ς → τ → Prop
  grows : ς → τ → ς → τ → Prop
  grows_refl : ∀ s t, grows s t s t
  grows_trans : ∀ {s t s₁ t₁ s₂ t₂}, grows s t s₁ t₁ → grows s₁ t₁ s₂ t₂ → grows s t s₂ t₂

namespace Coupling

variable (K : Coupling ς τ)

/-- A relation between data that stays when the states grow. -/
def Stable (V : ς → τ → α → β → Prop) : Prop :=
  ∀ ⦃s t s₁ t₁ x y⦄, K.grows s t s₁ t₁ → V s t x y → V s₁ t₁ x y

/-- Two changes that take related states to related ones. -/
def Moves (f : ς → ς) (g : τ → τ) : Prop :=
  ∀ ⦃s t⦄, K.rel s t → K.rel (f s) (g t) ∧ K.grows s t (f s) (g t)

/-- Two actions keep in step from two states. -/
structure InStep (V : ς → τ → α → β → Prop) (a : ExceptT ε (StateM ς) α)
    (a' : ExceptT ε (StateM τ) β) (s : ς) (t : τ) : Prop where
  rel : K.rel (a s).2 (a' t).2
  grows : K.grows s t (a s).2 (a' t).2
  agree : Agree (V (a s).2 (a' t).2) (a s).1 (a' t).1

variable {K}

/-- What lasts for single values lasts for lists of them. -/
theorem Stable.forall₂ {V : ς → τ → α → β → Prop} (hV : K.Stable V) :
    K.Stable fun s t => List.Forall₂ (V s t) :=
  fun _ _ _ _ _ _ hgrows h => h.imp fun _ _ hxy => hV hgrows hxy

namespace InStep

variable {V : ς → τ → α → β → Prop} {W : ς → τ → α' → β' → Prop} {s : ς} {t : τ}

/-- Two successes are in step when what they leave corresponds. -/
theorem of_ok {a : ExceptT ε (StateM ς) α} {a' : ExceptT ε (StateM τ) β} {s₁ : ς} {t₁ : τ} {x : α}
    {y : β} (ha : a s = (.ok x, s₁)) (ha' : a' t = (.ok y, t₁)) (hrel : K.rel s₁ t₁)
    (hgrows : K.grows s t s₁ t₁) (hxy : V s₁ t₁ x y) : K.InStep V a a' s t := by
  constructor <;> rw [ha, ha']
  · exact hrel
  · exact hgrows
  · exact .ok hxy

/-- Two failures are in step when they fail with one error. -/
theorem of_error {a : ExceptT ε (StateM ς) α} {a' : ExceptT ε (StateM τ) β} {s₁ : ς} {t₁ : τ}
    {e : ε} (ha : a s = (.error e, s₁)) (ha' : a' t = (.error e, t₁)) (hrel : K.rel s₁ t₁)
    (hgrows : K.grows s t s₁ t₁) : K.InStep V a a' s t := by
  constructor <;> rw [ha, ha']
  · exact hrel
  · exact hgrows
  · exact .error e

/-- Actions that keep in step both succeed with related results, or both fail with one error. -/
theorem outcome {a : ExceptT ε (StateM ς) α} {a' : ExceptT ε (StateM τ) β}
    (h : K.InStep V a a' s t) :
    ∃ s₁ t₁, K.rel s₁ t₁ ∧ K.grows s t s₁ t₁ ∧
      ((∃ x y, a s = (.ok x, s₁) ∧ a' t = (.ok y, t₁) ∧ V s₁ t₁ x y) ∨
        ∃ e, a s = (.error e, s₁) ∧ a' t = (.error e, t₁)) := by
  obtain ⟨hrel, hgrows, hagree⟩ := h
  rcases has : a s with ⟨r, s₁⟩
  rcases hat : a' t with ⟨q, t₁⟩
  rw [has, hat] at hrel hgrows hagree
  refine ⟨s₁, t₁, hrel, hgrows, ?_⟩
  cases hagree with
  | ok hxy => exact .inl ⟨_, _, rfl, rfl, hxy⟩
  | error e => exact .inr ⟨e, rfl, rfl⟩

/-- Results that correspond are in step. -/
theorem pure (hst : K.rel s t) {x : α} {y : β} (h : V s t x y) :
    K.InStep V (Pure.pure x : ExceptT ε (StateM ς) α) (Pure.pure y) s t :=
  ⟨hst, K.grows_refl s t, .ok h⟩

/-- Actions that only read are in step when what they read agrees. -/
theorem of_reads {a : ExceptT ε (StateM ς) α} {a' : ExceptT ε (StateM τ) β} {r : Except ε α}
    {q : Except ε β} (hst : K.rel s t) (ha : a s = (r, s)) (ha' : a' t = (q, t))
    (h : Agree (V s t) r q) : K.InStep V a a' s t := by
  constructor <;> rw [ha, ha']
  · exact hst
  · exact K.grows_refl s t
  · exact h

/-- Outcomes that agree are in step. -/
theorem lift (hst : K.rel s t) {r : Except ε α} {q : Except ε β} (h : Agree (V s t) r q) :
    K.InStep V (liftM r : ExceptT ε (StateM ς) α) (liftM q) s t :=
  ⟨hst, K.grows_refl s t, h⟩

theorem throw (hst : K.rel s t) (e : ε) :
    K.InStep V (MonadExcept.throw e : ExceptT ε (StateM ς) α) (MonadExcept.throw e) s t :=
  ⟨hst, K.grows_refl s t, .error e⟩

/-- Actions in step are so for every wider relation. -/
theorem mono {V' : ς → τ → α → β → Prop} {a : ExceptT ε (StateM ς) α}
    {a' : ExceptT ε (StateM τ) β} (h : K.InStep V a a' s t)
    (hVV' : ∀ {s₁ t₁ x y}, V s₁ t₁ x y → V' s₁ t₁ x y) : K.InStep V' a a' s t :=
  ⟨h.rel, h.grows, h.agree.mono hVV'⟩

/-- One outcome is in step with itself. -/
theorem same (hst : K.rel s t) (r : Except ε α) :
    K.InStep (fun _ _ => Eq) (liftM r : ExceptT ε (StateM ς) α) (liftM r) s t :=
  lift hst (.refl (fun _ => rfl) r)

/-- A sequence keeps in step when its first part does, and its second part does wherever related
results of the first may lead to. -/
theorem bind {a : ExceptT ε (StateM ς) α} {a' : ExceptT ε (StateM τ) β}
    {f : α → ExceptT ε (StateM ς) α'} {f' : β → ExceptT ε (StateM τ) β'}
    (ha : K.InStep V a a' s t)
    (hf : ∀ {s₁ t₁ x y}, K.rel s₁ t₁ → K.grows s t s₁ t₁ → V s₁ t₁ x y →
      K.InStep W (f x) (f' y) s₁ t₁) :
    K.InStep W (a >>= f) (a' >>= f') s t := by
  obtain ⟨s₁, t₁, hrel, hgrows, ⟨x, y, hs, ht, hxy⟩ | ⟨e, hs, ht⟩⟩ := ha.outcome
  · have hnext := hf hrel hgrows hxy
    constructor <;> rw [bind_apply_ok hs, bind_apply_ok ht]
    · exact hnext.rel
    · exact K.grows_trans hgrows hnext.grows
    · exact hnext.agree
  · exact of_error (bind_apply_error hs) (bind_apply_error ht) hrel hgrows

/-- After a reading on both sides, what comes next has to be in step. -/
theorem read_ok {a : ExceptT ε (StateM ς) α} {a' : ExceptT ε (StateM τ) β}
    {f : α → ExceptT ε (StateM ς) α'} {f' : β → ExceptT ε (StateM τ) β'} {x : α} {y : β}
    (ha : a s = (.ok x, s)) (ha' : a' t = (.ok y, t)) (h : K.InStep W (f x) (f' y) s t) :
    K.InStep W (a >>= f) (a' >>= f') s t := by
  obtain ⟨hrel, hgrows, hagree⟩ := h
  constructor <;> rw [bind_apply_ok ha, bind_apply_ok ha']
  · exact hrel
  · exact hgrows
  · exact hagree

/-- After two first parts that only read, a sequence keeps in step when its second part does for
what was read. -/
theorem read {P : α → β → Prop} {a : ExceptT ε (StateM ς) α} {a' : ExceptT ε (StateM τ) β}
    {f : α → ExceptT ε (StateM ς) α'} {f' : β → ExceptT ε (StateM τ) β'} {r : Except ε α}
    {q : Except ε β} (hst : K.rel s t) (ha : a s = (r, s)) (ha' : a' t = (q, t))
    (h : Agree P r q) (hf : ∀ {x y}, P x y → K.InStep W (f x) (f' y) s t) :
    K.InStep W (a >>= f) (a' >>= f') s t := by
  cases h with
  | error e => exact of_error (bind_apply_error ha) (bind_apply_error ha') hst (K.grows_refl s t)
  | ok hxy => exact read_ok ha ha' (hf hxy)

/-- Traversals keep in step when the steps for related elements do. -/
theorem mapM {P : ς → τ → α → β → Prop} (hP : K.Stable P) (hW : K.Stable W)
    {f : α → ExceptT ε (StateM ς) α'} {f' : β → ExceptT ε (StateM τ) β'}
    (hf : ∀ {s t x y}, K.rel s t → P s t x y → K.InStep W (f x) (f' y) s t)
    {xs : List α} {ys : List β} (hst : K.rel s t) (hxs : List.Forall₂ (P s t) xs ys) :
    K.InStep (fun s t => List.Forall₂ (W s t)) (xs.mapM f) (ys.mapM f') s t := by
  induction xs generalizing s t ys with
  | nil =>
      cases hxs
      exact pure hst .nil
  | cons x xs ih =>
      cases hxs with
      | cons hx hxs =>
          rw [List.mapM_cons, List.mapM_cons]
          refine bind (hf hst hx) fun hst₁ hgrows₁ hy => ?_
          refine bind (ih hst₁ (hP.forall₂ hgrows₁ hxs)) fun hst₂ hgrows₂ hys => ?_
          exact pure hst₂ (.cons (hW hgrows₂ hy) hys)

/-- Attempts keep in step when the actions do; their outcomes agree. -/
theorem attempt {σ σ' : Type} {K : Coupling (Session σ) (Session σ')}
    {V : Session σ → Session σ' → α → β → Prop} {a : Action σ α} {a' : Action σ' β}
    {s : Session σ} {t : Session σ'} (h : K.InStep V a a' s t) :
    K.InStep (fun s t => Agree (V s t)) (attempt a) (ObjectBridge.attempt a') s t :=
  ⟨h.rel, h.grows, .ok h.agree⟩

/-- What is kept in two places with the same content stays the same, if it is created alike. -/
theorem keep {σ σ' κ : Type} [DecidableEq κ] {K : Coupling (Session σ) (Session σ')}
    {place : Cache.Place (Session σ) κ α} {place' : Cache.Place (Session σ') κ α}
    (hread : ∀ {s t}, K.rel s t → place.read s = place'.read t)
    (hwrite : ∀ c, K.Moves (place.write c) (place'.write c)) (key : κ)
    {create : Action σ α} {create' : Action σ' α} {s : Session σ} {t : Session σ'}
    (hst : K.rel s t) (h : K.InStep (fun _ _ => Eq) create create' s t) :
    K.InStep (fun _ _ => Eq) (keep place key create) (ObjectBridge.keep place' key create')
      s t := by
  cases hfound : (place.read s).find? key with
  | some x =>
      have hfound' : (place'.read t).find? key = some x := by rw [← hread hst, hfound]
      exact of_ok (keep_found hfound) (keep_found hfound') hst (K.grows_refl s t) rfl
  | none =>
      have hfound' : (place'.read t).find? key = none := by rw [← hread hst, hfound]
      obtain ⟨s₁, t₁, hrel, hgrows, ⟨x, _, hs, ht, rfl⟩ | ⟨e, hs, ht⟩⟩ := h.outcome
      · obtain ⟨hrel₂, hgrows₂⟩ := hwrite ((place.read s₁).add key x) hrel
        have hmade' := keep_made hfound' ht
        rw [← hread hrel] at hmade'
        exact of_ok (keep_made hfound hs) hmade' hrel₂ (K.grows_trans hgrows hgrows₂) rfl
      · exact of_error (keep_failed hfound hs) (keep_failed hfound' ht) hrel hgrows

end InStep

end Coupling

end ObjectBridge
