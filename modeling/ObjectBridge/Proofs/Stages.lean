import ObjectBridge.Proofs.Recording

/-!
# Stages of an operation

An operation goes through stages in order and ends at the first that fails.  A
stage is known by the requests it makes and by how it may fail: a check makes no
request, and a stage of requests makes those of a plan one after another and fails
with the first that is refused.

Main results:

- Definition `Passage`: the record of an operation that goes through stages.
- Definition `Runs`: an action leaves such a record.
- Theorems `Runs.append`, `Runs.mapM`: sequences go through the stages of their
  parts.
-/

namespace ObjectBridge

variable {ε σ α β : Type}

/-- The failure of an outcome. -/
def failure? : Except ε α → Option ε
  | .ok _ => none
  | .error e => some e

/-! ## Stages -/

/-- A stage, given by the requests it may make and the failure it then ends with. -/
abbrev Stage := List Exchange → Option BridgeError → Prop

namespace Stage

/-- A check of native data, which makes no request. -/
def check (kind : String) (verdict : Except BridgeError α) : Stage := fun log failure =>
  log = [] ∧ failure = failure? verdict ∧ ∀ e, failure = some e → e.kind = kind

/-- A check of data that the interpreter answered with. -/
def judged (kind : String) : Stage := fun log failure =>
  log = [] ∧ ∀ e, failure = some e → e.kind = kind

/-- Requests for the primitives of a plan.  The first refusal is the last request; the exception
is the cause of the failure, in the given wording. -/
def requests (kind : String) (plan : List Primitive) (wording : ForeignError → String) : Stage :=
  fun log failure =>
    match failure with
    | none => (∀ x ∈ log, x.granted = true) ∧ log.map Exchange.primitive = plan
    | some e =>
      ∃ done refused err, log = done ++ [refused] ∧ (∀ x ∈ done, x.granted = true) ∧
        refused.answer = .error err ∧ log.map Exchange.primitive <+: plan ∧
        e.kind = kind ∧ e.cause.message = wording err

/-- Requests for one primitive, as many as there are results. -/
def each (kind : String) (p : Primitive) (wording : ForeignError → String) : Stage :=
  fun log failure => ∃ n, requests kind (List.replicate n p) wording log failure

variable {kind : String} {wording : ForeignError → String} {p q : List Primitive}
  {log log' : List Exchange} {failure : Option BridgeError} {e : BridgeError}

/-- No request is left to fail. -/
theorem requests_nil : requests kind [] wording [] none := by
  refine ⟨fun x hx => ?_, rfl⟩
  cases hx

/-- A plan whose first part is carried out goes on with its second part. -/
theorem requests_append (h : requests kind p wording log none)
    (h' : requests kind q wording log' failure) :
    requests kind (p ++ q) wording (log ++ log') failure := by
  obtain ⟨hgranted, hplan⟩ := h
  cases failure with
  | none =>
      obtain ⟨hgranted', hplan'⟩ := h'
      refine ⟨fun x hx => ?_, by rw [List.map_append, hplan, hplan']⟩
      exact (List.mem_append.mp hx).elim (hgranted x) (hgranted' x)
  | some e =>
      obtain ⟨done, refused, err, rfl, hgranted', hrefused, hprefix, hkind, hmessage⟩ := h'
      refine ⟨log ++ done, refused, err, (List.append_assoc ..).symm, fun x hx => ?_, hrefused,
        ?_, hkind, hmessage⟩
      · exact (List.mem_append.mp hx).elim (hgranted x) (hgranted' x)
      · rw [List.map_append, hplan]
        exact (List.prefix_append_right_inj p).mpr hprefix

/-- A plan whose first part fails goes no further. -/
theorem requests_fail (h : requests kind p wording log (some e)) :
    requests kind (p ++ q) wording log (some e) := by
  obtain ⟨done, refused, err, hlog, hgranted, hrefused, hprefix, hkind, hmessage⟩ := h
  exact ⟨done, refused, err, hlog, hgranted, hrefused, hprefix.trans (List.prefix_append p q),
    hkind, hmessage⟩

end Stage

/-- The record of an operation that goes through stages in order and ends at the first failure. -/
inductive Passage : List Stage → List Exchange → Option BridgeError → Prop where
  | done : Passage [] [] none
  | fails {stage : Stage} {stages : List Stage} {log : List Exchange} {e : BridgeError}
      (failed : stage log (some e)) : Passage (stage :: stages) log (some e)
  | passes {stage : Stage} {stages : List Stage} {log log' : List Exchange}
      {failure : Option BridgeError} (passed : stage log none)
      (rest : Passage stages log' failure) : Passage (stage :: stages) (log ++ log') failure

namespace Passage

variable {first second : List Stage} {log log' : List Exchange} {failure : Option BridgeError}
  {e : BridgeError}

/-- Stages that are passed are followed by further ones. -/
theorem append (h : Passage first log none) (h' : Passage second log' failure) :
    Passage (first ++ second) (log ++ log') failure := by
  generalize hnone : (none : Option BridgeError) = passed at h
  induction h with
  | done => exact h'
  | fails => cases hnone
  | passes hstage _ ih =>
      rw [List.append_assoc]
      exact passes hstage (ih hnone)

/-- Stages behind one that fails are not reached. -/
theorem append_fail (h : Passage first log (some e)) : Passage (first ++ second) log (some e) := by
  generalize hsome : some e = failed at h ⊢
  induction h with
  | done => cases hsome
  | fails hstage => exact fails hstage
  | passes hstage _ ih => exact passes hstage (ih hsome)

/-- One stage is a passage of its own. -/
theorem single {stage : Stage} (h : stage log failure) : Passage [stage] log failure := by
  cases failure with
  | none =>
      have hpassed := passes h done
      rwa [List.append_nil] at hpassed
  | some e => exact fails h

end Passage

/-! ## Actions that go through stages -/

/-- A watched action leaves the record of a stage; what it returns has a property. -/
def Runs (S : Stage) (a : Action (Recorded σ) α) (s : Session (Recorded σ))
    (Q : α → Session (Recorded σ) → Prop) : Prop :=
  ∃ log, (a s).2.world.log = s.world.log ++ log ∧ S log (failure? (a s).1) ∧
    ∀ x, (a s).1 = .ok x → Q x (a s).2

namespace Runs

variable {A B C : Stage} {a : Action (Recorded σ) α} {f : α → Action (Recorded σ) β}
  {s : Session (Recorded σ)} {Q Q' : α → Session (Recorded σ) → Prop}
  {R : β → Session (Recorded σ) → Prop}

/-- A run through stages is one through wider ones. -/
theorem mono (h : Runs A a s Q) (hAB : ∀ log failure, A log failure → B log failure)
    (hQ : ∀ x t, Q x t → Q' x t) : Runs B a s Q' := by
  obtain ⟨log, hlog, hA, hreturns⟩ := h
  exact ⟨log, hlog, hAB _ _ hA, fun x hx => hQ x _ (hreturns x hx)⟩

/-- A sequence goes through both stages, or fails in the first. -/
theorem bind (ha : Runs A a s Q) (hf : ∀ x t, Q x t → Runs B (f x) t R)
    (hpass : ∀ log log' failure, A log none → B log' failure → C (log ++ log') failure)
    (hfail : ∀ log e, A log (some e) → C log (some e)) : Runs C (a >>= f) s R := by
  obtain ⟨log, hlog, hA, hreturns⟩ := ha
  rcases h : a s with ⟨r, t⟩
  rw [h] at hlog hA hreturns
  cases r with
  | ok x =>
      obtain ⟨log', hlog', hB, hreturns'⟩ := hf x t (hreturns x rfl)
      rw [Runs, bind_apply_ok h]
      refine ⟨log ++ log', ?_, hpass log log' _ hA hB, hreturns'⟩
      rw [hlog', hlog, List.append_assoc]
  | error e =>
      rw [Runs, bind_apply_error h]
      exact ⟨log, hlog, hfail log e hA, fun x hx => by cases hx⟩

/-- A sequence runs through the stages of its parts. -/
theorem append {first second : List Stage} (ha : Runs (Passage first) a s Q)
    (hf : ∀ x t, Q x t → Runs (Passage second) (f x) t R) :
    Runs (Passage (first ++ second)) (a >>= f) s R :=
  bind ha hf (fun _ _ _ => Passage.append) fun _ _ => Passage.append_fail

/-- A sequence goes through the stage of its first action and the stages of the others. -/
theorem cons {stages : List Stage} (ha : Runs A a s Q)
    (hf : ∀ x t, Q x t → Runs (Passage stages) (f x) t R) :
    Runs (Passage (A :: stages)) (a >>= f) s R :=
  bind ha hf (fun _ _ _ => Passage.passes) fun _ _ => Passage.fails

/-- A run through one stage is one through a passage. -/
theorem single (ha : Runs A a s Q) : Runs (Passage [A]) a s Q :=
  mono ha (fun _ _ => Passage.single) fun _ _ => id

/-- An action without requests that cannot fail belongs to every stage. -/
theorem silent {x : α} {t : Session (Recorded σ)} (ha : a s = (.ok x, t))
    (hlog : t.world.log = s.world.log) (hQ : Q x t) : Runs (Passage []) a s Q := by
  rw [Runs, ha]
  refine ⟨[], by rw [hlog, List.append_nil], .done, fun y hy => ?_⟩
  cases hy
  exact hQ

/-- An action without requests that fails as a check of native data does. -/
theorem checked {kind : String} {verdict : Except BridgeError β}
    (hlog : (a s).2.world.log = s.world.log) (hverdict : failure? (a s).1 = failure? verdict)
    (hkind : ∀ e, verdict = .error e → e.kind = kind) (hQ : ∀ x, (a s).1 = .ok x → Q x (a s).2) :
    Runs (Stage.check kind verdict) a s Q := by
  refine ⟨[], by rw [hlog, List.append_nil], ⟨rfl, hverdict, fun e he => hkind e ?_⟩, hQ⟩
  rw [hverdict] at he
  cases verdict with
  | ok x => cases he
  | error e' => exact congrArg _ (Option.some.inj he)

/-- A check is a stage without requests. -/
theorem check {kind : String} (r : Except BridgeError α)
    (hkind : ∀ e, r = .error e → e.kind = kind) (hQ : ∀ x, r = .ok x → Q x s) :
    Runs (Stage.check kind r) (liftM r) s Q :=
  checked rfl rfl hkind hQ

/-- What is created for a place is created in the same stage. -/
theorem keep {κ : Type} [DecidableEq κ] {place : Cache.Place (Session (Recorded σ)) κ α} {key : κ}
    {create : Action (Recorded σ) α} (hnone : (place.read s).find? key = none)
    (hcreate : Runs A create s Q)
    (hwrite : ∀ x t, Q x t → (place.write ((place.read t).add key x) t).world = t.world ∧
      Q' x (place.write ((place.read t).add key x) t)) :
    Runs A (ObjectBridge.keep place key create) s Q' := by
  obtain ⟨log, hlog, hA, hreturns⟩ := hcreate
  rcases h : create s with ⟨r, t⟩
  rw [h] at hlog hA hreturns
  cases r with
  | ok x =>
      obtain ⟨hworld, hQ⟩ := hwrite x t (hreturns x rfl)
      rw [Runs, keep_made hnone h]
      refine ⟨log, by rw [hworld, hlog], hA, fun y hy => ?_⟩
      cases hy
      exact hQ
  | error e =>
      rw [Runs, keep_failed hnone h]
      exact ⟨log, hlog, hA, fun x hx => by cases hx⟩

/-! ### Requests -/

/-- The ledger is as it was. -/
def SameLedger (s : Session (Recorded σ)) (_ : α) (t : Session (Recorded σ)) : Prop :=
  t.ledger = s.ledger

section

variable {kind : String} {wording : ForeignError → String} {p q : List Primitive}

/-- Requests of one stage are made one after another. -/
theorem requests_bind (ha : Runs (Stage.requests kind p wording) a s Q)
    (hf : ∀ x t, Q x t → Runs (Stage.requests kind q wording) (f x) t R) :
    Runs (Stage.requests kind (p ++ q) wording) (a >>= f) s R :=
  bind ha hf (fun _ _ _ => Stage.requests_append) fun _ _ => Stage.requests_fail

/-- What needs no request runs through a stage that has none. -/
theorem no_requests {x : α} {t : Session (Recorded σ)} (ha : a s = (.ok x, t))
    (hlog : t.world.log = s.world.log) (hQ : Q x t) :
    Runs (Stage.requests kind [] wording) a s Q := by
  rw [Runs, ha]
  refine ⟨[], by rw [hlog, List.append_nil], Stage.requests_nil, fun y hy => ?_⟩
  cases hy
  exact hQ

/-- A single request. -/
theorem ask (b : Bridge σ) (r : Request) {failure : ForeignError → BridgeError}
    (hfailure : ∀ e, (failure e).kind = kind ∧ (failure e).cause.message = wording e) :
    Runs (Stage.requests kind [r.primitive] wording) (b.recorded.ask r failure) s
      (SameLedger s) := by
  rw [Runs, ask_apply]
  refine ⟨[⟨r, (b.interpreter.perform r s.world.world).1⟩], rfl, ?_, fun _ _ => rfl⟩
  show Stage.requests kind [r.primitive] wording _
    (failure? (Except.mapError failure (b.interpreter.perform r s.world.world).1))
  cases h : (b.interpreter.perform r s.world.world).1 with
  | ok x => exact ⟨fun x hx => by rw [List.mem_singleton.mp hx]; rfl, rfl⟩
  | error e =>
      exact ⟨[], _, e, rfl, fun x hx => (by cases hx), rfl, List.prefix_rfl, hfailure e⟩

/-- Traversals make the requests of their elements in order. -/
theorem mapM {plan : α → List Primitive} {f : α → Action (Recorded σ) β}
    (hf : ∀ x s, Runs (Stage.requests kind (plan x) wording) (f x) s (SameLedger s))
    (xs : List α) (s : Session (Recorded σ)) :
    Runs (Stage.requests kind (xs.flatMap plan) wording) (xs.mapM f) s (SameLedger s) := by
  induction xs generalizing s with
  | nil => exact no_requests (pure_apply [] s) rfl rfl
  | cons x xs ih =>
      rw [List.mapM_cons, List.flatMap_cons]
      refine requests_bind (hf x s) fun y t ht => ?_
      rw [← List.append_nil (xs.flatMap plan)]
      refine requests_bind (ih t) fun ys u hu => ?_
      exact no_requests (pure_apply _ u) rfl (hu.trans ht)

end

end Runs

end ObjectBridge
