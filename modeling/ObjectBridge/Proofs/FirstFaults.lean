import Mathlib.Data.List.Basic

/-!
# First faults

A check that stops at the first fault is compared with the list of all faults, in the order in
which the check would meet them: it succeeds exactly if there are none, and otherwise fails with
the first one.

Main results:

- Definition `Reports`: a result that reports the first of some faults.
- Theorems `Reports.bind` and `Reports.mapM`: parts that report their faults make up a whole that
  reports the faults of all parts in a row.
- Theorem `Reports.check`: a check reports its fault in front of those of everything else.
-/

namespace ObjectBridge

variable {ε α β : Type}

/-- A result that fails with the first of some faults, and succeeds if there are none. -/
def Reports (r : Except ε α) (faults : List ε) : Prop :=
  match r with
  | .ok _ => faults = []
  | .error e => faults.head? = some e

/-- The fault of a result, if it failed. -/
def faultsOf : Except ε α → List ε
  | .ok _ => []
  | .error e => [e]

/-- The faults of the checks that are met, each given with its fault. -/
def failing (checks : List (Bool × ε)) : List ε :=
  (checks.filter Prod.fst).map Prod.snd

/-- The error of a check that fails comes before those of the checks after it. -/
theorem failing_cons (met : Bool) (e : ε) (checks : List (Bool × ε)) :
    failing ((met, e) :: checks) = (if met then [e] else []) ++ failing checks := by
  cases met <;> simp [failing]

/-- Nothing fails when no check does. -/
theorem failing_eq_nil_iff {checks : List (Bool × ε)} :
    failing checks = [] ↔ ∀ check ∈ checks, check.1 = false := by
  simp [failing, List.filter_eq_nil_iff]

/-- Nothing fails when neither the first check does nor any after it. -/
theorem failing_cons_eq_nil_iff {met : Bool} {e : ε} {checks : List (Bool × ε)} :
    failing ((met, e) :: checks) = [] ↔ met = false ∧ failing checks = [] := by
  rw [failing_cons]
  cases met <;> simp

/-- An outcome without fault is a success. -/
theorem faultsOf_eq_nil_iff {r : Except ε α} : faultsOf r = [] ↔ ∃ x, r = .ok x := by
  cases r <;> simp [faultsOf]

namespace Reports

variable {r : Except ε α} {f : α → Except ε β} {faults more : List ε} {e : ε}

/-- A check that reports faults succeeds when there are none. -/
theorem exists_ok_iff (h : Reports r faults) : (∃ x, r = .ok x) ↔ faults = [] := by
  cases r with
  | ok x =>
      have hnil : faults = [] := h
      simp [hnil]
  | error e =>
      have hhead : faults.head? = some e := h
      constructor
      · rintro ⟨x, hx⟩
        cases hx
      · intro hnil
        simp [hnil] at hhead

/-- A check that reports faults fails for the first of them. -/
theorem eq_error_iff (h : Reports r faults) : r = .error e ↔ faults.head? = some e := by
  cases r with
  | ok x =>
      have hnil : faults = [] := h
      simp [hnil]
  | error e' =>
      have hhead : faults.head? = some e' := h
      simp [hhead]

/-- A success reports no fault. -/
theorem ok (x : α) : Reports (.ok x : Except ε α) [] :=
  rfl

/-- A failure reports its error, whatever else is at fault. -/
theorem error (e : ε) (faults : List ε) : Reports (.error e : Except ε α) (e :: faults) :=
  rfl

/-- Every result reports its own fault. -/
theorem of_result (r : Except ε α) : Reports r (faultsOf r) := by
  cases r <;> rfl

/-- What runs behind a success reports its faults behind those before. -/
theorem bind (hr : Reports r faults) (hf : ∀ x, r = .ok x → Reports (f x) more) :
    Reports (r >>= f) (faults ++ more) := by
  cases r with
  | ok x =>
      have hnil : faults = [] := hr
      rw [hnil]
      exact hf x rfl
  | error e =>
      have hhead : faults.head? = some e := hr
      show (faults ++ more).head? = some e
      simp [List.head?_append, hhead]

/-- What is made of a result is at fault where the result was. -/
theorem map (g : α → β) (hr : Reports r faults) : Reports (r.map g) faults := by
  cases r <;> exact hr

/-- What follows without any faults leaves the faults as they are. -/
theorem bind_ok (g : α → β) (hr : Reports r faults) :
    Reports (r >>= fun x => .ok (g x)) faults := by
  cases r <;> exact hr

/-- A traversal reports the faults of all elements in their order. -/
theorem mapM {g : α → Except ε β} {faults : α → List ε} {xs : List α}
    (h : ∀ x ∈ xs, Reports (g x) (faults x)) : Reports (xs.mapM g) (xs.flatMap faults) := by
  induction xs with
  | nil => exact ok []
  | cons x xs ih =>
      rw [List.mapM_cons, List.flatMap_cons]
      apply bind (h x List.mem_cons_self)
      intro y _
      exact bind_ok (y :: ·) (ih fun z hz => h z (List.mem_cons_of_mem x hz))

/-- A check in front of everything else. -/
theorem check {met : Bool} (h : Reports r faults) :
    Reports (if met then .error e else r) ((if met then [e] else []) ++ faults) := by
  cases met with
  | true => exact error e _
  | false => exact h

end Reports

end ObjectBridge
