import ObjectBridge.Proofs.OrderedEntries
import ObjectBridge.Proofs.Outcomes
import ObjectBridge.Proofs.Tables

/-!
# Which interfaces have a dispatch table

A dispatch table is drawn up in one pass, which compares an operation with the ones met so far.
What the pass accepts can be said without it, by conditions on pairs of operations in no
particular order; so neither the order of the operations nor a repetition makes a difference.

Main results:

- Definition `Operation.Consistent`: the operations that one table can hold.
- Theorems `ProxyType.Draft.Settled.add` and `ProxyType.Draft.Settled.exists_add`: what a draft
  knows of the operations met, and which ones it takes up.
- Theorem `ProxyType.exists_build_iff`: an interface has a table if its operations are consistent.
- Theorem `ProxyType.build_spec`: which table that is.
-/

namespace ObjectBridge

/-! ## Consistent operations -/

/-- Operations that one table can hold: a name stands for one operation, methods are called by
identifiers, and a method is always called with the same number of arguments. -/
structure Operation.Consistent (operations : List Operation) : Prop where
  unambiguous : ∀ op ∈ operations, ∀ other ∈ operations, op.name = other.name → op = other
  identifiers : ∀ op ∈ operations, op.forwarded = true → Text.isIdentifier op.foreignName = true
  arities : ∀ op ∈ operations, ∀ other ∈ operations, op.forwarded = true →
    other.forwarded = true → op.foreignName = other.foreignName → op.arity = other.arity

namespace Operation.Consistent

variable {operations more : List Operation} {op : Operation}

instance decidable (operations : List Operation) : Decidable (Consistent operations) :=
  decidable_of_iff (_ ∧ _ ∧ _)
    ⟨fun h => ⟨h.1, h.2.1, h.2.2⟩, fun h => ⟨h.unambiguous, h.identifiers, h.arities⟩⟩

/-- Of consistent operations some are consistent, too. -/
theorem mono (h : Consistent more) (hsubset : operations ⊆ more) : Consistent operations where
  unambiguous op hop other hother := h.unambiguous op (hsubset hop) other (hsubset hother)
  identifiers op hop := h.identifiers op (hsubset hop)
  arities op hop other hother := h.arities op (hsubset hop) other (hsubset hother)

/-- No operations are consistent. -/
theorem nil : Consistent [] :=
  ⟨nofun, nofun, nofun⟩

/-- One more operation is consistent with the others if it is by itself and with each of them. -/
theorem concat (h : Consistent operations)
    (hname : ∀ other ∈ operations, other.name = op.name → other = op)
    (hidentifier : op.forwarded = true → Text.isIdentifier op.foreignName = true)
    (harity : op.forwarded = true → ∀ other ∈ operations, other.forwarded = true →
      other.foreignName = op.foreignName → other.arity = op.arity) :
    Consistent (operations ++ [op]) := by
  constructor
  · intro first hfirst second hsecond heq
    rcases List.mem_append.mp hfirst, List.mem_append.mp hsecond with ⟨hold | hnew, hold' | hnew'⟩
    · exact h.unambiguous first hold second hold' heq
    · cases List.mem_singleton.mp hnew'
      exact hname first hold heq
    · cases List.mem_singleton.mp hnew
      exact (hname second hold' heq.symm).symm
    · rw [List.mem_singleton.mp hnew, List.mem_singleton.mp hnew']
  · intro first hfirst
    rcases List.mem_append.mp hfirst with hold | hnew
    · exact h.identifiers first hold
    · cases List.mem_singleton.mp hnew
      exact hidentifier
  · intro first hfirst second hsecond hforwarded hforwarded' heq
    rcases List.mem_append.mp hfirst, List.mem_append.mp hsecond with ⟨hold | hnew, hold' | hnew'⟩
    · exact h.arities first hold second hold' hforwarded hforwarded' heq
    · cases List.mem_singleton.mp hnew'
      exact harity hforwarded' first hold hforwarded heq
    · cases List.mem_singleton.mp hnew
      exact (harity hforwarded second hold' hforwarded' heq.symm).symm
    · rw [List.mem_singleton.mp hnew, List.mem_singleton.mp hnew']

end Operation.Consistent

/-- The first operation of a name is one of them. -/
theorem mem_of_firstNamed {name : String} {operations : List Operation} {op : Operation}
    (h : firstNamed name operations = some op) : op ∈ operations ∧ op.name = name :=
  ⟨List.mem_of_find?_eq_some h, by simpa using List.find?_some h⟩

/-- There is no first operation of a name that none of them has. -/
theorem firstNamed_eq_none_iff {name : String} {operations : List Operation} :
    firstNamed name operations = none ↔ ∀ op ∈ operations, op.name ≠ name := by
  simp [firstNamed]

namespace ProxyType

/-! ## Drafts -/

namespace Draft

variable {draft next : Draft} {op : Operation} {operations more : List Operation}

/-- The draft with the route of an operation. -/
def routed (draft : Draft) (op : Operation) : Draft :=
  { draft with
    methods := Entries.insert op.foreignName (op.name, op.arity) draft.methods
    table := Entries.insert op.name ⟨op.foreignName, op.arity⟩ draft.table }

/-- A route is given to a method with an identifier as its name, if it was called with the same
number of arguments the last time. -/
theorem route_eq_ok_iff : draft.route op = .ok next ↔
    Text.isIdentifier op.foreignName = true ∧
      (∀ other arity, Entries.lookup op.foreignName draft.methods = some (other, arity) →
        arity = op.arity) ∧
      next = draft.routed op := by
  rw [route]
  cases hidentifier : Text.isIdentifier op.foreignName with
  | false => simp
  | true =>
      cases hmethod : Entries.lookup op.foreignName draft.methods with
      | none => simp [routed, eq_comm]
      | some last =>
          obtain ⟨other, arity⟩ := last
          by_cases harity : arity = op.arity
          · simp [routed, harity, eq_comm]
          · simp [harity]

/-- An operation of a known name is taken up if it is the same, and one of a new name if it is
native or has a route. -/
theorem add_eq_ok_iff : draft.add op = .ok next ↔
    match Entries.lookup op.name draft.seen with
    | some previous =>
      previous = op ∧ next = { draft with seen := Entries.insert op.name op draft.seen }
    | none =>
      let met : Draft := { draft with seen := Entries.insert op.name op draft.seen }
      if op.forwarded = true then met.route op = .ok next else next = met := by
  rw [add]
  cases Entries.lookup op.name draft.seen with
  | some previous => by_cases hsame : previous = op <;> simp [hsame, eq_comm]
  | none => cases op.forwarded <;> simp [eq_comm]

/-- A draft after some operations: they are consistent, and for each method the draft knows the
number of arguments that all of them pass on to it. -/
structure Settled (draft : Draft) (operations : List Operation) : Prop where
  consistent : Operation.Consistent operations
  holds : draft.Holds operations
  methods : ∀ foreign arity, (∃ other, Entries.lookup foreign draft.methods = some (other, arity)) ↔
    ∃ op ∈ operations, op.forwarded = true ∧ op.foreignName = foreign ∧ op.arity = arity
  sorted : Entries.Sorted draft.table

namespace Settled

/-- The empty draft is settled for no operations. -/
theorem empty : Draft.empty.Settled [] where
  consistent := .nil
  holds := .empty
  methods _ _ := ⟨nofun, nofun⟩
  sorted := .nil

/-- An operation that is met again leaves a draft settled. -/
theorem again (h : draft.Settled operations) (hop : op ∈ operations)
    (hseen : next.methods = draft.methods ∧ next.table = draft.table)
    (hnext : next.Holds (operations ++ [op])) : next.Settled (operations ++ [op]) where
  consistent := h.consistent.mono
    (List.append_subset.mpr ⟨.refl _, List.cons_subset.mpr ⟨hop, List.nil_subset _⟩⟩)
  holds := hnext
  methods foreign arity := by
    rw [hseen.1, h.methods]
    refine exists_congr fun other => and_congr_left fun _ => ?_
    rw [List.mem_append, List.mem_singleton]
    exact ⟨.inl, fun hother => hother.elim id fun heq => heq ▸ hop⟩
  sorted := hseen.2 ▸ h.sorted

/-- So does a native operation of a new name. -/
theorem native (h : draft.Settled operations) (hname : ∀ other ∈ operations, other.name ≠ op.name)
    (hnative : op.forwarded ≠ true)
    (hseen : next.methods = draft.methods ∧ next.table = draft.table)
    (hnext : next.Holds (operations ++ [op])) : next.Settled (operations ++ [op]) where
  consistent := h.consistent.concat (fun other hother heq => absurd heq (hname other hother))
    (fun hforwarded => absurd hforwarded hnative) fun hforwarded => absurd hforwarded hnative
  holds := hnext
  methods foreign arity := by
    rw [hseen.1, h.methods]
    simp [or_and_right, exists_or, hnative]
  sorted := hseen.2 ▸ h.sorted

/-- And so does one with a route. -/
theorem route (h : draft.Settled operations) (hname : ∀ other ∈ operations, other.name ≠ op.name)
    (hforwarded : op.forwarded = true)
    (hidentifier : Text.isIdentifier op.foreignName = true)
    (harity : ∀ other arity, Entries.lookup op.foreignName draft.methods = some (other, arity) →
      arity = op.arity)
    (hseen : next.methods =
        Entries.insert op.foreignName (op.name, op.arity) draft.methods ∧
      next.table = Entries.insert op.name ⟨op.foreignName, op.arity⟩ draft.table)
    (hnext : next.Holds (operations ++ [op])) : next.Settled (operations ++ [op]) := by
  have hsame : ∀ other ∈ operations, other.forwarded = true →
      other.foreignName = op.foreignName → other.arity = op.arity := by
    intro other hother hforwarded' hforeign
    obtain ⟨last, hlast⟩ := (h.methods op.foreignName other.arity).mpr
      ⟨other, hother, hforwarded', hforeign, rfl⟩
    exact harity last other.arity hlast
  refine ⟨?_, hnext, fun foreign arity => ?_, hseen.2 ▸ Entries.sorted_insert h.sorted⟩
  · exact h.consistent.concat (fun other hother heq => absurd heq (hname other hother))
      (fun _ => hidentifier) fun _ => hsame
  · rw [hseen.1, Entries.lookup_insert]
    by_cases hforeign : op.foreignName = foreign
    · rw [if_pos hforeign]
      constructor
      · rintro ⟨other, hother⟩
        cases hother
        exact ⟨op, List.mem_append_right _ List.mem_cons_self, hforwarded, hforeign, rfl⟩
      · rintro ⟨other, hother, hforwarded', rfl, rfl⟩
        rcases List.mem_append.mp hother with hold | hnew
        · exact ⟨op.name, by rw [hsame other hold hforwarded' hforeign.symm]⟩
        · cases List.mem_singleton.mp hnew
          exact ⟨_, rfl⟩
    · rw [if_neg hforeign, h.methods]
      simp [or_and_right, exists_or, hforeign]

/-- A draft that takes up one more operation stays settled. -/
theorem add (h : draft.Settled operations) (hadd : draft.add op = .ok next) :
    next.Settled (operations ++ [op]) := by
  have hnext := h.holds.add hadd
  rw [add_eq_ok_iff] at hadd
  split at hadd
  · rename_i previous hseen
    obtain ⟨rfl, rfl⟩ := hadd
    rw [h.holds.seen] at hseen
    exact h.again (mem_of_firstNamed hseen).1 ⟨rfl, rfl⟩ hnext
  · rename_i hseen
    rw [h.holds.seen, firstNamed_eq_none_iff] at hseen
    simp only at hadd
    split at hadd
    · rename_i hforwarded
      obtain ⟨hidentifier, harity, rfl⟩ := route_eq_ok_iff.mp hadd
      exact h.route hseen hforwarded hidentifier harity ⟨rfl, rfl⟩ hnext
    · rename_i hnative
      subst hadd
      exact h.native hseen hnative ⟨rfl, rfl⟩ hnext

/-- A settled draft takes up every operation that is consistent with those it holds. -/
theorem exists_add (h : draft.Settled operations)
    (hconsistent : Operation.Consistent (operations ++ [op])) : ∃ next, draft.add op = .ok next := by
  have hop : op ∈ operations ++ [op] := List.mem_append_right _ List.mem_cons_self
  simp only [add_eq_ok_iff, h.holds.seen]
  cases hseen : firstNamed op.name operations with
  | some previous =>
      obtain ⟨hmem, hname⟩ := mem_of_firstNamed hseen
      exact ⟨_, hconsistent.unambiguous _ (List.mem_append_left _ hmem) _ hop hname, rfl⟩
  | none =>
      by_cases hforwarded : op.forwarded = true
      · simp only [hforwarded, if_true, route_eq_ok_iff]
        refine ⟨_, hconsistent.identifiers op hop hforwarded, fun last arity hlast => ?_, rfl⟩
        obtain ⟨other, hother, hforwarded', hforeign, rfl⟩ := (h.methods _ _).mp ⟨last, hlast⟩
        exact hconsistent.arities other (List.mem_append_left _ hother) op hop hforwarded'
          hforwarded hforeign
      · simp only [hforwarded]
        exact ⟨_, rfl⟩

/-- A draft that takes further operations is settled for all of them. -/
theorem addAll (h : draft.Settled operations) (hadd : more.foldlM Draft.add draft = .ok next) :
    next.Settled (operations ++ more) := by
  induction more generalizing draft operations with
  | nil =>
      cases hadd
      rwa [List.append_nil]
  | cons op more ih =>
      rw [List.foldlM_cons] at hadd
      obtain ⟨second, hsecond, hrest⟩ := exists_of_bind_eq_ok hadd
      have hnext := ih (h.add hsecond) hrest
      rwa [List.append_assoc] at hnext

/-- A settled draft takes further operations as long as all are consistent. -/
theorem exists_addAll (h : draft.Settled operations)
    (hconsistent : Operation.Consistent (operations ++ more)) :
    ∃ next, more.foldlM Draft.add draft = .ok next := by
  induction more generalizing draft operations with
  | nil => exact ⟨draft, rfl⟩
  | cons op more ih =>
      have happend : operations ++ op :: more = (operations ++ [op]) ++ more := by simp
      rw [happend] at hconsistent
      obtain ⟨second, hsecond⟩ := h.exists_add (hconsistent.mono (List.subset_append_left _ _))
      obtain ⟨next, hnext⟩ := ih (h.add hsecond) hconsistent
      exact ⟨next, by rw [List.foldlM_cons, hsecond]; exact hnext⟩

end Settled
end Draft

/-! ## Tables -/

variable {key key' : InterfaceKey} {i i' : Interface} {t t' : ProxyType}

/-- What is built is the table of the draft. -/
theorem exists_draft_of_build (h : build key i = .ok t) :
    ∃ draft, Draft.ofOperations i.operations = .ok draft ∧ t = ⟨key, i, draft.table⟩ := by
  unfold build at h
  split at h
  · rename_i draft hdraft
    cases h
    exact ⟨draft, hdraft, rfl⟩
  · cases h

/-- The draft of the operations is what the proxy type is built with. -/
theorem build_of_draft {draft : Draft} (h : Draft.ofOperations i.operations = .ok draft) :
    build key i = .ok ⟨key, i, draft.table⟩ := by
  rw [build, h]

/-- An interface has a table if its operations are consistent, and in no other case. -/
theorem exists_build_iff : (∃ t, build key i = .ok t) ↔ Operation.Consistent i.operations := by
  constructor
  · rintro ⟨t, h⟩
    obtain ⟨draft, hdraft, -⟩ := exists_draft_of_build h
    exact (Draft.Settled.empty.addAll hdraft).consistent
  · intro h
    obtain ⟨draft, hdraft⟩ := Draft.Settled.empty.exists_addAll h
    exact ⟨_, build_of_draft hdraft⟩

/-- The table of a proxy type is in order. -/
theorem sorted_of_build (h : build key i = .ok t) : Entries.Sorted t.table := by
  obtain ⟨draft, hdraft, rfl⟩ := exists_draft_of_build h
  exact (Draft.Settled.empty.addAll hdraft).sorted

/-- The table has a route for the operations that are forwarded. -/
theorem lookup_eq_some_iff (h : build key i = .ok t) {name : String} {route : Route} :
    t.lookup name = some route ↔
      ∃ op, i.operation name = some op ∧ op.forwarded = true ∧
        route = ⟨op.foreignName, op.arity⟩ := by
  rw [lookup_of_build h, Option.bind_eq_some_iff]
  refine exists_congr fun op => and_congr_right fun _ => ?_
  rw [Operation.route?]
  cases op.forwarded <;> simp [eq_comm]

/-- These are the forwarded operations, each by its name. -/
theorem mem_forwardedOperations_iff (h : build key i = .ok t) {name : String} :
    name ∈ t.forwardedOperations ↔ ∃ op, i.operation name = some op ∧ op.forwarded = true := by
  have hroute : name ∈ t.forwardedOperations ↔ ∃ route, t.lookup name = some route :=
    Entries.mem_keys_iff
  simp only [hroute, lookup_eq_some_iff h]
  constructor
  · rintro ⟨_, op, hop, hforwarded, -⟩
    exact ⟨op, hop, hforwarded⟩
  · rintro ⟨op, hop, hforwarded⟩
    exact ⟨_, op, hop, hforwarded, rfl⟩

/-- In an interface with a table the operation of a name is the only one. -/
theorem operation_eq_some_iff (h : build key i = .ok t) {name : String} {op : Operation} :
    i.operation name = some op ↔ op ∈ i.operations ∧ op.name = name := by
  constructor
  · exact mem_of_firstNamed
  · rintro ⟨hop, rfl⟩
    exact operation_of_build h hop

/-- Interfaces with the same operations, in any order and any number of times, have the same
table. -/
theorem table_of_build_congr (hsame : ∀ op, op ∈ i'.operations ↔ op ∈ i.operations)
    (h : build key i = .ok t) (h' : build key' i' = .ok t') : t'.table = t.table := by
  refine Entries.eq_of_lookup (sorted_of_build h') (sorted_of_build h) fun name => ?_
  have hoperation : i'.operation name = i.operation name := Option.ext fun op => by
    rw [operation_eq_some_iff h', operation_eq_some_iff h, hsame]
  have hlookup : t'.lookup name = t.lookup name := by
    rw [lookup_of_build h', lookup_of_build h, hoperation]
  exact hlookup

/-- An interface has a dispatch table exactly if its operations are consistent.  The table has the
route of each operation that is passed on and of no other one, in ascending order of the names.
Neither acceptance nor the table depends on the order of the operations or on repetitions. -/
theorem build_spec (key : InterfaceKey) (i : Interface) :
    ((∃ t, build key i = .ok t) ↔ Operation.Consistent i.operations) ∧
      (∀ t, build key i = .ok t →
        (∀ name route, t.lookup name = some route ↔
          ∃ op, i.operation name = some op ∧ op.forwarded = true ∧
            route = ⟨op.foreignName, op.arity⟩) ∧
        t.forwardedOperations.Pairwise (· < ·) ∧
        ∀ name, name ∈ t.forwardedOperations ↔
          ∃ op, i.operation name = some op ∧ op.forwarded = true) ∧
      ∀ key' i', (∀ op, op ∈ i'.operations ↔ op ∈ i.operations) →
        ((∃ t, build key' i' = .ok t) ↔ ∃ t, build key i = .ok t) ∧
        ∀ t t', build key i = .ok t → build key' i' = .ok t' → t'.table = t.table := by
  refine ⟨exists_build_iff, fun t h => ⟨fun name route => lookup_eq_some_iff h, ?_, fun name => ?_⟩,
    fun key' i' hsame => ⟨?_, fun t t' h h' => table_of_build_congr hsame h h'⟩⟩
  · exact sorted_of_build h
  · exact mem_forwardedOperations_iff h
  · rw [exists_build_iff, exists_build_iff]
    exact ⟨fun h => h.mono fun op hop => (hsame op).mpr hop,
      fun h => h.mono fun op hop => (hsame op).mp hop⟩

/-- Two operations may go to one method with one number of arguments, and one of them may be
declared twice; another number of arguments is refused. -/
example :
    let speed := (Operation.forward "speed" 0).renamed "getSpeed"
    let pace := (Operation.forward "pace" 0).renamed "getSpeed"
    Operation.Consistent [speed, pace, speed] ∧
      ¬Operation.Consistent [speed, { pace with arity := 1 }] := by
  decide

end ProxyType
end ObjectBridge
