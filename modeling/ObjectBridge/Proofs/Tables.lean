import ObjectBridge.Bridge.Proxy

/-!
# What a dispatch table holds

A dispatch table is drawn up operation by operation.  At every moment the draft
knows the first operation of each name that was met, and has a route for each of
these that is passed on.  A finished table is thus known from its interface.

Main results:

- Theorem `ProxyType.Draft.Holds.add`: what one more operation does to a draft.
- Theorem `ProxyType.operation_of_build`: a finished table tells all operations apart by name.
- Theorem `ProxyType.lookup_of_build`: the routes of a finished table.
- Theorem `Proxy.route_isOk_iff`: which calls of operations are passed on.
-/

namespace ObjectBridge

/-- The first operation of a name in a list. -/
def firstNamed (name : String) (operations : List Operation) : Option Operation :=
  operations.find? fun op => op.name == name

/-- The last operation is the first of its name when there is none before. -/
theorem firstNamed_concat (name : String) (operations : List Operation) (op : Operation) :
    firstNamed name (operations ++ [op]) =
      (firstNamed name operations).or (if op.name = name then some op else none) := by
  rw [firstNamed, List.find?_append]
  by_cases h : op.name = name <;> simp [firstNamed, h]

/-- The route of an operation, if it is passed on. -/
def Operation.route? (op : Operation) : Option Route :=
  if op.forwarded then some ⟨op.foreignName, op.arity⟩ else none

namespace ProxyType

/-! ## Drafts -/

/-- A draft after some operations: the first one of each name was met, and has its route. -/
structure Draft.Holds (draft : Draft) (operations : List Operation) : Prop where
  seen : ∀ name, Entries.lookup name draft.seen = firstNamed name operations
  table : ∀ name, Entries.lookup name draft.table =
    (firstNamed name operations).bind Operation.route?

namespace Draft

variable {draft next : Draft} {op : Operation} {operations more : List Operation}

/-- A new route goes to the table, beside whatever was met. -/
theorem route_eq_ok (h : draft.route op = .ok next) :
    next.seen = draft.seen ∧
      next.table = Entries.insert op.name ⟨op.foreignName, op.arity⟩ draft.table := by
  simp only [Draft.route] at h
  split at h
  · cases h
  · split at h
    · split at h
      · cases h
        exact ⟨rfl, rfl⟩
      · cases h
    · cases h
      exact ⟨rfl, rfl⟩

/-- An operation met again changes nothing that is looked up. -/
theorem add_known {previous : Operation} (hseen : Entries.lookup op.name draft.seen = some previous)
    (h : draft.add op = .ok next) :
    next.table = draft.table ∧ ∀ name, Entries.lookup name next.seen =
      Entries.lookup name draft.seen := by
  rw [add, hseen] at h
  simp only at h
  split at h
  · rename_i hsame
    cases h
    refine ⟨rfl, fun name => ?_⟩
    rw [Entries.lookup_insert]
    split
    · rename_i hname
      rw [← hname, hseen, hsame]
    · rfl
  · cases h

/-- An operation met for the first time is met from now on, and has a route if it is passed on. -/
theorem add_unknown (hseen : Entries.lookup op.name draft.seen = none)
    (h : draft.add op = .ok next) :
    next.seen = Entries.insert op.name op draft.seen ∧
      next.table = match op.route? with
        | some route => Entries.insert op.name route draft.table
        | none => draft.table := by
  rw [add, hseen] at h
  simp only at h
  rw [Operation.route?]
  split at h
  · rename_i hforwarded
    rw [if_pos hforwarded]
    exact route_eq_ok h
  · rename_i hnative
    rw [if_neg hnative]
    cases h
    exact ⟨rfl, rfl⟩

/-- The empty draft holds no operations. -/
theorem Holds.empty : Draft.empty.Holds [] :=
  ⟨fun _ => rfl, fun _ => rfl⟩

/-- A draft that takes one more operation holds it. -/
theorem Holds.add (hdraft : draft.Holds operations) (h : draft.add op = .ok next) :
    next.Holds (operations ++ [op]) := by
  cases hseen : Entries.lookup op.name draft.seen with
  | some previous =>
      obtain ⟨htable, hsame⟩ := add_known hseen h
      -- The name was met before, so the first operation of each name stays what it is.
      have hfirst (name : String) :
          firstNamed name (operations ++ [op]) = firstNamed name operations := by
        rw [firstNamed_concat]
        by_cases hname : op.name = name
        · rw [← hname, ← hdraft.seen, hseen]
          rfl
        · rw [if_neg hname, Option.or_none]
      constructor
      · intro name
        rw [hsame, hfirst, hdraft.seen]
      · intro name
        rw [htable, hfirst, hdraft.table]
  | none =>
      obtain ⟨hnext, htable⟩ := add_unknown hseen h
      have hnone : firstNamed op.name operations = none := by rw [← hdraft.seen, hseen]
      constructor
      · intro name
        rw [hnext, Entries.lookup_insert, firstNamed_concat]
        by_cases hname : op.name = name
        · rw [if_pos hname, if_pos hname, ← hname, hnone]
          rfl
        · rw [if_neg hname, if_neg hname, Option.or_none, hdraft.seen]
      · intro name
        have hold := hdraft.table name
        rw [htable, firstNamed_concat]
        by_cases hname : op.name = name
        · subst hname
          rw [hnone] at hold ⊢
          rw [if_pos rfl, Option.none_or, Option.bind_some]
          cases op.route? with
          | some route => exact (Entries.lookup_insert ..).trans (if_pos rfl)
          | none => exact hold
        · rw [if_neg hname, Option.or_none]
          cases op.route? with
          | some route => exact (Entries.lookup_insert ..).trans ((if_neg hname).trans hold)
          | none => exact hold

/-- A draft of more operations holds them all. -/
theorem Holds.addAll (hdraft : draft.Holds operations)
    (h : more.foldlM Draft.add draft = .ok next) : next.Holds (operations ++ more) := by
  induction more generalizing draft operations with
  | nil =>
      cases h
      rwa [List.append_nil]
  | cons op more ih =>
      rw [List.foldlM_cons] at h
      cases hadd : draft.add op with
      | error cause =>
          rw [hadd] at h
          cases h
      | ok second =>
          rw [hadd] at h
          have hrest := ih (hdraft.add hadd) h
          rwa [List.append_assoc] at hrest

/-- An operation is met again only in the same words. -/
theorem firstNamed_of_add (hdraft : draft.Holds operations) (h : draft.add op = .ok next) :
    firstNamed op.name (operations ++ [op]) = some op := by
  rw [firstNamed_concat, if_pos rfl]
  cases hseen : Entries.lookup op.name draft.seen with
  | some previous =>
      rw [add, hseen] at h
      simp only at h
      split at h
      · rename_i hsame
        rw [← hdraft.seen, hseen, hsame]
        rfl
      · cases h
  | none =>
      rw [← hdraft.seen, hseen]
      rfl

/-- In a list of operations that a draft takes up each one is the first of its name. -/
theorem firstNamed_of_addAll (hdraft : draft.Holds operations)
    (hfirst : ∀ op ∈ operations, firstNamed op.name operations = some op)
    (h : more.foldlM Draft.add draft = .ok next) :
    ∀ op ∈ operations ++ more, firstNamed op.name (operations ++ more) = some op := by
  induction more generalizing draft operations with
  | nil => rwa [List.append_nil]
  | cons op more ih =>
      rw [List.foldlM_cons] at h
      cases hadd : draft.add op with
      | error cause =>
          rw [hadd] at h
          cases h
      | ok second =>
          rw [hadd] at h
          have hsecond : ∀ other ∈ operations ++ [op],
              firstNamed other.name (operations ++ [op]) = some other := by
            intro other hother
            rcases List.mem_append.1 hother with hold | hnew
            · rw [firstNamed_concat, hfirst other hold]
              rfl
            · rw [List.mem_singleton.1 hnew]
              exact firstNamed_of_add hdraft hadd
          have hrest := ih (hdraft.add hadd) hsecond h
          rwa [List.append_assoc] at hrest

end Draft

/-! ## Tables -/

/-- An interface with a table has no two different operations of one name. -/
theorem operation_of_build {key : InterfaceKey} {i : Interface} {t : ProxyType}
    (h : build key i = .ok t) {op : Operation} (hop : op ∈ i.operations) :
    i.operation op.name = some op := by
  unfold build at h
  cases hdraft : Draft.ofOperations i.operations with
  | error cause =>
      rw [hdraft] at h
      cases h
  | ok draft => exact Draft.firstNamed_of_addAll .empty (fun _ h => nomatch h) hdraft op hop

/-- A finished table has the routes of the operations of its interface that are passed on. -/
theorem lookup_of_build {key : InterfaceKey} {i : Interface} {t : ProxyType}
    (h : build key i = .ok t) (name : String) :
    t.lookup name = (i.operation name).bind Operation.route? := by
  unfold build at h
  cases hdraft : Draft.ofOperations i.operations with
  | error cause =>
      rw [hdraft] at h
      cases h
  | ok draft =>
      rw [hdraft] at h
      cases h
      exact (Draft.Holds.empty.addAll hdraft).table name

end ProxyType

/-- Whether an interface passes on an operation with some number of arguments. -/
def Interface.passesOn (i : Interface) (operation : String) (supplied : Nat) : Bool :=
  (i.operation operation).any fun op => op.forwarded && op.arity == supplied

/-- The calls of operations that have a route are those that the interface passes on. -/
theorem Proxy.route_isOk_iff {p : Proxy}
    (h : ProxyType.build p.type.key p.type.interface = .ok p.type)
    (operation : String) (supplied : Nat) :
    (p.route operation supplied).isOk = p.type.interface.passesOn operation supplied := by
  rw [Proxy.route, ProxyType.lookup_of_build h, Interface.passesOn]
  cases p.type.interface.operation operation with
  | none => rfl
  | some op =>
      rw [Option.bind_some, Operation.route?, Option.any_some]
      cases op.forwarded with
      | false => rfl
      | true =>
          by_cases hsupplied : supplied = op.arity
          · simp [hsupplied, Except.isOk, Except.toBool]
          · simp [hsupplied, Ne.symm hsupplied, Except.isOk, Except.toBool]

end ObjectBridge
