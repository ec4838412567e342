import Mathlib.Data.List.Lex
import ObjectBridge.Proofs.Strictness

/-!
# Positions in a value

A part of a value is reached by the index of an item or by the key of an entry, and what is deeper
in the value by several such steps.  Positions are met in depth-first order: a value before its
parts, items in the order of their list, entries in the order of their keys.

Main results:

- Definition `Value.Contains`: what stands in a value, at any depth.
- Theorem `Value.mem_contents_iff`: the contents of a value are what stands in it.
- Theorem `Value.contents_ordered`: they are listed in depth-first order.
-/

namespace ObjectBridge

/-! ## Positions -/

/-- The way from a value to one of its parts. -/
inductive Branch where
  | item (index : Nat)
  | entry (key : String)
deriving DecidableEq, Repr

/-- Items come in the order of their list, entries in the order of their keys. -/
inductive Branch.Before : Branch → Branch → Prop where
  | item {i j : Nat} (h : i < j) : Before (item i) (item j)
  | entry {k l : String} (h : k < l) : Before (entry k) (entry l)

/-- The way from a value to any value in it. -/
abbrev Position := List Branch

/-- The order in which positions are met when each value is met before its parts. -/
def Position.Before : Position → Position → Prop :=
  List.Lex Branch.Before

instance : Std.Asymm Branch.Before where
  asymm a b h h' := by
    cases h with
    | item hlt =>
        cases h' with
        | item hgt => exact Nat.lt_asymm hlt hgt
    | entry hlt =>
        cases h' with
        | entry hgt => exact String.lt_asymm hlt hgt

instance : Std.Asymm Position.Before :=
  List.Lex.asymm Branch.Before

/-- The first of some data that stand at positions in order is the one that all others come
after. -/
theorem Position.head?_eq_some_iff {α : Type} {position : α → Position} {xs : List α} {x : α}
    (hxs : xs.Pairwise fun a b => (position a).Before (position b)) :
    xs.head? = some x ↔
      x ∈ xs ∧ ∀ y ∈ xs, position y = position x ∨ (position x).Before (position y) := by
  cases xs with
  | nil => simp
  | cons first rest =>
      obtain ⟨hfirst, -⟩ := List.pairwise_cons.mp hxs
      rw [List.head?_cons]
      constructor
      · rintro ⟨⟩
        refine ⟨List.mem_cons_self, fun y hy => ?_⟩
        rcases List.mem_cons.mp hy with rfl | hrest
        · exact .inl rfl
        · exact .inr (hfirst y hrest)
      · rintro ⟨hx, hall⟩
        rcases List.mem_cons.mp hx with rfl | hrest
        · rfl
        · have hbefore := hfirst x hrest
          rcases hall first List.mem_cons_self with heq | hafter
          · rw [heq] at hbefore
            exact absurd hbefore (Std.Asymm.asymm _ _ hbefore)
          · exact absurd hafter (Std.Asymm.asymm _ _ hbefore)

/-! ## Parts -/

/-- The part of a value at a branch. -/
def Value.part? : Value → Branch → Option Value
  | list items, .item i => items[i]?
  | map entries, .entry key => Entries.lookup key entries
  | _, _ => Option.none

/-- The parts of a value with their branches. -/
def Value.parts : Value → List (Branch × Value)
  | list items => items.zipIdx.map fun item => (.item item.2, item.1)
  | map entries => entries.map fun entry => (.entry entry.1, entry.2)
  | _ => []

/-- The parts of a value are found at their branches. -/
theorem Value.mem_parts_iff {v u : Value} {branch : Branch} (hv : v.Ordered) :
    (branch, u) ∈ v.parts ↔ v.part? branch = some u := by
  cases v with
  | list items =>
      cases branch <;> simp [parts, part?, List.mem_zipIdx_iff_getElem?]
  | map entries =>
      rcases hv with ⟨-, hnomap⟩ | - | ⟨hsorted, -⟩
      · exact absurd rfl hnomap
      cases branch <;> simp [parts, part?, Entries.lookup_eq_some_iff hsorted]
  | _ => simp [parts, part?]

/-- The parts of a value in order are in order. -/
theorem Value.parts_ordered {v : Value} (hv : v.Ordered) :
    v.parts.Pairwise fun a b => a.1.Before b.1 := by
  cases v with
  | list items =>
      have hindices : (items.zipIdx.map Prod.snd).Pairwise (· < ·) := by
        rw [List.zipIdx_map_snd]
        exact List.pairwise_lt_range'
      rw [parts, List.pairwise_map]
      exact (List.pairwise_map.mp hindices).imp .item
  | map entries =>
      rcases hv with ⟨-, hnomap⟩ | - | ⟨hsorted, -⟩
      · exact absurd rfl hnomap
      rw [parts, List.pairwise_map]
      exact (Entries.pairwise_of_sorted hsorted).imp .entry
  | _ => exact .nil

/-- The parts of a list are its items. -/
theorem Value.values_list (items : List Value) : (list items).parts.map Prod.snd = items := by
  rw [parts, List.map_map]
  exact List.zipIdx_map_fst 0 items

/-- The parts of a map are its values. -/
theorem Value.values_map (entries : List (String × Value)) :
    (map entries).parts.map Prod.snd = entries.map Prod.snd := by
  rw [parts, List.map_map]
  rfl

/-- What is collected from the parts does not depend on where they are. -/
theorem Value.flatMap_parts {α : Type} (f : Value → List α) (v : Value) :
    (v.parts.flatMap fun part => f part.2) = (v.parts.map Prod.snd).flatMap f :=
  (List.flatMap_map Prod.snd f v.parts).symm

/-- What holds of all parts does not depend on where they are. -/
theorem Value.all_parts (f : Value → Bool) (v : Value) :
    (v.parts.all fun part => f part.2) = (v.parts.map Prod.snd).all f :=
  List.all_map.symm

/-- The parts of a value in order are values in order. -/
theorem Value.Ordered.part {v u : Value} {branch : Branch} (hv : v.Ordered)
    (hu : (branch, u) ∈ v.parts) : u.Ordered := by
  cases hv with
  | scalar nolist nomap =>
      cases v with
      | list items => exact absurd rfl nolist
      | map entries => exact absurd rfl nomap
      | _ => cases hu
  | list each =>
      simp only [parts, List.mem_map] at hu
      obtain ⟨⟨w, i⟩, hw, heq⟩ := hu
      cases heq
      exact each w (List.mem_of_getElem? (List.mk_mem_zipIdx_iff_getElem?.mp hw))
  | map sorted each =>
      simp only [parts, List.mem_map] at hu
      obtain ⟨entry, hentry, heq⟩ := hu
      cases heq
      exact each entry hentry

/-- A part is smaller than the value it is in. -/
theorem Value.sizeOf_part {v : Value} {part : Branch × Value} (h : part ∈ v.parts) :
    sizeOf part.2 < sizeOf v := by
  cases v with
  | list items =>
      have hmem : part.2 ∈ items := by
        rw [← values_list items]
        exact List.mem_map_of_mem h
      have := List.sizeOf_lt_of_mem hmem
      simp only [list.sizeOf_spec]
      omega
  | map entries =>
      simp only [parts, List.mem_map] at h
      obtain ⟨entry, hmem, rfl⟩ := h
      have := List.sizeOf_lt_of_mem hmem
      have : sizeOf entry.2 < sizeOf entry := by
        cases entry
        simp +arith
      simp only [map.sizeOf_spec]
      omega
  | _ => cases h

/-- What holds of a value if it holds of its parts holds of all values. -/
theorem Value.parts_induction {P : Value → Prop} (h : ∀ v, (∀ part ∈ v.parts, P part.2) → P v)
    (v : Value) : P v :=
  h v fun part _ => parts_induction h part.2
termination_by sizeOf v
decreasing_by exact sizeOf_part ‹_›

/-- What holds of the parts of a value holds of the values in them. -/
theorem Value.forall_parts_iff {P : Value → Prop} {v : Value} :
    (∀ part ∈ v.parts, P part.2) ↔ ∀ u ∈ v.parts.map Prod.snd, P u :=
  List.forall_mem_map.symm

/-! ## Contents -/

/-- What stands in a value, and at which position. -/
inductive Value.Contains : Value → Position → Value → Prop where
  | here (v : Value) : Contains v [] v
  | within {v u w : Value} {branch : Branch} {position : Position}
      (part : (branch, u) ∈ v.parts) (inside : Contains u position w) :
      Contains v (branch :: position) w

/-- What stands in a value is the value itself and what stands in its parts. -/
theorem Value.forall_contains_iff {P : Value → Prop} {v : Value} :
    (∀ position u, v.Contains position u → P u) ↔
      P v ∧ ∀ part ∈ v.parts, ∀ position u, part.2.Contains position u → P u := by
  constructor
  · intro h
    exact ⟨h [] v (.here v), fun part hpart position u hu => h _ u (.within hpart hu)⟩
  · rintro ⟨hself, hparts⟩ position u hu
    cases hu with
    | here => exact hself
    | within part inside => exact hparts _ part _ u inside

/-- The contents of a value with their positions, in depth-first order. -/
def Value.contents (v : Value) : List (Position × Value) :=
  ([], v) :: v.parts.attach.flatMap fun part =>
    part.1.2.contents.map fun content => (part.1.1 :: content.1, content.2)
termination_by sizeOf v
decreasing_by exact sizeOf_part part.2

/-- The contents of a part, at their positions in the whole. -/
def Value.contentsOfPart (part : Branch × Value) : List (Position × Value) :=
  part.2.contents.map fun content => (part.1 :: content.1, content.2)

/-- The value itself comes first, then the contents of its parts, part by part. -/
theorem Value.contents_eq (v : Value) :
    v.contents = ([], v) :: v.parts.flatMap contentsOfPart := by
  have hattach : (v.parts.attach.flatMap fun part => contentsOfPart part.1) =
      v.parts.flatMap contentsOfPart := by
    rw [List.flatMap_subtype fun _ _ => rfl, List.unattach_attach]
  rw [contents, ← hattach]
  rfl

/-- The contents of a value are what stands in it. -/
theorem Value.mem_contents_iff {v u : Value} {position : Position} :
    (position, u) ∈ v.contents ↔ v.Contains position u := by
  induction v using parts_induction generalizing position with
  | h v ih =>
      rw [contents_eq, List.mem_cons, List.mem_flatMap]
      constructor
      · rintro (heq | ⟨part, hpart, hmem⟩)
        · cases heq
          exact .here _
        · obtain ⟨content, hcontent, heq⟩ := List.mem_map.mp hmem
          cases heq
          exact .within hpart ((ih part hpart).mp hcontent)
      · intro h
        cases h with
        | here => exact .inl rfl
        | within part inside =>
            exact .inr ⟨_, part, List.mem_map.mpr ⟨_, (ih _ part).mpr inside, rfl⟩⟩

/-- The contents of a value are listed in depth-first order. -/
theorem Value.contents_ordered {v : Value} (hv : v.Ordered) :
    v.contents.Pairwise fun a b => a.1.Before b.1 := by
  induction v using parts_induction with
  | h v ih =>
      rw [contents_eq, List.pairwise_cons, List.pairwise_flatMap]
      refine ⟨fun content hcontent => ?_, fun part hpart => ?_, ?_⟩
      · obtain ⟨part, -, hmem⟩ := List.mem_flatMap.mp hcontent
        obtain ⟨inner, -, rfl⟩ := List.mem_map.mp hmem
        exact .nil
      · rw [contentsOfPart, List.pairwise_map]
        exact (ih part hpart (hv.part hpart)).imp .cons
      · refine (parts_ordered hv).imp fun hbefore a ha b hb => ?_
        obtain ⟨inner, -, rfl⟩ := List.mem_map.mp ha
        obtain ⟨inner', -, rfl⟩ := List.mem_map.mp hb
        exact .rel hbefore

end ObjectBridge
