import ObjectBridge.Proofs.Positions

/-!
# Equality of values

Values are compared as data, but floats as numbers and objects by handle.  A float that is not a
number differs from itself, and so does every value it stands in; but for this, equality of values
is an equivalence.

Main results:

- Theorems `Value.numEq_symm` and `Value.numEq_trans`: equality is symmetric and transitive.
- Theorem `Value.numEq_self_iff`: the values that are equal to themselves.
- Theorem `Value.numEq_map_iff`: maps are equal if they have equal values under the same keys.
- Theorem `Value.numEq_partial_equivalence`: all of these laws.
-/

namespace ObjectBridge

/-! ## Lists item by item -/

section Items

variable {α : Type} {R : α → α → Prop} {xs ys zs : List α}

/-- A relation that is symmetric on the items of a list is so on the list. -/
theorem forall₂_symm_of_mem (hR : ∀ x ∈ xs, ∀ y, R x y → R y x) (h : List.Forall₂ R xs ys) :
    List.Forall₂ R ys xs := by
  induction h with
  | nil => exact .nil
  | cons hxy _ ih =>
      obtain ⟨hfirst, hrest⟩ := List.forall_mem_cons.mp hR
      exact .cons (hfirst _ hxy) (ih hrest)

/-- A relation that is transitive on the items of a list is so on the list. -/
theorem forall₂_trans_of_mem (hR : ∀ x ∈ xs, ∀ y z, R x y → R y z → R x z)
    (h : List.Forall₂ R xs ys) (h' : List.Forall₂ R ys zs) : List.Forall₂ R xs zs := by
  induction h generalizing zs with
  | nil => exact h'
  | cons hxy _ ih =>
      obtain ⟨hfirst, hrest⟩ := List.forall_mem_cons.mp hR
      cases h' with
      | cons hyz htail => exact .cons (hfirst _ _ hxy hyz) (ih hrest htail)

end Items

/-! ## Finite maps key by key -/

namespace Entries

variable {α : Type} {V : α → α → Prop} {map map' : Entries α}

/-- Alike maps have the same keys. -/
theorem keys_of_alike (h : Alike V map map') : keys map = keys map' := by
  induction h with
  | nil => rfl
  | cons hentry _ ih => exact congrArg₂ List.cons hentry.1 ih

/-- Alike maps have related values under each key. -/
theorem rel_of_alike (h : Alike V map map') {key : String} {x y : α}
    (hx : lookup key map = some x) (hy : lookup key map' = some y) : V x y := by
  induction h with
  | nil => cases hx
  | @cons entry entry' rest rest' hentry _ ih =>
      rw [lookup] at hx hy
      by_cases hkey : entry.1 = key
      · rw [if_pos hkey] at hx
        rw [if_pos (hentry.1 ▸ hkey)] at hy
        cases hx
        cases hy
        exact hentry.2
      · rw [if_neg hkey] at hx
        rw [if_neg (hentry.1 ▸ hkey)] at hy
        exact ih hx hy

/-- Maps in order that have the same keys have them in the same places. -/
theorem keys_eq_iff (h : Sorted map) (h' : Sorted map') :
    keys map = keys map' ↔ ∀ key, key ∈ keys map ↔ key ∈ keys map' := by
  constructor
  · intro heq key
    rw [heq]
  · intro hmem
    have hperm : List.Perm (keys map) (keys map') :=
      (List.perm_ext_iff_of_nodup (nodup_keys_of_sorted h) (nodup_keys_of_sorted h')).mpr hmem
    exact hperm.eq_of_pairwise (fun _ _ _ _ hab hba => absurd hba (String.lt_asymm hab)) h h'

/-- Maps in order are related entry by entry if their values are, key by key. -/
theorem alike_of_lookup (h : Sorted map) (h' : Sorted map') (hkeys : keys map = keys map')
    (hV : ∀ key x y, lookup key map = some x → lookup key map' = some y → V x y) :
    Alike V map map' := by
  induction map generalizing map' with
  | nil =>
      cases map' with
      | nil => exact .nil
      | cons entry rest => cases hkeys
  | cons entry rest ih =>
      cases map' with
      | nil => cases hkeys
      | cons entry' rest' =>
          obtain ⟨hkey, hrestKeys⟩ := List.cons.inj hkeys
          obtain ⟨hfirst, hrest⟩ := List.pairwise_cons.mp h
          obtain ⟨hfirst', hrest'⟩ := List.pairwise_cons.mp h'
          refine .cons ⟨hkey, ?_⟩ (ih hrest hrest' hrestKeys fun key x y hx hy => ?_)
          · exact hV entry.1 _ _ (if_pos rfl) (if_pos hkey.symm)
          · -- The first key comes before all others, so it is none of theirs.
            have hne : entry.1 ≠ key := String.ne_of_lt (hfirst key (mem_keys_iff.mpr ⟨x, hx⟩))
            refine hV key x y ?_ ?_
            · rwa [lookup, if_neg hne]
            · rwa [lookup, if_neg (hkey ▸ hne)]

/-- Maps in order are alike when they have the same keys with related values. -/
theorem alike_iff (h : Sorted map) (h' : Sorted map') :
    Alike V map map' ↔ (∀ key, key ∈ keys map ↔ key ∈ keys map') ∧
      ∀ key x y, lookup key map = some x → lookup key map' = some y → V x y := by
  rw [← keys_eq_iff h h']
  constructor
  · intro halike
    exact ⟨keys_of_alike halike, fun key x y => rel_of_alike halike⟩
  · rintro ⟨hkeys, hV⟩
    exact alike_of_lookup h h' hkeys hV

end Entries

/-! ## What is equal to a value -/

namespace Value

variable {u v w : Value}

/-- Lists are equal when their items are, one by one. -/
theorem numEqItems_iff {xs ys : List Value} :
    numEqItems xs ys = true ↔ List.Forall₂ (fun x y => numEq x y = true) xs ys := by
  induction xs generalizing ys with
  | nil => cases ys <;> simp [numEqItems]
  | cons x xs ih => cases ys <;> simp [numEqItems, ih]

/-- Maps are equal when they have the same keys with equal values. -/
theorem numEqEntries_iff {xs ys : List (String × Value)} :
    numEqEntries xs ys = true ↔ Entries.Alike (fun x y => numEq x y = true) xs ys := by
  induction xs generalizing ys with
  | nil => cases ys <;> simp [numEqEntries]
  | cons x xs ih => cases ys <;> simp [numEqEntries, ih]

/-- Values of different kinds are not equal. -/
theorem numEq_of_kind_ne (h : u.kind ≠ v.kind) : u.numEq v = false := by
  cases u <;> cases v <;> first | rfl | exact absurd rfl h

/-- A number is equal to numbers only. -/
theorem numEq_float_iff (x : Double) :
    (float x).numEq v = true ↔ ∃ y, v = .float y ∧ x.numEq y = true := by
  cases v with
  | float y =>
      simp only [float.injEq, exists_eq_left']
      rfl
  | _ => exact iff_of_false nofun nofun

/-- An object is equal to objects with its handle only. -/
theorem numEq_object_iff (o : ForeignObject) :
    (object o).numEq v = true ↔ ∃ o', v = .object o' ∧ o.handle = o'.handle := by
  cases v with
  | object o' =>
      simp only [object.injEq, exists_eq_left']
      exact beq_iff_eq
  | _ => exact iff_of_false nofun nofun

/-- A list is equal to lists with equal items only. -/
theorem numEq_list_iff (items : List Value) :
    (list items).numEq v = true ↔
      ∃ items', v = .list items' ∧ List.Forall₂ (fun x y => numEq x y = true) items items' := by
  cases v with
  | list items' =>
      simp only [list.injEq, exists_eq_left']
      exact numEqItems_iff
  | _ => exact iff_of_false nofun nofun

/-- A map is equal to maps with the same keys and equal values only. -/
theorem numEq_entries_iff (entries : List (String × Value)) :
    (map entries).numEq v = true ↔ ∃ entries', v = .map entries' ∧
      Entries.Alike (fun x y => numEq x y = true) entries entries' := by
  cases v with
  | map entries' =>
      simp only [map.injEq, exists_eq_left']
      exact numEqEntries_iff
  | _ => exact iff_of_false nofun nofun

/-- Plain data but for floats is equal to itself only. -/
theorem numEq_plain_iff (hplain : u.isPlain = true) (hfloat : u.kind ≠ .float) :
    u.numEq v = true ↔ u = v := by
  cases u with
  | list | map | object => cases hplain
  | float => exact absurd rfl hfloat
  | none | bool | int | str => cases v <;> simp [numEq]

/-! ## Laws -/

/-- Equality goes both ways. -/
theorem numEq_symm (h : u.numEq v = true) : v.numEq u = true := by
  induction u using induction_on generalizing v with
  | plain u hplain =>
      by_cases hfloat : u.kind = .float
      · cases u with
        | float x =>
            obtain ⟨y, rfl, hxy⟩ := (numEq_float_iff _).mp h
            exact (numEq_float_iff _).mpr ⟨x, rfl, Double.numEq_comm x y ▸ hxy⟩
        | _ => cases hfloat
      · obtain rfl := (numEq_plain_iff hplain hfloat).mp h
        exact h
  | list items ih =>
      obtain ⟨items', rfl, hitems⟩ := (numEq_list_iff _).mp h
      exact (numEq_list_iff _).mpr ⟨items, rfl, forall₂_symm_of_mem (fun x hx y => ih x hx) hitems⟩
  | map entries ih =>
      obtain ⟨entries', rfl, hentries⟩ := (numEq_entries_iff _).mp h
      refine (numEq_entries_iff _).mpr ⟨entries, rfl, forall₂_symm_of_mem ?_ hentries⟩
      exact fun entry hentry entry' hsame => ⟨hsame.1.symm, ih entry hentry hsame.2⟩
  | object o =>
      obtain ⟨o', rfl, ho⟩ := (numEq_object_iff _).mp h
      exact (numEq_object_iff _).mpr ⟨o, rfl, ho.symm⟩

/-- Equality carries over. -/
theorem numEq_trans (huv : u.numEq v = true) (hvw : v.numEq w = true) : u.numEq w = true := by
  induction u using induction_on generalizing v w with
  | plain u hplain =>
      by_cases hfloat : u.kind = .float
      · cases u with
        | float x =>
            obtain ⟨y, rfl, hxy⟩ := (numEq_float_iff _).mp huv
            obtain ⟨z, rfl, hyz⟩ := (numEq_float_iff _).mp hvw
            exact (numEq_float_iff _).mpr ⟨z, rfl, Double.numEq_trans hxy hyz⟩
        | _ => cases hfloat
      · obtain rfl := (numEq_plain_iff hplain hfloat).mp huv
        exact hvw
  | list items ih =>
      obtain ⟨items', rfl, hitems⟩ := (numEq_list_iff _).mp huv
      obtain ⟨items'', rfl, hitems'⟩ := (numEq_list_iff _).mp hvw
      refine (numEq_list_iff _).mpr ⟨items'', rfl, forall₂_trans_of_mem ?_ hitems hitems'⟩
      exact fun x hx y z => ih x hx
  | map entries ih =>
      obtain ⟨entries', rfl, hentries⟩ := (numEq_entries_iff _).mp huv
      obtain ⟨entries'', rfl, hentries'⟩ := (numEq_entries_iff _).mp hvw
      refine (numEq_entries_iff _).mpr ⟨entries'', rfl, forall₂_trans_of_mem ?_ hentries hentries'⟩
      exact fun entry hentry entry' entry'' hfirst hsecond =>
        ⟨hfirst.1.trans hsecond.1, ih entry hentry hfirst.2 hsecond.2⟩
  | object o =>
      obtain ⟨o', rfl, ho⟩ := (numEq_object_iff _).mp huv
      obtain ⟨o'', rfl, ho'⟩ := (numEq_object_iff _).mp hvw
      exact (numEq_object_iff _).mpr ⟨o'', rfl, ho.trans ho'⟩

/-- Whether a value is a float that stands for no number. -/
def isNaN : Value → Bool
  | float x => x.isNaN
  | _ => false

/-- A value is equal to itself if its parts are, unless it is a float that stands for no number. -/
theorem numEq_self_iff_parts : v.numEq v = true ↔
    v.isNaN = false ∧ ∀ part ∈ v.parts, part.2.numEq part.2 = true := by
  rw [forall_parts_iff (P := fun u => u.numEq u = true)]
  cases v with
  | float x =>
      rw [numEq_float_iff]
      simp [isNaN, parts, Double.numEq_self_iff]
  | list items =>
      rw [numEq_list_iff, values_list]
      simp [isNaN, List.forall₂_same]
  | map entries =>
      rw [numEq_entries_iff, values_map, List.forall_mem_map]
      simp [isNaN, List.forall₂_same]
  | object o =>
      rw [numEq_object_iff]
      simp [isNaN, parts]
  | none | bool | int | str =>
      rw [numEq_plain_iff rfl (by simp [kind])]
      simp [isNaN, parts]

/-- A value is equal to itself unless a float stands in it, at any depth, that is not a number. -/
theorem numEq_self_iff :
    v.numEq v = true ↔ ∀ position u, v.Contains position u → u.isNaN = false := by
  induction v using parts_induction with
  | h v ih =>
      rw [numEq_self_iff_parts, forall_contains_iff]
      exact and_congr_right fun _ => forall₂_congr fun part hpart => ih part hpart

/-- Maps are equal if they have the same keys with equal values. -/
theorem numEq_map_iff {entries entries' : List (String × Value)}
    (h : Entries.Sorted entries) (h' : Entries.Sorted entries') :
    (map entries).numEq (map entries') = true ↔
      (∀ key, key ∈ Entries.keys entries ↔ key ∈ Entries.keys entries') ∧
        ∀ key x y, Entries.lookup key entries = some x → Entries.lookup key entries' = some y →
          x.numEq y = true :=
  Iff.trans numEqEntries_iff (Entries.alike_iff h h')

/-- Equality of values is a partial equivalence.  The values that are not equal to themselves are
those in which some float is not a number.  Values of different kinds are never equal, objects are
equal if they have the same handle, and maps if they have the same keys with equal values. -/
theorem numEq_partial_equivalence :
    (∀ u v : Value, u.numEq v = true → v.numEq u = true) ∧
      (∀ u v w : Value, u.numEq v = true → v.numEq w = true → u.numEq w = true) ∧
      (∀ v : Value, v.numEq v = true ↔
        ∀ position x, v.Contains position (.float x) → x.isNaN = false) ∧
      (∀ u v : Value, u.kind ≠ v.kind → u.numEq v = false) ∧
      (∀ o o' : ForeignObject, (object o).numEq (object o') = true ↔ o.handle = o'.handle) ∧
      ∀ entries entries', Entries.Sorted entries → Entries.Sorted entries' →
        ((map entries).numEq (map entries') = true ↔
          (∀ key, key ∈ Entries.keys entries ↔ key ∈ Entries.keys entries') ∧
            ∀ key x y, Entries.lookup key entries = some x →
              Entries.lookup key entries' = some y → x.numEq y = true) := by
  refine ⟨fun u v => numEq_symm, fun u v w => numEq_trans, fun v => ?_,
    fun u v => numEq_of_kind_ne, fun o o' => ?_, fun entries entries' => numEq_map_iff⟩
  · rw [numEq_self_iff]
    constructor
    · exact fun h position x => h position (.float x)
    · intro h position u hu
      cases u with
      | float x => exact h position x hu
      | _ => rfl
  · exact beq_iff_eq

/-- Zeros of both signs are equal, wherever they stand. -/
example :
    let zero (sign : UInt64) := list [map [("x", .float ⟨sign⟩)]]
    (zero 0).numEq (zero 0x8000000000000000) = true := by
  decide

end Value
end ObjectBridge
