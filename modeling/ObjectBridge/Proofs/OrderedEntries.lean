import Mathlib.Data.List.Nodup
import ObjectBridge.Entries

/-!
# Finite maps in order

Entries in ascending order of their keys are a normal form: a finite map has one such list,
whatever order its entries are met in.

Main results:

- Theorem `Entries.eq_of_perm`: entries that differ in their order only are the same once they
  are in order.
- Theorem `Entries.eq_of_lookup`: so are entries with the same values at all keys.
- Theorem `Entries.ofList_of_perm`: the entries of a map, met in any order, make up the map again.
-/

namespace ObjectBridge
namespace Entries

variable {α : Type} {key : String} {x : α} {map map' : Entries α}

instance decidableSorted (map : Entries α) : Decidable (Sorted map) :=
  inferInstanceAs (Decidable (List.Pairwise _ _))

/-! ## Entries and lookups -/

/-- Entries in order have smaller keys before greater ones. -/
theorem pairwise_of_sorted (h : Sorted map) :
    List.Pairwise (fun a b : String × α => a.1 < b.1) map :=
  List.pairwise_map.mp h

/-- No key stands twice in them. -/
theorem nodup_keys_of_sorted (h : Sorted map) : (keys map).Nodup :=
  List.Pairwise.imp String.ne_of_lt h

/-- No entry does. -/
theorem nodup_of_sorted (h : Sorted map) : List.Nodup map :=
  .of_map Prod.fst (nodup_keys_of_sorted h)

/-- The key of an entry is among the keys. -/
theorem mem_keys_of_mem {entry : String × α} (h : entry ∈ map) : entry.1 ∈ keys map :=
  List.mem_map_of_mem h

/-- What is found at a key is an entry, and where each key stands once every entry is found. -/
theorem lookup_eq_some_iff_of_nodup (h : (keys map).Nodup) :
    lookup key map = some x ↔ (key, x) ∈ map := by
  induction map with
  | nil => simp [lookup]
  | cons entry rest ih =>
      obtain ⟨k, y⟩ := entry
      obtain ⟨hfirst, hrest⟩ := List.nodup_cons.mp h
      rw [lookup, List.mem_cons]
      split
      · rename_i hk
        subst hk
        have hnot : (k, x) ∉ rest := fun hmem => absurd (mem_keys_of_mem hmem) hfirst
        simp [hnot, eq_comm]
      · rename_i hk
        rw [ih hrest]
        simp [Ne.symm hk]

/-- An entry is found when it is there. -/
theorem lookup_eq_some_iff (h : Sorted map) : lookup key map = some x ↔ (key, x) ∈ map :=
  lookup_eq_some_iff_of_nodup (nodup_keys_of_sorted h)

/-- Where each key stands once, the order of the entries does not matter to a lookup. -/
theorem lookup_eq_of_perm (h : (keys map).Nodup) (hperm : List.Perm map map') :
    lookup key map = lookup key map' := by
  have h' : (keys map').Nodup := ((hperm.map Prod.fst).nodup_iff).mp h
  refine Option.ext fun x => ?_
  rw [lookup_eq_some_iff_of_nodup h, lookup_eq_some_iff_of_nodup h', hperm.mem_iff]

/-- A key has a value. -/
theorem mem_keys_iff : key ∈ keys map ↔ ∃ x, lookup key map = some x := by
  induction map with
  | nil => simp [keys, lookup]
  | cons entry rest ih =>
      obtain ⟨k, y⟩ := entry
      rw [lookup, keys, List.map_cons, List.mem_cons, ← keys, ih]
      split
      · rename_i hk
        simp [hk]
      · rename_i hk
        simp [Ne.symm hk]

/-! ## One list for each map -/

/-- Entries that differ in their order only are the same once they are in order. -/
theorem eq_of_perm (h : Sorted map) (h' : Sorted map') (hperm : List.Perm map map') :
    map = map' :=
  hperm.eq_of_pairwise (fun _ _ _ _ hab hba => absurd hba (String.lt_asymm hab))
    (pairwise_of_sorted h) (pairwise_of_sorted h')

/-- Maps in order with the same values at all keys are the same. -/
theorem eq_of_lookup (h : Sorted map) (h' : Sorted map')
    (hlookup : ∀ key, lookup key map = lookup key map') : map = map' := by
  refine eq_of_perm h h' ?_
  rw [List.perm_ext_iff_of_nodup (nodup_of_sorted h) (nodup_of_sorted h')]
  rintro ⟨key, x⟩
  rw [← lookup_eq_some_iff h, ← lookup_eq_some_iff h', hlookup key]

/-! ## Maps made from their entries -/

/-- A new key adds an entry and leaves all others. -/
theorem insert_perm (hkey : key ∉ keys map) :
    List.Perm (insert key x map) ((key, x) :: map) := by
  induction map with
  | nil => exact .refl _
  | cons entry rest ih =>
      obtain ⟨k, y⟩ := entry
      have hne : key ≠ k := fun heq => hkey (heq ▸ List.mem_cons_self)
      have hnot : key ∉ keys rest := fun hmem => hkey (List.mem_cons_of_mem _ hmem)
      rw [insert]
      split
      · exact .refl _
      · exact ((ih hnot).cons _).trans (.swap ..)

/-- Entries with new keys are inserted next to those that are there. -/
theorem foldl_insert_perm {entries : List (String × α)}
    (hkeys : (keys (map ++ entries)).Nodup) :
    List.Perm (entries.foldl (fun map entry => insert entry.1 entry.2 map) map)
      (map ++ entries) := by
  induction entries generalizing map with
  | nil => rw [List.append_nil]; exact .refl _
  | cons entry rest ih =>
      have hmiddle : List.Perm (map ++ entry :: rest) (entry :: (map ++ rest)) :=
        List.perm_middle
      have hkeys' : (keys (entry :: (map ++ rest))).Nodup :=
        ((hmiddle.map Prod.fst).nodup_iff).mp hkeys
      have hnot : entry.1 ∉ keys map := fun hmem => by
        refine (List.nodup_cons.mp hkeys').1 ?_
        rw [List.map_append]
        exact List.mem_append_left _ hmem
      have hinsert : List.Perm (insert entry.1 entry.2 map ++ rest) (entry :: (map ++ rest)) :=
        (insert_perm hnot).append_right rest
      rw [List.foldl_cons]
      refine (ih (((hinsert.map Prod.fst).nodup_iff).mpr hkeys')).trans ?_
      exact hinsert.trans hmiddle.symm

/-- The entries of a map, met in any order, make up the map again. -/
theorem ofList_of_perm {entries : List (String × α)} (h : Sorted map)
    (hperm : List.Perm entries map) : ofList entries = map := by
  have hkeys : (keys ([] ++ entries)).Nodup :=
    ((hperm.map Prod.fst).nodup_iff).mpr (nodup_keys_of_sorted h)
  exact eq_of_perm (sorted_ofList entries) h ((foldl_insert_perm hkeys).trans hperm)

end Entries
end ObjectBridge
