/-!
# Finite maps keyed by text

A finite map is the list of its entries in ascending order of their keys, each
key once.  The order of texts is that of their code points.

Main results:

- Theorem `Entries.lookup_insert`: an insertion changes the value at its own key
  only.
- Theorem `Entries.sorted_insert`: an insertion keeps the order.
- Theorem `Entries.sorted_ofList`: a map made from a list of entries is in order.
-/

namespace ObjectBridge

/-- The entries of a finite map keyed by text. -/
abbrev Entries (α : Type) := List (String × α)

namespace Entries

variable {α : Type}

/-- The value at a key. -/
def lookup (key : String) : Entries α → Option α
  | [] => none
  | (k, v) :: rest => if k = key then some v else lookup key rest

/-- The map with the value at one key replaced or added. -/
def insert (key : String) (value : α) : Entries α → Entries α
  | [] => [(key, value)]
  | (k, v) :: rest =>
    if key < k then (key, value) :: (k, v) :: rest
    else if key = k then (key, value) :: rest
    else (k, v) :: insert key value rest

/-- The map of a list of entries; of several entries with one key the last one counts. -/
def ofList (entries : List (String × α)) : Entries α :=
  entries.foldl (fun map entry => insert entry.1 entry.2 map) []

/-- The keys in order. -/
def keys (map : Entries α) : List String :=
  map.map Prod.fst

/-- Whether the entries stand in strictly ascending order of their keys. -/
def Sorted (map : Entries α) : Prop :=
  (keys map).Pairwise (· < ·)

/-! ## Laws -/

/-- What is inserted is found under its name, and nothing else is changed. -/
theorem lookup_insert (key other : String) (value : α) (map : Entries α) :
    lookup other (insert key value map) = if key = other then some value else lookup other map := by
  induction map with
  | nil => simp [insert, lookup]
  | cons entry rest ih =>
    obtain ⟨k, v⟩ := entry
    simp only [insert]
    split
    · simp [lookup]
    · split
      · rename_i h
        subst h
        by_cases h : key = other <;> simp [lookup, h]
      · rename_i h
        simp only [lookup, ih]
        by_cases h1 : k = other <;> by_cases h2 : key = other <;> simp_all

/-- An insertion adds one name at most. -/
theorem mem_keys_insert {key other : String} {value : α} {map : Entries α} :
    other ∈ keys (insert key value map) ↔ other = key ∨ other ∈ keys map := by
  induction map with
  | nil => simp [insert, keys]
  | cons entry rest ih =>
    obtain ⟨k, v⟩ := entry
    simp only [keys] at ih
    simp only [insert]
    split
    · simp [keys]
    · split
      · rename_i h
        simp [keys, h]
      · simp only [keys, List.map_cons, List.mem_cons, ih]
        constructor <;> (rintro (h | h | h) <;> simp [h])

/-- An insertion keeps the names in order. -/
theorem sorted_insert {key : String} {value : α} {map : Entries α} (h : Sorted map) :
    Sorted (insert key value map) := by
  induction map with
  | nil => simp [insert, Sorted, keys]
  | cons entry rest ih =>
    obtain ⟨k, v⟩ := entry
    simp only [Sorted, keys, List.map_cons, List.pairwise_cons] at h ⊢
    obtain ⟨hk, hrest⟩ := h
    simp only [insert]
    split
    · rename_i hlt
      simp only [List.map_cons, List.pairwise_cons, List.mem_cons]
      refine ⟨?_, hk, hrest⟩
      rintro a (rfl | ha)
      · exact hlt
      · exact String.lt_trans hlt (hk a ha)
    · split
      · rename_i heq
        subst heq
        exact List.pairwise_cons.2 ⟨hk, hrest⟩
      · rename_i hlt hne
        have hgt : k < key := by
          rcases Decidable.em (k < key) with h | h
          · exact h
          · exact absurd (String.le_antisymm h hlt) (by simpa using hne)
        simp only [List.map_cons, List.pairwise_cons]
        refine ⟨?_, ih hrest⟩
        intro a ha
        rcases mem_keys_insert.1 ha with rfl | ha
        · exact hgt
        · exact hk a ha

/-- Entries that are put together one by one are in order. -/
theorem sorted_ofList (entries : List (String × α)) : Sorted (ofList entries) := by
  suffices ∀ map : Entries α, Sorted map →
      Sorted (entries.foldl (fun map entry => insert entry.1 entry.2 map) map) from
    this [] (by simp [Sorted, keys])
  induction entries with
  | nil => exact fun _ h => h
  | cons entry rest ih => exact fun map h => ih _ (sorted_insert h)

end Entries

end ObjectBridge
