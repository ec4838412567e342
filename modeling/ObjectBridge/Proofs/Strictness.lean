import ObjectBridge.Proofs.Handles
import ObjectBridge.Proofs.OrderedEntries
import ObjectBridge.Proofs.Outcomes
import ObjectBridge.Proofs.RoundTrip

/-!
# From values to native data and back

Decoding is strict: what is decoded without floats and without the unit has the value that it was
decoded from.  Nothing is truncated, left out or put in another order on the way.  A map may be
kept in any order in native code, since its entries are put in order again when it is written.

Main results:

- Definition `NativeType.Exact`: the types of which a member is decoded from one value only.
- Theorem `NativeType.encode_of_decode`: the value of what was decoded is the value given.
- Theorem `NativeType.writes_iff`: the order in which the entries of maps are met does not matter.
- Theorem `NativeType.decode_strict`: decoding has one value for each datum and accepts nothing
  but the values of data.
-/

namespace ObjectBridge

variable {α β : Type}

/-! ## Lists of images -/

/-- A relation that holds of each element and its image only holds of a list and its image only. -/
theorem forall₂_iff_eq_map {R : α → β → Prop} {f : α → β} {xs : List α} {ys : List β}
    (hR : ∀ x ∈ xs, ∀ y, R x y ↔ y = f x) : List.Forall₂ R xs ys ↔ ys = xs.map f := by
  induction xs generalizing ys with
  | nil => simp
  | cons x xs ih =>
      obtain ⟨hx, hxs⟩ := List.forall_mem_cons.mp hR
      rw [List.map_cons, List.forall₂_cons_left_iff]
      constructor
      · rintro ⟨y, ys, hy, hys, rfl⟩
        rw [(hx y).mp hy, (ih hxs).mp hys]
      · rintro rfl
        exact ⟨f x, xs.map f, (hx _).mpr rfl, (ih hxs).mpr rfl, rfl⟩

namespace NativeType

/-- Entries that are decoded keep their keys and their order. -/
theorem alike_of_decodeEntries {decode : Value → Except BridgeError α}
    {entries : List (String × Value)} {xs : List (String × α)}
    (h : decodeEntries decode entries = .ok xs) :
    Entries.Alike (fun v x => decode v = .ok x) entries xs := by
  induction entries generalizing xs with
  | nil =>
      cases h
      exact .nil
  | cons entry entries ih =>
      obtain ⟨key, v⟩ := entry
      rw [decodeEntries] at h
      obtain ⟨x, hx, h⟩ := exists_of_bind_eq_ok h
      obtain ⟨rest, hrest, h⟩ := exists_of_bind_eq_ok h
      cases h
      exact .cons ⟨rfl, hx⟩ (ih hrest)

/-- An integer is decoded as itself. -/
theorem val_of_decodeInt {type : IntType} {n : Int64} {x : { n : Int // type.holds n }}
    (h : decodeInt type n = .ok x) : x.val = n.toInt := by
  rw [decodeInt] at h
  split at h
  · cases h
    rfl
  · cases h

/-! ## The types that are decoded strictly -/

/-- Whether values carry every member as it is, and each member is decoded from one value only: a
float may have been an integer, and the unit anything. -/
def Exact : NativeType → Prop
  | int type => (int type).Carried
  | single | double | unit => False
  | bool | text | value | object => True
  | option inner | list inner | map inner => inner.Exact

instance decidableExact : (t : NativeType) → Decidable t.Exact
  | int type => decidableCarried (int type)
  | single | double | unit => isFalse id
  | bool | text | value | object => isTrue trivial
  | option inner | list inner | map inner => decidableExact inner

/-- A type that is exact is carried. -/
theorem carried_of_exact {t : NativeType} (ht : t.Exact) : t.Carried := by
  induction t with
  | int type => exact ht
  | single | double | unit => exact ht.elim
  | bool | text | value | object => trivial
  | option inner ih | list inner ih | map inner ih => exact ih ht

/-- The value of what was decoded is the value given. -/
theorem encode_of_decode {t : NativeType} (ht : t.Exact) {v : Value} {x : t.Carrier}
    (h : t.decode v = .ok x) : t.encode x = v := by
  induction t generalizing v with
  | int type =>
      rw [decode_int] at h
      cases v with
      | int n => rw [encode, val_of_decodeInt h, Int64.ofInt_toInt]
      | _ => cases h
  | single | double | unit => exact ht.elim
  | bool =>
      rw [decode_bool] at h
      cases v with
      | bool b =>
          cases h
          rfl
      | _ => cases h
  | text =>
      rw [decode_text] at h
      cases v with
      | str s =>
          cases h
          rfl
      | _ => cases h
  | value =>
      cases h
      rfl
  | object =>
      rw [decode_object] at h
      cases v with
      | object o =>
          cases h
          rfl
      | _ => cases h
  | option inner ih =>
      rw [decode_option] at h
      cases v with
      | none =>
          cases h
          rfl
      -- An option that is not missing is decoded as what it holds, and written as that.
      | _ =>
          obtain ⟨y, hy, rfl⟩ := exists_of_map_eq_ok h
          exact ih ht hy
  | list inner ih =>
      rw [decode_list] at h
      cases v with
      | list items =>
          have hitems : List.Forall₂ (fun v x => inner.encode x = v) items x :=
            (forall₂_of_mapM_eq_ok h).imp fun _ _ hv => ih ht hv
          refine congrArg Value.list (Eq.symm ?_)
          exact (forall₂_iff_eq_map fun _ _ _ => eq_comm).mp hitems.flip
      | _ => cases h
  | map inner ih =>
      rw [decode_map] at h
      cases v with
      | map entries =>
          have hentries : List.Forall₂ (fun entry y => y = (entry.1, inner.encode entry.2))
              x entries :=
            (alike_of_decodeEntries h).flip.imp fun _ _ hv =>
              Prod.ext hv.1 (ih ht hv.2).symm
          exact congrArg Value.map ((forall₂_iff_eq_map fun _ _ _ => Iff.rfl).mp hentries).symm
      | _ => cases h

end NativeType

/-! ## Maps in native order -/

/-- A value whose maps are in ascending order of their keys, at any depth. -/
inductive Value.Ordered : Value → Prop where
  | scalar {v : Value} (nolist : v.kind ≠ .list) (nomap : v.kind ≠ .map) : Ordered v
  | list {items : List Value} (each : ∀ v ∈ items, Ordered v) : Ordered (.list items)
  | map {entries : List (String × Value)} (sorted : Entries.Sorted entries)
      (each : ∀ entry ∈ entries, Ordered entry.2) : Ordered (.map entries)

namespace NativeType

/-- Whether a datum may be written as a value when the entries of each map are met in any order. -/
def Writes : (t : NativeType) → t.Carrier → Value → Prop
  | option _, none, w => w = .none
  | option inner, some x, w => inner.Writes x w
  | list inner, items, w => ∃ ws, List.Forall₂ inner.Writes items ws ∧ w = .list ws
  | map inner, entries, w => ∃ met ws, List.Perm met entries ∧
      Entries.Alike inner.Writes met ws ∧ w = Value.ofEntries ws
  | t, x, w => w = t.encode x

section Containers

variable {inner : NativeType} {w : Value}

/-- A list is written item by item. -/
theorem writes_list_iff {items : List inner.Carrier}
    (heach : ∀ x ∈ items, ∀ w, inner.Writes x w ↔ w = inner.encode x) :
    (list inner).Writes items w ↔ w = (list inner).encode items := by
  constructor
  · rintro ⟨ws, hws, rfl⟩
    exact congrArg Value.list ((forall₂_iff_eq_map heach).mp hws)
  · rintro rfl
    exact ⟨_, (forall₂_iff_eq_map heach).mpr rfl, rfl⟩

/-- A map is written entry by entry. -/
theorem writes_map_iff {entries : List (String × inner.Carrier)}
    (hsorted : Entries.Sorted (entries.map fun entry => (entry.1, inner.encode entry.2)))
    (heach : ∀ entry ∈ entries, ∀ w, inner.Writes entry.2 w ↔ w = inner.encode entry.2) :
    (map inner).Writes entries w ↔ w = (map inner).encode entries := by
  let write (entry : String × inner.Carrier) := (entry.1, inner.encode entry.2)
  have hmet {met : List (String × inner.Carrier)} (hperm : List.Perm met entries) :
      ∀ entry ∈ met, ∀ w : String × Value,
        (entry.1 = w.1 ∧ inner.Writes entry.2 w.2) ↔ w = write entry := by
    intro entry hentry w
    rw [heach entry (hperm.mem_iff.mp hentry), Prod.ext_iff, eq_comm]
  constructor
  · rintro ⟨met, ws, hperm, hws, rfl⟩
    rw [(forall₂_iff_eq_map (hmet hperm)).mp hws]
    exact congrArg Value.map (Entries.ofList_of_perm hsorted (hperm.map write))
  · rintro rfl
    refine ⟨entries, entries.map write, .refl _, (forall₂_iff_eq_map (hmet (.refl _))).mpr rfl, ?_⟩
    exact congrArg Value.map (Entries.ofList_of_perm hsorted (.refl _)).symm

end Containers

/-- The order in which the entries of maps are met does not matter. -/
theorem writes_iff {t : NativeType} {x : t.Carrier} (hx : (t.encode x).Ordered) {w : Value} :
    t.Writes x w ↔ w = t.encode x := by
  induction t generalizing w with
  | int | single | double | bool | text | unit | value | object => exact Iff.rfl
  | option inner ih =>
      cases x with
      | none => exact Iff.rfl
      | some x => exact ih hx
  | list inner ih =>
      obtain ⟨hnolist, -⟩ | ⟨heach⟩ := hx
      · exact absurd rfl hnolist
      · exact writes_list_iff fun x hx w => ih (heach _ (List.mem_map_of_mem hx))
  | map inner ih =>
      obtain ⟨-, hnomap⟩ | - | ⟨hsorted, heach⟩ := hx
      · exact absurd rfl hnomap
      · refine writes_map_iff hsorted fun entry hentry w => ih ?_
        exact heach _ (List.mem_map_of_mem hentry)

/-- Decoding is strict.  What is decoded has the value that it was decoded from, and is written as
that value again in whatever order its maps are met.  So no two values are decoded to one datum,
and only values of data are decoded at all. -/
theorem decode_strict {t : NativeType} (ht : t.Exact) :
    (∀ v x, t.decode v = .ok x → t.encode x = v) ∧
      (∀ v x, v.Ordered → t.decode v = .ok x → ∀ w, t.Writes x w ↔ w = v) ∧
      (∀ v v' x, t.decode v = .ok x → t.decode v' = .ok x → v = v') ∧
      ∀ v, (∃ x, t.decode v = .ok x) ↔ ∃ x, t.encode x = v := by
  refine ⟨fun v x => encode_of_decode ht, fun v x hv h w => ?_, fun v v' x h h' => ?_, fun v => ?_⟩
  · have hx := encode_of_decode ht h
    rw [← hx] at hv
    rw [writes_iff hv, hx]
  · rw [← encode_of_decode ht h, encode_of_decode ht h']
  · constructor
    · rintro ⟨x, h⟩
      exact ⟨x, encode_of_decode ht h⟩
    · rintro ⟨x, rfl⟩
      exact ⟨_, decode_encode (carried_of_exact ht) x⟩

/-- A map of lists of bytes, some of them missing, is decoded and written as it was given. -/
theorem decode_strict_bytes :
    let t := map (list (option (int .word8)))
    let v := Value.map [("a", .list [.int 255, .none]), ("b", .list [])]
    t.Exact ∧ ∃ x, t.decode v = .ok x ∧ t.encode x = v ∧ ∀ w, t.Writes x w ↔ w = v := by
  intro t v
  have ht : t.Exact := by decide
  have hordered : v.Ordered := by
    refine .map (by decide) fun entry hentry => ?_
    rcases List.mem_pair.mp hentry with rfl | rfl
    · refine .list fun item hitem => ?_
      rcases List.mem_pair.mp hitem with rfl | rfl <;> exact .scalar nofun nofun
    · exact .list nofun
  have hv : t.decode v = .ok [("a", [some ⟨255, by decide⟩, none]), ("b", [])] := rfl
  exact ⟨ht, _, hv, (decode_strict ht).1 v _ hv, (decode_strict ht).2.1 v _ hordered hv⟩

end NativeType
end ObjectBridge
