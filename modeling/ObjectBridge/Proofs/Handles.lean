import Mathlib.Data.List.Forall2
import ObjectBridge.Proofs.Coupling
import ObjectBridge.Proofs.Decoding
import ObjectBridge.Value.Json

/-!
# Values up to handles

Two values may differ in nothing but the handles of the objects in them.  Which
handle stands for which is given by a relation.  Alike values are decoded alike and
have the same structural form.

Main results:

- Definition `Value.Alike`: values that are alike up to a relation of handles.
- Theorem `Value.Alike.relocate`: a value whose handles are looked up in two ways
  becomes alike values.
- Theorems `Value.Alike.toJson_eq` and `NativeType.Alike.decode`: alike values have
  the same structural form and are decoded alike.
-/

namespace ObjectBridge

variable {α β : Type}

/-- Objects of the same type whose handles are related. -/
def ForeignObject.Alike (N : Nat → Nat → Prop) (o o' : ForeignObject) : Prop :=
  N o.handle o'.handle ∧ o.typeName = o'.typeName

/-- Finite maps with the same keys whose values are related. -/
abbrev Entries.Alike (V : α → β → Prop) (xs : Entries α) (ys : Entries β) : Prop :=
  List.Forall₂ (fun k l => k.1 = l.1 ∧ V k.2 l.2) xs ys

/-- Related options are mapped to related ones. -/
theorem rel_map {α' β' : Type} {V : α → β → Prop} {W : α' → β' → Prop} {x : Option α}
    {y : Option β} {f : α → α'} {g : β → β'} (h : Option.Rel V x y)
    (hfg : ∀ {a b}, V a b → W (f a) (g b)) : Option.Rel W (x.map f) (y.map g) := by
  cases h with
  | none => exact .none
  | some h => exact .some (hfg h)

/-- Related options go on to related ones. -/
theorem rel_bind {α' β' : Type} {V : α → β → Prop} {W : α' → β' → Prop} {x : Option α}
    {y : Option β} {f : α → Option α'} {g : β → Option β'} (h : Option.Rel V x y)
    (hfg : ∀ {a b}, V a b → Option.Rel W (f a) (g b)) : Option.Rel W (x >>= f) (y >>= g) := by
  cases h with
  | none => exact .none
  | some h => exact hfg h

/-- Related options are so for every wider relation. -/
theorem rel_mono {V W : α → β → Prop} {x : Option α} {y : Option β}
    (hVW : ∀ {a b}, V a b → W a b) (h : Option.Rel V x y) : Option.Rel W x y := by
  cases h with
  | none => exact .none
  | some h => exact .some (hVW h)

/-- Related options have related values, with related defaults in place of missing ones. -/
theorem rel_getD {V : α → β → Prop} {x : Option α} {y : Option β} {a : α} {b : β}
    (h : Option.Rel V x y) (hab : V a b) : V (x.getD a) (y.getD b) := by
  cases h with
  | none => exact hab
  | some h => exact h

namespace Value

/-! ## Alike values -/

mutual

/-- Values that are alike up to a relation of handles. -/
def Alike (N : Nat → Nat → Prop) : Value → Value → Prop
  | none, none => True
  | bool a, bool b => a = b
  | int a, int b => a = b
  | float a, float b => a = b
  | str a, str b => a = b
  | list as, list bs => AlikeItems N as bs
  | map as, map bs => AlikeEntries N as bs
  | object a, object b => a.Alike N b
  | _, _ => False

/-- Lists whose items are alike. -/
def AlikeItems (N : Nat → Nat → Prop) : List Value → List Value → Prop
  | [], [] => True
  | a :: as, b :: bs => Alike N a b ∧ AlikeItems N as bs
  | _, _ => False

/-- Maps with the same keys whose values are alike. -/
def AlikeEntries (N : Nat → Nat → Prop) :
    List (String × Value) → List (String × Value) → Prop
  | [], [] => True
  | (k, a) :: as, (l, b) :: bs => (k = l ∧ Alike N a b) ∧ AlikeEntries N as bs
  | _, _ => False

end

/-- Lists are alike when their items are, one by one. -/
theorem alikeItems_iff {N : Nat → Nat → Prop} {as bs : List Value} :
    AlikeItems N as bs ↔ List.Forall₂ (Alike N) as bs := by
  induction as generalizing bs with
  | nil => cases bs <;> simp [AlikeItems]
  | cons a as ih => cases bs <;> simp [AlikeItems, ih]

/-- Maps are alike when their values are, key by key. -/
theorem alikeEntries_iff {N : Nat → Nat → Prop} {as bs : List (String × Value)} :
    AlikeEntries N as bs ↔ Entries.Alike (Alike N) as bs := by
  induction as generalizing bs with
  | nil => cases bs <;> simp [AlikeEntries]
  | cons a as ih => cases bs <;> simp [AlikeEntries, ih]

/-! ## Induction -/

/-- Whether a value is a single datum without parts and handles. -/
def isPlain : Value → Bool
  | list _ | map _ | object _ => false
  | _ => true

/-- What holds of plain data and objects, and of lists and maps if it holds of their parts, holds
of all values. -/
theorem induction_on {P : Value → Prop} (plain : ∀ v, v.isPlain = true → P v)
    (list : ∀ items : List Value, (∀ v ∈ items, P v) → P (.list items))
    (map : ∀ entries : List (String × Value), (∀ entry ∈ entries, P entry.2) → P (.map entries))
    (object : ∀ o, P (.object o)) (v : Value) : P v := by
  refine @Value.rec P (fun items => ∀ v ∈ items, P v)
    (fun entries => ∀ entry ∈ entries, P entry.2) (fun entry => P entry.2) (plain _ rfl)
    (fun _ => plain _ rfl) (fun _ => plain _ rfl) (fun _ => plain _ rfl) (fun _ => plain _ rfl)
    list map object (fun v hv => ?_) (fun v items hv hitems => ?_) (fun entry hentry => ?_)
    (fun entry entries hentry hentries => ?_) (fun _ _ hv => hv) v
  · cases hv
  · exact List.forall_mem_cons.mpr ⟨hv, hitems⟩
  · cases hentry
  · exact List.forall_mem_cons.mpr ⟨hentry, hentries⟩

namespace Alike

variable {N M : Nat → Nat → Prop} {v v' : Value}

/-- A plain value is alike to itself. -/
theorem of_plain (h : v.isPlain = true) : Alike N v v := by
  cases v with
  | none => trivial
  | bool | int | float | str => rfl
  | list | map | object => cases h

/-- Lists are alike as values when they are so as lists. -/
theorem list_iff {as bs : List Value} :
    Alike N (.list as) (.list bs) ↔ List.Forall₂ (Alike N) as bs :=
  alikeItems_iff

/-- Maps are alike as values when they are so as maps. -/
theorem map_iff {as bs : List (String × Value)} :
    Alike N (.map as) (.map bs) ↔ Entries.Alike (Alike N) as bs :=
  alikeEntries_iff

/-- Objects are alike as values when they are so as objects. -/
theorem object_iff {o o' : ForeignObject} :
    Alike N (.object o) (.object o') ↔ o.Alike N o' :=
  Iff.rfl

/-- A plain value is alike to itself only. -/
theorem eq_of_plain (h : Alike N v v') (hplain : v.isPlain = true) : v = v' := by
  cases v with
  | list | map | object => cases hplain
  | none | bool | int | float | str =>
      cases v' <;> cases h
      rfl

/-- What holds of equal plain data and of related objects, and of lists and maps if it holds of
their parts, holds of all alike values. -/
theorem induction {P : Value → Value → Prop} (plain : ∀ v, v.isPlain = true → P v v)
    (list : ∀ {as bs}, List.Forall₂ (Alike N) as bs → List.Forall₂ P as bs →
      P (.list as) (.list bs))
    (map : ∀ {as bs}, Entries.Alike (Alike N) as bs → Entries.Alike P as bs →
      P (.map as) (.map bs))
    (object : ∀ {o o'}, o.Alike N o' → P (.object o) (.object o'))
    (h : Alike N v v') : P v v' := by
  -- The induction is on the first value; the second has the same shape.
  revert v'
  refine induction_on (P := fun v => ∀ {v'}, Alike N v v' → P v v') ?_ ?_ ?_ ?_ v
  · intro v hplain v' h
    exact h.eq_of_plain hplain ▸ plain v hplain
  · intro as ih v' h
    cases v' with
    | list bs =>
        have hitems := list_iff.mp h
        refine list hitems ?_
        clear h
        induction hitems with
        | nil => exact .nil
        | cons hab _ ihrest =>
            obtain ⟨iha, ihas⟩ := List.forall_mem_cons.mp ih
            exact .cons (iha hab) (ihrest ihas)
    | _ => cases h
  · intro as ih v' h
    cases v' with
    | map bs =>
        have hentries := map_iff.mp h
        refine map hentries ?_
        clear h
        induction hentries with
        | nil => exact .nil
        | cons hab _ ihrest =>
            obtain ⟨iha, ihas⟩ := List.forall_mem_cons.mp ih
            exact .cons ⟨hab.1, iha hab.2⟩ (ihrest ihas)
    | _ => cases h
  · intro o v' h
    cases v' with
    | object o' => exact object h
    | _ => cases h

/-- Values that are alike are so up to every wider relation of handles. -/
theorem mono (hNM : ∀ {n n'}, N n n' → M n n') (h : Alike N v v') : Alike M v v' := by
  refine induction (fun v => of_plain) (fun _ hs => list_iff.mpr hs)
    (fun _ hs => map_iff.mpr hs) (fun ho => ?_) h
  exact ⟨hNM ho.1, ho.2⟩

/-- Alike values have one type. -/
theorem typeName_eq (h : Alike N v v') : v.typeName = v'.typeName :=
  induction (P := fun v v' => v.typeName = v'.typeName) (fun _ _ => rfl) (fun _ _ => rfl)
    (fun _ _ => rfl) (fun ho => ho.2) h

/-- Of two alike values both are plain or neither is. -/
theorem isPlain_eq (h : Alike N v v') : v.isPlain = v'.isPlain :=
  induction (P := fun v v' => v.isPlain = v'.isPlain) (fun _ _ => rfl) (fun _ _ => rfl)
    (fun _ _ => rfl) (fun _ => rfl) h

/-- Something is alike to something. -/
theorem ne_none (h : Alike N v v') (hne : v ≠ .none) : v' ≠ .none := by
  rintro rfl
  cases v <;> first | exact hne rfl | cases h

/-- Alike values hold alike objects, if any. -/
theorem asObject (h : Alike N v v') :
    Option.Rel (ForeignObject.Alike N) v.asObject v'.asObject := by
  refine induction (P := fun v v' => Option.Rel (ForeignObject.Alike N) v.asObject v'.asObject)
    (fun v hplain => ?_) (fun _ _ => .none) (fun _ _ => .none) (fun ho => .some ho) h
  cases v with
  | object o => cases hplain
  | _ => exact .none

/-- Alike values hold alike items, if any. -/
theorem asList (h : Alike N v v') :
    Option.Rel (List.Forall₂ (Alike N)) v.asList v'.asList := by
  refine induction (P := fun v v' => Option.Rel (List.Forall₂ (Alike N)) v.asList v'.asList)
    (fun v hplain => ?_) (fun hs _ => .some hs) (fun _ _ => .none) (fun _ => .none) h
  cases v with
  | list items => cases hplain
  | _ => exact .none

/-- Lists whose items have the same JSON form have one as well. -/
theorem toJsonItems_eq {as bs : List Value}
    (h : List.Forall₂ (fun v v' => v.toJson = v'.toJson) as bs) :
    toJsonItems as = toJsonItems bs := by
  induction h with
  | nil => rfl
  | cons hab _ ih => rw [toJsonItems, toJsonItems, hab, ih]

/-- So do maps. -/
theorem toJsonEntries_eq {as bs : List (String × Value)}
    (h : Entries.Alike (fun v v' => v.toJson = v'.toJson) as bs) :
    toJsonEntries as = toJsonEntries bs := by
  induction h with
  | nil => rfl
  | cons hab _ ih => rw [toJsonEntries, toJsonEntries, hab.1, hab.2, ih]

/-- Alike values have the same structural form, or fail to have one in the same place. -/
theorem toJson_eq (h : Alike N v v') : v.toJson = v'.toJson := by
  refine induction (P := fun v v' => v.toJson = v'.toJson) (fun _ _ => rfl) (fun _ hs => ?_)
    (fun _ hs => ?_) (fun ho => ?_) h
  · rw [toJson, toJson, toJsonItems_eq hs]
  · rw [toJson, toJson, toJsonEntries_eq hs]
  · rw [toJson, toJson, ho.2]

end Alike

/-! ## Looking handles up -/

mutual

/-- The value with its handles looked up, if all of them are found. -/
def relocate (f : Nat → Option Nat) : Value → Option Value
  | list items => (relocateItems f items).map list
  | map entries => (relocateEntries f entries).map map
  | object o => (f o.handle).map fun n => object ⟨n, o.typeName⟩
  | v => some v

/-- The items of a list with their handles looked up. -/
def relocateItems (f : Nat → Option Nat) : List Value → Option (List Value)
  | [] => some []
  | v :: vs => do
    let w ← relocate f v
    let ws ← relocateItems f vs
    some (w :: ws)

/-- The entries of a map with their handles looked up. -/
def relocateEntries (f : Nat → Option Nat) :
    List (String × Value) → Option (List (String × Value))
  | [] => some []
  | (key, v) :: vs => do
    let w ← relocate f v
    let ws ← relocateEntries f vs
    some ((key, w) :: ws)

end

/-- A plain value has no handle to look up. -/
theorem relocate_of_plain {f : Nat → Option Nat} {v : Value} (h : v.isPlain = true) :
    v.relocate f = some v := by
  cases v with
  | list | map | object => cases h
  | none | bool | int | float | str => rfl

namespace Alike

variable {N : Nat → Nat → Prop} {f g : Nat → Option Nat}

/-- Items whose handles are looked up alike make alike lists. -/
theorem relocateItems_of {vs : List Value}
    (h : ∀ v ∈ vs, Option.Rel (Alike N) (v.relocate f) (v.relocate g)) :
    Option.Rel (List.Forall₂ (Alike N)) (Value.relocateItems f vs) (Value.relocateItems g vs) := by
  induction vs with
  | nil => exact .some .nil
  | cons v vs ih =>
      obtain ⟨hv, hvs⟩ := List.forall_mem_cons.mp h
      rw [Value.relocateItems, Value.relocateItems]
      exact rel_bind hv fun hw => rel_bind (ih hvs) fun hws => .some (.cons hw hws)

/-- Entries whose handles are looked up alike make alike maps. -/
theorem relocateEntries_of {vs : List (String × Value)}
    (h : ∀ entry ∈ vs, Option.Rel (Alike N) (entry.2.relocate f) (entry.2.relocate g)) :
    Option.Rel (Entries.Alike (Alike N)) (Value.relocateEntries f vs)
      (Value.relocateEntries g vs) := by
  induction vs with
  | nil => exact .some .nil
  | cons entry vs ih =>
      obtain ⟨hv, hvs⟩ := List.forall_mem_cons.mp h
      rw [Value.relocateEntries, Value.relocateEntries]
      exact rel_bind hv fun hw => rel_bind (ih hvs) fun hws => .some (.cons ⟨rfl, hw⟩ hws)

/-- A value whose handles are looked up in two ways becomes alike values. -/
theorem relocate (hfg : ∀ n, Option.Rel N (f n) (g n)) (v : Value) :
    Option.Rel (Alike N) (v.relocate f) (v.relocate g) := by
  refine induction_on (P := fun v => Option.Rel (Alike N) (v.relocate f) (v.relocate g))
    (fun v hplain => ?_) (fun items ih => ?_) (fun entries ih => ?_) (fun o => ?_) v
  · rw [relocate_of_plain hplain, relocate_of_plain hplain]
    exact .some (of_plain hplain)
  · rw [Value.relocate, Value.relocate]
    exact rel_map (relocateItems_of ih) fun hs => list_iff.mpr hs
  · rw [Value.relocate, Value.relocate]
    exact rel_map (relocateEntries_of ih) fun hs => map_iff.mpr hs
  · rw [Value.relocate, Value.relocate]
    exact rel_map (hfg o.handle) fun hn => ⟨hn, rfl⟩

/-- The items of one list are looked up alike by related lookups. -/
theorem relocateItems (hfg : ∀ n, Option.Rel N (f n) (g n)) (vs : List Value) :
    Option.Rel (List.Forall₂ (Alike N)) (Value.relocateItems f vs) (Value.relocateItems g vs) :=
  relocateItems_of fun v _ => relocate hfg v

/-- So are the entries of one map. -/
theorem relocateEntries (hfg : ∀ n, Option.Rel N (f n) (g n)) (vs : List (String × Value)) :
    Option.Rel (Entries.Alike (Alike N)) (Value.relocateEntries f vs)
      (Value.relocateEntries g vs) :=
  relocateEntries_of fun entry _ => relocate hfg entry.2

end Alike

end Value

/-! ## Native data -/

namespace NativeType

/-- Native data that are alike up to a relation of handles. -/
def Alike (N : Nat → Nat → Prop) : (type : NativeType) → type.Carrier → type.Carrier → Prop
  | value, v, v' => Value.Alike N v v'
  | object, o, o' => ForeignObject.Alike N o o'
  | option inner, x, x' => Option.Rel (Alike N inner) x x'
  | list inner, xs, xs' => List.Forall₂ (Alike N inner) xs xs'
  | map inner, xs, xs' => Entries.Alike (Alike N inner) xs xs'
  | int _, x, x' => x = x'
  | single, x, x' => x = x'
  | double, x, x' => x = x'
  | bool, x, x' => x = x'
  | text, x, x' => x = x'
  | unit, x, x' => x = x'

namespace Alike

variable {N M : Nat → Nat → Prop}

/-- Native data that are alike are so up to every wider relation of handles. -/
theorem mono (hNM : ∀ {n n'}, N n n' → M n n') {type : NativeType} {x x' : type.Carrier}
    (h : type.Alike N x x') : type.Alike M x x' := by
  induction type with
  | value => exact Value.Alike.mono hNM h
  | object => exact ⟨hNM h.1, h.2⟩
  | option inner ih =>
      cases h with
      | none => exact .none
      | some h => exact .some (ih h)
  | list inner ih => exact List.Forall₂.imp (fun _ _ hx => ih hx) h
  | map inner ih => exact List.Forall₂.imp (fun _ _ hx => ⟨hx.1, ih hx.2⟩) h
  | int | single | double | bool | text | unit => exact h

/-- Maps whose values are decoded in agreement are decoded in agreement. -/
theorem decodeEntries {type : NativeType} {as bs : List (String × Value)}
    (h : Entries.Alike (fun v v' => Agree (type.Alike N) (type.decode v) (type.decode v')) as bs) :
    Agree (Entries.Alike (type.Alike N)) (decodeEntries type.decode as)
      (NativeType.decodeEntries type.decode bs) := by
  induction h with
  | nil => exact .ok .nil
  | @cons k l as bs hab _ ih =>
      rw [NativeType.decodeEntries, NativeType.decodeEntries]
      exact hab.2.bind fun hx => ih.bind fun hxs => .ok (.cons ⟨hab.1, hx⟩ hxs)

/-- Alike values are reported alike where another type is expected. -/
theorem mismatches {V : α → α → Prop} {v v' : Value} (expected : String)
    (h : Value.Alike N v v') :
    Agree V (.error (mismatch v expected)) (.error (mismatch v' expected)) := by
  rw [mismatch, mismatch, h.typeName_eq]
  exact .error _

/-- A type without parts and handles accepts plain data only, and of these it accepts the same. -/
theorem decode_scalar {type : NativeType} {v v' : Value} (hself : ∀ x, type.Alike N x x)
    (hparts : ∀ v : Value, v.isPlain = false →
      type.decode v = .error (mismatch v type.expectation))
    (h : Value.Alike N v v') : Agree (type.Alike N) (type.decode v) (type.decode v') := by
  cases hplain : v.isPlain with
  | true =>
      rw [h.eq_of_plain hplain]
      exact .refl hself _
  | false =>
      rw [hparts v hplain, hparts v' (h.isPlain_eq ▸ hplain)]
      exact mismatches _ h

/-- Alike values are decoded alike. -/
theorem decode {type : NativeType} {v v' : Value} (h : Value.Alike N v v') :
    Agree (type.Alike N) (type.decode v) (type.decode v') := by
  induction type generalizing v v' with
  | value => exact .ok h
  | unit => exact .ok rfl
  | int | single | double | bool | text =>
      refine decode_scalar (fun _ => rfl) (fun v hparts => ?_) h
      simp only [decode_int, decode_single, decode_double, decode_bool, decode_text]
      cases v <;> first | rfl | cases hparts
  | object =>
      refine h.induction (P := fun v v' =>
        Agree (ForeignObject.Alike N) (object.decode v) (object.decode v')) (fun v hplain => ?_)
        (fun _ _ => .error _) (fun _ _ => .error _) (fun ho => .ok ho)
      rw [decode_object]
      cases v <;> first | exact .error _ | cases hplain
  | option inner ih =>
      by_cases hnone : v = .none
      · cases hnone
        cases h.eq_of_plain rfl
        exact .ok .none
      · rw [decode_option_some hnone, decode_option_some (h.ne_none hnone)]
        exact (ih h).map fun hx => .some hx
  | list inner ih =>
      refine h.induction (P := fun v v' =>
        Agree (List.Forall₂ (inner.Alike N)) (inner.list.decode v) (inner.list.decode v'))
        (fun v hplain => ?_) (fun hs _ => ?_) (fun _ _ => .error _) (fun ho => ?_)
      · rw [decode_list]
        cases v <;> first | exact .error _ | cases hplain
      · rw [decode_list, decode_list]
        exact .mapM (hs.imp fun _ _ hv => ih hv)
      · rw [decode_list, decode_list]
        exact mismatches _ (Value.Alike.object_iff.mpr ho)
  | map inner ih =>
      refine h.induction (P := fun v v' =>
        Agree (Entries.Alike (inner.Alike N)) (inner.map.decode v) (inner.map.decode v'))
        (fun v hplain => ?_) (fun _ _ => .error _) (fun hs _ => ?_) (fun ho => ?_)
      · rw [decode_map]
        cases v <;> first | exact .error _ | cases hplain
      · rw [decode_map, decode_map]
        exact decodeEntries (hs.imp fun _ _ hv => ⟨hv.1, ih hv.2⟩)
      · rw [decode_map, decode_map]
        exact mismatches _ (Value.Alike.object_iff.mpr ho)

end Alike

end NativeType

end ObjectBridge
