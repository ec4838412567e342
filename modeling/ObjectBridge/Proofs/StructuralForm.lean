import ObjectBridge.Proofs.Conformance
import ObjectBridge.Proofs.Equality

/-!
# What the structural form keeps

A value has a structural form unless an object or a float that is not finite stands in it; then the
first of them is reported.  The form keeps everything that values are compared by: two forms are
equal exactly if the values are.

Main results:

- Definition `Value.Formless`: the values that have no structural form, whatever they stand in.
- Theorem `Value.toJson_reports`: the first of them in a value is reported.
- Theorem `Value.numEq_iff_of_forms`: forms are equal if the values are.
- Theorem `Value.toJson_faithful`: which values have a form, and how forms compare.
-/

namespace ObjectBridge

/-! ## Values without a form -/

namespace Value

variable {v w u : Value} {e : BridgeError} {position : Position}

/-- A value that has no structural form itself, with the error that says so. -/
inductive Formless : Value → BridgeError → Prop where
  | object (o : ForeignObject) : Formless (.object o) (.conversion o.typeName .noNativeForm)
  | float {x : Double} (infinite : x.isFinite = false) :
      Formless (.float x) (.conversion "float" (.notFinite x))

/-- Why a value has no structural form, whatever its parts are. -/
def formFault? : Value → Option BridgeError
  | float x => if x.isFinite then Option.none else some (.conversion "float" (.notFinite x))
  | object o => some (.conversion o.typeName .noNativeForm)
  | _ => Option.none

/-- The fault of a value is what it has no form for. -/
theorem formFault?_eq_some_iff : v.formFault? = some e ↔ v.Formless e := by
  constructor
  · intro h
    cases v with
    | float x =>
        cases hx : x.isFinite with
        | true => simp [formFault?, hx] at h
        | false =>
            simp only [formFault?, hx, Bool.false_eq_true, if_false, Option.some.injEq] at h
            exact h ▸ .float hx
    | object o =>
        cases h
        exact .object o
    | _ => cases h
  · intro h
    cases h with
    | object o => rfl
    | float infinite => simp [formFault?, infinite]

/-- The positions of a value at which there is no structural form, in depth-first order, with the
errors that say so. -/
def gaps (v : Value) : List (Position × BridgeError) :=
  v.contents.filterMap fun content => content.2.formFault?.map (content.1, ·)

/-- The gaps of a value are the values in it that have no form, with their positions. -/
theorem mem_gaps_iff : (position, e) ∈ v.gaps ↔ ∃ u, v.Contains position u ∧ u.Formless e := by
  simp [gaps, mem_contents_iff, formFault?_eq_some_iff]

/-- The gaps of a value are in the order of their positions. -/
theorem gaps_ordered (hv : v.Ordered) : v.gaps.Pairwise fun a b => a.1.Before b.1 := by
  refine List.Pairwise.filterMap _ (fun a b hab gap hgap gap' hgap' => ?_) (contents_ordered hv)
  obtain ⟨_, -, rfl⟩ := Option.map_eq_some_iff.mp hgap
  obtain ⟨_, -, rfl⟩ := Option.map_eq_some_iff.mp hgap'
  exact hab

/-- The errors of a value are its own one and those of its parts, part by part. -/
theorem errors_eq (v : Value) : v.gaps.map Prod.snd =
    v.formFault?.toList ++ v.parts.flatMap fun part => part.2.gaps.map Prod.snd := by
  have hsnd (v : Value) :
      v.gaps.map Prod.snd = v.contents.filterMap fun content => content.2.formFault? := by
    rw [gaps, List.map_filterMap]
    congr 1
    funext content
    simp [Option.map_map, Function.comp_def]
  simp only [hsnd, contents_eq v, List.filterMap_cons, List.filterMap_flatMap, contentsOfPart,
    List.filterMap_map]
  cases v.formFault? <;> rfl

/-! ## Forms in parts -/

/-- Items are turned into JSON one after another. -/
theorem toJsonItems_eq (items : List Value) : toJsonItems items = items.mapM toJson := by
  induction items with
  | nil => rfl
  | cons v items ih =>
      rw [List.mapM_cons, ← ih]
      rfl

/-- Entries are turned into JSON one after another. -/
theorem toJsonEntries_eq (entries : List (String × Value)) :
    toJsonEntries entries = NativeType.decodeEntries toJson entries := by
  induction entries with
  | nil => rfl
  | cons entry entries ih =>
      rw [NativeType.decodeEntries, ← ih]
      rfl

/-- The first position without a structural form is reported. -/
theorem toJson_reports (v : Value) : Reports v.toJson (v.gaps.map Prod.snd) := by
  induction v using parts_induction with
  | h v ih =>
      rw [errors_eq, flatMap_parts fun u => u.gaps.map Prod.snd]
      rw [forall_parts_iff (P := fun u => Reports u.toJson (u.gaps.map Prod.snd))] at ih
      cases v with
      | float x => cases hx : x.isFinite <;> simp [formFault?, toJson, hx, parts, Reports]
      | list items =>
          rw [values_list] at ih ⊢
          rw [toJson, toJsonItems_eq]
          exact .map Json.list (.mapM ih)
      | map entries =>
          rw [values_map] at ih ⊢
          rw [toJson, toJsonEntries_eq]
          exact .map Json.record (NativeType.reports_decodeEntries (List.forall_mem_map.mp ih))
      | object o => exact .error _ _
      | none | bool | int | str => exact .ok _

/-- A value has a structural form if there is one for all that stands in it. -/
theorem exists_form_iff : (∃ j, v.toJson = .ok j) ↔
    ∀ position u e, v.Contains position u → ¬u.Formless e := by
  rw [(toJson_reports v).exists_ok_iff, List.map_eq_nil_iff, List.eq_nil_iff_forall_not_mem,
    Prod.forall]
  simp only [mem_gaps_iff, not_exists, not_and]
  exact forall_congr' fun position => forall_comm

/-- Otherwise the first position without one is reported. -/
theorem toJson_eq_error_iff (hv : v.Ordered) : v.toJson = .error e ↔
    ∃ position u, v.Contains position u ∧ u.Formless e ∧
      ∀ position' u' e', v.Contains position' u' → u'.Formless e' →
        position' = position ∨ position.Before position' := by
  rw [(toJson_reports v).eq_error_iff, List.head?_map, Option.map_eq_some_iff, Prod.exists]
  simp only [Position.head?_eq_some_iff (gaps_ordered hv), Prod.forall, mem_gaps_iff]
  constructor
  · rintro ⟨position, _, ⟨⟨u, hu, hformless⟩, hfirst⟩, rfl⟩
    exact ⟨position, u, hu, hformless, fun position' u' e' hu' hformless' =>
      hfirst position' e' ⟨u', hu', hformless'⟩⟩
  · rintro ⟨position, u, hu, hformless, hfirst⟩
    refine ⟨position, e, ⟨⟨u, hu, hformless⟩, ?_⟩, rfl⟩
    rintro position' e' ⟨u', hu', hformless'⟩
    exact hfirst position' u' e' hu' hformless'

end Value

/-! ## Equality of forms -/

namespace Json

/-- The kind of the values that have a form. -/
def kind : Json → Kind
  | null => .none
  | bool _ => .bool
  | int _ => .int
  | float _ => .float
  | str _ => .str
  | list _ => .list
  | record _ => .map

/-- JSON values of different kinds are not equal. -/
theorem numEq_of_kind_ne {j k : Json} (h : j.kind ≠ k.kind) : j.numEq k = false := by
  cases j <;> cases k <;> first | rfl | exact absurd rfl h

/-- Arrays are equal when their items are, one by one. -/
theorem numEqItems_iff {js ks : List Json} :
    numEqItems js ks = true ↔ List.Forall₂ (fun j k => numEq j k = true) js ks := by
  induction js generalizing ks with
  | nil => cases ks <;> simp [numEqItems]
  | cons j js ih => cases ks <;> simp [numEqItems, ih]

/-- Records are equal when they have the same names with equal fields. -/
theorem numEqFields_iff {js ks : List (String × Json)} :
    numEqFields js ks = true ↔ Entries.Alike (fun j k => numEq j k = true) js ks := by
  induction js generalizing ks with
  | nil => cases ks <;> simp [numEqFields]
  | cons j js ih => cases ks <;> simp [numEqFields, ih]

end Json

/-- Lists whose items stand for those of two others are related like these. -/
theorem forall₂_iff_of_forms {α β : Type} {F : α → β → Prop} {R : α → α → Prop} {S : β → β → Prop}
    {xs xs' : List α} {ys ys' : List β} (h : List.Forall₂ F xs ys) (h' : List.Forall₂ F xs' ys')
    (hRS : ∀ x ∈ xs, ∀ y x' y', F x y → F x' y' → (R x x' ↔ S y y')) :
    List.Forall₂ R xs xs' ↔ List.Forall₂ S ys ys' := by
  induction h generalizing xs' ys' with
  | nil => cases h' <;> simp
  | cons hxy _ ih =>
      obtain ⟨hfirst, hrest⟩ := List.forall_mem_cons.mp hRS
      cases h' with
      | nil => simp
      | cons hxy' htail =>
          rw [List.forall₂_cons, List.forall₂_cons, hfirst _ _ _ hxy hxy', ih htail hrest]

namespace Value

variable {v w : Value} {j k : Json}

/-- A number is turned into that number. -/
theorem form_of_float {x : Double} (h : (float x).toJson = .ok j) : j = .float x := by
  rw [toJson] at h
  split at h
  · exact (Except.ok.inj h).symm
  · cases h

/-- A list is turned into an array, item by item. -/
theorem form_of_list {items : List Value} (h : (list items).toJson = .ok j) :
    ∃ js, List.Forall₂ (fun v j => v.toJson = .ok j) items js ∧ .list js = j := by
  obtain ⟨js, hjs, rfl⟩ := exists_of_map_eq_ok h
  rw [toJsonItems_eq] at hjs
  exact ⟨js, forall₂_of_mapM_eq_ok hjs, rfl⟩

/-- A map is turned into a record, entry by entry. -/
theorem form_of_map {entries : List (String × Value)} (h : (map entries).toJson = .ok j) :
    ∃ js, Entries.Alike (fun v j => v.toJson = .ok j) entries js ∧ .record js = j := by
  obtain ⟨js, hjs, rfl⟩ := exists_of_map_eq_ok h
  rw [toJsonEntries_eq] at hjs
  exact ⟨js, NativeType.alike_of_decodeEntries hjs, rfl⟩

/-- A value is turned into JSON of its own kind. -/
theorem kind_of_form (h : v.toJson = .ok j) : j.kind = v.kind := by
  cases v with
  | float x =>
      rw [form_of_float h]
      rfl
  | list items =>
      obtain ⟨js, -, rfl⟩ := form_of_list h
      rfl
  | map entries =>
      obtain ⟨js, -, rfl⟩ := form_of_map h
      rfl
  | none | bool | int | str =>
      cases h
      rfl
  | object o => cases h

/-- Values of different kinds are different, and so are their forms. -/
theorem numEq_iff_of_kind_ne (hj : v.toJson = .ok j) (hk : w.toJson = .ok k)
    (h : v.kind ≠ w.kind) : v.numEq w = true ↔ j.numEq k = true := by
  rw [numEq_of_kind_ne h, Json.numEq_of_kind_ne]
  rwa [kind_of_form hj, kind_of_form hk]

/-- Forms are equal exactly if the values are. -/
theorem numEq_iff_of_forms (hj : v.toJson = .ok j) (hk : w.toJson = .ok k) :
    v.numEq w = true ↔ j.numEq k = true := by
  induction v using induction_on generalizing w j k with
  | plain v hplain =>
      by_cases hkind : v.kind = w.kind
      · cases v with
        | list | map | object => cases hplain
        | float x =>
            cases w with
            | float y => rw [form_of_float hj, form_of_float hk, numEq, Json.numEq]
            | _ => cases hkind
        | none | bool | int | str =>
            cases w <;> cases hkind
            cases hj
            cases hk
            rfl
      · exact numEq_iff_of_kind_ne hj hk hkind
  | list items ih =>
      cases w with
      | list items' =>
          obtain ⟨js, hjs, rfl⟩ := form_of_list hj
          obtain ⟨ks, hks, rfl⟩ := form_of_list hk
          rw [numEq, Json.numEq, numEqItems_iff, Json.numEqItems_iff]
          exact forall₂_iff_of_forms hjs hks fun x hx j w k => ih x hx
      | _ => exact numEq_iff_of_kind_ne hj hk (by simp [kind])
  | map entries ih =>
      cases w with
      | map entries' =>
          obtain ⟨js, hjs, rfl⟩ := form_of_map hj
          obtain ⟨ks, hks, rfl⟩ := form_of_map hk
          rw [numEq, Json.numEq, numEqEntries_iff, Json.numEqFields_iff]
          refine forall₂_iff_of_forms hjs hks
            fun entry hentry field entry' field' hform hform' => ?_
          obtain ⟨hkey, hvalue⟩ := hform
          obtain ⟨hkey', hvalue'⟩ := hform'
          rw [hkey, hkey']
          exact and_congr_right fun _ => ih entry hentry hvalue hvalue'
      | _ => exact numEq_iff_of_kind_ne hj hk (by simp [kind])
  | object o => cases hj

/-- A value has a structural form unless an object or a float that is not finite stands in it, at
any depth.  Otherwise the first of these in depth-first order is reported, with the type of the
object or as a float.  Forms are equal exactly if the values are; so values of different kinds never
have equal forms, nor have maps unless they have the same keys with equal values. -/
theorem toJson_faithful :
    (∀ v : Value, (∃ j, v.toJson = .ok j) ↔
        ∀ position u e, v.Contains position u → ¬u.Formless e) ∧
      (∀ v : Value, v.Ordered → ∀ e, v.toJson = .error e ↔
        ∃ position u, v.Contains position u ∧ u.Formless e ∧
          ∀ position' u' e', v.Contains position' u' → u'.Formless e' →
            position' = position ∨ position.Before position') ∧
      (∀ (v w : Value) (j k : Json), v.toJson = .ok j → w.toJson = .ok k →
        (v.numEq w = true ↔ j.numEq k = true) ∧ (v.kind ≠ w.kind → j.numEq k = false)) ∧
      ∀ (entries entries' : List (String × Value)) (j k : Json), Entries.Sorted entries →
        Entries.Sorted entries' → (map entries).toJson = .ok j → (map entries').toJson = .ok k →
          (j.numEq k = true ↔ (∀ key, key ∈ Entries.keys entries ↔ key ∈ Entries.keys entries') ∧
            ∀ key x y, Entries.lookup key entries = some x →
              Entries.lookup key entries' = some y → x.numEq y = true) := by
  refine ⟨fun v => exists_form_iff, fun v hv e => toJson_eq_error_iff hv,
    fun v w j k hj hk => ⟨numEq_iff_of_forms hj hk, fun hkind => ?_⟩,
    fun entries entries' j k h h' hj hk => ?_⟩
  · rw [← kind_of_form hj, ← kind_of_form hk] at hkind
    exact Json.numEq_of_kind_ne hkind
  · rw [← numEq_iff_of_forms hj hk, numEq_map_iff h h']

/-- The object under the second key comes after the float under the first one. -/
example :
    (map [("a", .list [.int 1, .float ⟨0x7ff0000000000000⟩]), ("b", .object ⟨0, "Car"⟩)]).toJson =
      .error (.conversion "float" (.notFinite ⟨0x7ff0000000000000⟩)) := by
  rfl

end Value
end ObjectBridge
