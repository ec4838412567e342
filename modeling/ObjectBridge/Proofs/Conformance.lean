import ObjectBridge.Proofs.FirstFaults
import ObjectBridge.Proofs.Positions

/-!
# Conforming values

A value conforms to a native type if the type takes it and all that is in it.  Where it does not,
decoding reports the first misfit in depth-first order: items in the order of their list, entries
in the order of their keys.

Main results:

- Definition `NativeType.Misfits`: the positions of a value at which another type is expected.
- Theorem `NativeType.decode_reports`: decoding reports the first of the listed misfits.
- Theorem `NativeType.mem_misfits_iff`: the misfits are listed.
- Theorem `NativeType.misfits_ordered`: they are listed in depth-first order.
- Theorem `NativeType.decode_conforms`: decoding accepts the values that conform, and reports the
  first misfit of any other value.
-/

namespace ObjectBridge
namespace NativeType

/-- The type that is expected of a part. -/
def part? : NativeType → Branch → Option NativeType
  | option inner, branch => inner.part? branch
  | list inner, .item _ => some inner
  | map inner, .entry _ => some inner
  | _, _ => none

/-! ## Misfits -/

/-- Whether a type takes a value, whatever its parts are. -/
def takes : NativeType → Value → Bool
  | int type, .int n => decide (type.holds n.toInt)
  | single, .float _ | single, .int _ | double, .float _ | double, .int _ => true
  | bool, .bool _ | text, .str _ | object, .object _ => true
  | unit, _ | value, _ => true
  | option _, .none => true
  | option inner, v => inner.takes v
  | list _, .list _ | map _, .map _ => true
  | _, _ => false

/-- A type without the options around it. -/
def bare : NativeType → NativeType
  | option inner => inner.bare
  | t => t

/-- Why a type that is no option does not take a value. -/
def complaint : NativeType → Value → Cause
  | int type, .int n => .outOfRange n.toInt type.name
  | t, _ => .expected t.expectation

/-- A value in another one that is not taken where it stands: its position, the type expected
there, without options, and the value. -/
structure Misfit where
  position : Position
  expected : NativeType
  value : Value

namespace Misfit

/-- The error of a misfit. -/
def error (m : Misfit) : BridgeError :=
  .conversion m.value.typeName (m.expected.complaint m.value)

/-- A misfit of a part as one of the whole. -/
def under (branch : Branch) (m : Misfit) : Misfit :=
  { m with position := branch :: m.position }

/-- Where a misfit is does not matter for its error. -/
theorem errors_under (branch : Branch) (ms : List Misfit) :
    (ms.map (under branch)).map error = ms.map error := by
  rw [List.map_map]
  rfl

end Misfit

/-- The misfits of a value, at any position. -/
inductive Misfits : NativeType → Value → Misfit → Prop where
  | here {t : NativeType} {v : Value} (refused : t.takes v = false) :
      Misfits t v ⟨[], t.bare, v⟩
  | within {t t' : NativeType} {v u : Value} {branch : Branch} {m : Misfit}
      (type : t.part? branch = some t') (part : v.part? branch = some u)
      (inside : Misfits t' u m) : Misfits t v (m.under branch)

/-- The misfits of the parts of a value, part by part. -/
def misfitsOfParts (misfits : Value → List Misfit) (v : Value) : List Misfit :=
  v.parts.flatMap fun part => (misfits part.2).map (.under part.1)

/-- The misfits of a value in the order in which its positions are met. -/
def misfits : NativeType → Value → List Misfit
  | option _, .none => []
  | option inner, v => inner.misfits v
  | list inner, .list items => misfitsOfParts inner.misfits (.list items)
  | map inner, .map entries => misfitsOfParts inner.misfits (.map entries)
  | t, v => if t.takes v then [] else [⟨[], t.bare, v⟩]

/-! ## What types look at -/

variable {t inner : NativeType} {v : Value} {m : Misfit} {e : BridgeError}

/-- An optional type takes whatever its inner type takes, and nothing. -/
theorem takes_option (hv : v ≠ .none) : (option inner).takes v = inner.takes v := by
  cases v with
  | none => exact absurd rfl hv
  | _ => rfl

/-- What is not nothing conforms to an optional type as it does to the inner one. -/
theorem conforms_option (hv : v ≠ .none) : (option inner).conforms v = inner.conforms v := by
  cases v with
  | none => exact absurd rfl hv
  | _ => rfl

/-- So it has the misfits that it has there. -/
theorem misfits_option (hv : v ≠ .none) : (option inner).misfits v = inner.misfits v := by
  cases v with
  | none => exact absurd rfl hv
  | _ => rfl

/-- A type that looks at a value only, not at its parts. -/
structure Plain (t : NativeType) (v : Value) : Prop where
  part : ∀ branch, t.part? branch = none ∨ v.part? branch = none
  misfits : t.misfits v = if t.takes v then [] else [⟨[], t.bare, v⟩]
  conforms : t.conforms v = t.takes v
  decode : Reports (t.decode v) (if t.takes v then [] else [Misfit.error ⟨[], t.bare, v⟩])

/-- A type that takes a value and expects another type of its parts. -/
structure Holds (t inner : NativeType) (v : Value) : Prop where
  part : ∀ branch u, v.part? branch = some u → t.part? branch = some inner
  misfits : t.misfits v = misfitsOfParts inner.misfits v
  takes : t.takes v = true
  conforms : t.conforms v = v.parts.all fun part => inner.conforms part.2
  decode : ∀ faults : Value → List BridgeError, (∀ u, Reports (inner.decode u) (faults u)) →
    Reports (t.decode v) (v.parts.flatMap fun part => faults part.2)

/-- An integer is refused when it is out of range. -/
theorem reports_decodeInt (type : IntType) (n : Int64) :
    Reports (decodeInt type n)
      (if type.holds n.toInt then [] else [.conversion "int" (.outOfRange n.toInt type.name)]) := by
  rw [decodeInt]
  by_cases h : type.holds n.toInt
  · simp only [h, dite_true, if_true]
    exact .ok _
  · simp only [h, dite_false, if_false]
    exact .error _ _

/-- Entries are refused for the faults of their values, in their order. -/
theorem reports_decodeEntries {α : Type} {decode : Value → Except BridgeError α}
    {faults : Value → List BridgeError} {entries : List (String × Value)}
    (h : ∀ entry ∈ entries, Reports (decode entry.2) (faults entry.2)) :
    Reports (decodeEntries decode entries) ((entries.map Prod.snd).flatMap faults) := by
  induction entries with
  | nil => exact .ok []
  | cons entry entries ih =>
      obtain ⟨hfirst, hrest⟩ := List.forall_mem_cons.mp h
      rw [decodeEntries, List.map_cons, List.flatMap_cons]
      apply Reports.bind hfirst
      intro x _
      exact .bind_ok ((entry.1, x) :: ·) (ih hrest)

/-- A value has no parts for an integer type. -/
theorem plain_int (type : IntType) (v : Value) : (int type).Plain v where
  part _ := .inl rfl
  misfits := rfl
  conforms := by cases v <;> rfl
  decode := by
    cases v with
    | int n =>
        show Reports (decodeInt type n) (if decide (type.holds n.toInt) = true then [] else _)
        simp only [decide_eq_true_eq]
        exact reports_decodeInt type n
    | _ => exact .error _ _

/-- A value that is no list has no parts for a list type. -/
theorem plain_list (hv : v.kind ≠ .list) : (list inner).Plain v := by
  cases v with
  | list items => exact absurd rfl hv
  | _ => exact ⟨fun branch => by cases branch <;> simp [part?, Value.part?], rfl, rfl, .error _ _⟩

/-- A value that is no map has no parts for a map type. -/
theorem plain_map (hv : v.kind ≠ .map) : (map inner).Plain v := by
  cases v with
  | map entries => exact absurd rfl hv
  | _ => exact ⟨fun branch => by cases branch <;> simp [part?, Value.part?], rfl, rfl, .error _ _⟩

/-- The items of a list are the parts that a list type has in it. -/
theorem holds_list (inner : NativeType) (items : List Value) :
    (list inner).Holds inner (.list items) where
  part branch u hu := by
    cases branch with
    | item i => rfl
    | entry key => cases hu
  misfits := rfl
  takes := rfl
  conforms := by
    rw [Value.all_parts, Value.values_list]
    rfl
  decode faults h := by
    rw [Value.flatMap_parts, Value.values_list]
    exact .mapM fun u _ => h u

/-- The values of a map are the parts that a map type has in it. -/
theorem holds_map (inner : NativeType) (entries : List (String × Value)) :
    (map inner).Holds inner (.map entries) where
  part branch u hu := by
    cases branch with
    | item i => cases hu
    | entry key => rfl
  misfits := rfl
  takes := rfl
  conforms := by
    rw [Value.all_parts, Value.values_map, List.all_map]
    rfl
  decode faults h := by
    rw [Value.flatMap_parts, Value.values_map]
    exact reports_decodeEntries fun entry _ => h entry.2

/-- A property of types and values holds if it holds of options, of types that look at the value
only, and of types that expect another type of its parts. -/
@[elab_as_elim]
theorem shape_induction {P : NativeType → Value → Prop}
    (missing : ∀ inner, P (option inner) .none)
    (given : ∀ inner v, v ≠ .none → P inner v → P (option inner) v)
    (plain : ∀ t v, t.Plain v → P t v)
    (parts : ∀ t inner v, t.Holds inner v → (∀ u, P inner u) → P t v) (t : NativeType)
    (v : Value) : P t v := by
  induction t generalizing v with
  | int type => exact plain _ _ (plain_int type v)
  | single | double | bool | text | unit | value | object =>
    apply plain
    constructor
    · exact fun _ => .inl rfl
    · rfl
    · cases v <;> rfl
    · cases v <;> first | exact .ok _ | exact .error _ _
  | option inner ih =>
      by_cases hnone : v = .none
      · subst hnone
        exact missing inner
      · exact given inner v hnone (ih v)
  | list inner ih =>
      cases v with
      | list items => exact parts _ _ _ (holds_list inner items) ih
      | _ => exact plain _ _ (plain_list nofun)
  | map inner ih =>
      cases v with
      | map entries => exact parts _ _ _ (holds_map inner entries) ih
      | _ => exact plain _ _ (plain_map nofun)

/-! ## The list of misfits -/

/-- A value conforms exactly if it has no misfits. -/
theorem conforms_iff_misfits_eq_nil : t.conforms v = true ↔ t.misfits v = [] := by
  induction t, v using shape_induction with
  | missing inner => exact ⟨fun _ => rfl, fun _ => rfl⟩
  | given inner v hv ih => rwa [conforms_option hv, misfits_option hv]
  | plain t v h =>
      rw [h.conforms, h.misfits]
      cases t.takes v <;> simp
  | parts t inner v h ih =>
      rw [h.conforms, h.misfits]
      simp [misfitsOfParts, ih]

/-- Decoding reports the first of the misfits that are listed. -/
theorem decode_reports : Reports (t.decode v) ((t.misfits v).map Misfit.error) := by
  induction t, v using shape_induction with
  | missing inner => exact .ok none
  | given inner v hv ih =>
      rw [decode_option_some hv, misfits_option hv]
      exact .map some ih
  | plain t v h =>
      have hdecode := h.decode
      rw [h.misfits]
      cases htakes : t.takes v with
      | true => rwa [htakes] at hdecode
      | false => rwa [htakes] at hdecode
  | parts t inner v h ih =>
      have hdecode := h.decode _ ih
      rw [h.misfits, misfitsOfParts, List.map_flatMap]
      simp only [Misfit.errors_under]
      exact hdecode

/-- Nothing is no misfit for an optional type. -/
theorem not_misfits_none : ¬(option inner).Misfits .none m := by
  intro h
  cases h with
  | here refused => cases refused
  | within _ part _ => cases part

/-- Nothing else is expected of an option that is not missing than of what it holds. -/
theorem misfits_iff_option (hv : v ≠ .none) : (option inner).Misfits v m ↔ inner.Misfits v m := by
  have htakes : (option inner).takes v = inner.takes v := takes_option hv
  constructor
  · intro h
    cases h with
    | here refused => exact .here (htakes.symm.trans refused)
    | within type part inside => exact .within type part inside
  · intro h
    cases h with
    | here refused => exact .here (t := option inner) (htakes.trans refused)
    | within type part inside => exact .within (t := option inner) type part inside

/-- What a type refuses that looks at the value only is the value itself. -/
theorem Plain.misfits_iff (h : t.Plain v) :
    t.Misfits v m ↔ t.takes v = false ∧ m = ⟨[], t.bare, v⟩ := by
  constructor
  · intro hm
    cases hm with
    | here refused => exact ⟨refused, rfl⟩
    | within type part inside =>
        rcases h.part _ with hnone | hnone
        · cases hnone.symm.trans type
        · cases hnone.symm.trans part
  · rintro ⟨refused, rfl⟩
    exact .here refused

/-- The misfits of a value that is taken are those of its parts. -/
theorem Holds.misfits_iff (h : t.Holds inner v) :
    t.Misfits v m ↔
      ∃ branch u n, v.part? branch = some u ∧ m = n.under branch ∧ inner.Misfits u n := by
  constructor
  · intro hm
    cases hm with
    | here refused => cases h.takes.symm.trans refused
    | @within _ _ _ u branch n type part inside =>
        cases (h.part branch u part).symm.trans type
        exact ⟨branch, u, n, part, rfl, inside⟩
  · rintro ⟨branch, u, n, part, rfl, inside⟩
    exact .within (h.part branch u part) part inside

/-- The misfits of a value are listed. -/
theorem mem_misfits_iff (hv : v.Ordered) : m ∈ t.misfits v ↔ t.Misfits v m := by
  induction t, v using shape_induction generalizing m with
  | missing inner => simp [misfits, not_misfits_none]
  | given inner v hsome ih =>
      rw [misfits_option hsome, misfits_iff_option hsome]
      exact ih hv
  | plain t v h =>
      rw [h.misfits_iff, h.misfits]
      cases t.takes v <;> simp
  | parts t inner v h ih =>
      rw [h.misfits_iff, h.misfits, misfitsOfParts, List.mem_flatMap]
      constructor
      · rintro ⟨⟨branch, u⟩, hu, hm⟩
        obtain ⟨n, hn, rfl⟩ := List.mem_map.mp hm
        exact ⟨branch, u, n, (Value.mem_parts_iff hv).mp hu, rfl, (ih u (hv.part hu)).mp hn⟩
      · rintro ⟨branch, u, n, hu, rfl, inside⟩
        have hpart := (Value.mem_parts_iff hv).mpr hu
        have hn := (ih u (hv.part hpart)).mpr inside
        exact ⟨(branch, u), hpart, List.mem_map_of_mem hn⟩

/-- The misfits are listed in depth-first order. -/
theorem misfits_ordered (hv : v.Ordered) :
    (t.misfits v).Pairwise fun m m' => m.position.Before m'.position := by
  induction t, v using shape_induction with
  | missing inner => exact .nil
  | given inner v hsome ih =>
      rw [misfits_option hsome]
      exact ih hv
  | plain t v h =>
      rw [h.misfits]
      cases t.takes v <;> simp
  | parts t inner v h ih =>
      rw [h.misfits, misfitsOfParts, List.pairwise_flatMap]
      constructor
      · rintro ⟨branch, u⟩ hu
        rw [List.pairwise_map]
        exact (ih u (hv.part hu)).imp .cons
      · refine (Value.parts_ordered hv).imp fun hbefore m hm m' hm' => ?_
        obtain ⟨n, -, rfl⟩ := List.mem_map.mp hm
        obtain ⟨n', -, rfl⟩ := List.mem_map.mp hm'
        exact .rel hbefore

/-! ## Decoding -/

/-- A complaint ends with the name of the type that is expected. -/
theorem complaint_message (t : NativeType) (v : Value) :
    ∃ told, (t.complaint v).message = told ++ t.expectation := by
  cases t with
  | int type =>
      cases v with
      | int n => exact ⟨toString n.toInt ++ " is out of range for ", rfl⟩
      | _ => exact ⟨"expected ", rfl⟩
  | _ => exact ⟨"expected ", rfl⟩

/-- Decoding accepts the values that conform.  Any other value is refused for its first misfit in
depth-first order: with the name of the type that stands there and the type that is expected. -/
theorem decode_conforms (t : NativeType) (v : Value) :
    ((∃ x, t.decode v = .ok x) ↔ t.conforms v = true) ∧
      (v.Ordered → ∀ e, t.decode v = .error e ↔ ∃ m told, t.Misfits v m ∧
        (∀ m', t.Misfits v m' → m'.position = m.position ∨ m.position.Before m'.position) ∧
        e = .conversion m.value.typeName (m.expected.complaint m.value) ∧
        (m.expected.complaint m.value).message = told ++ m.expected.expectation) := by
  have hreports := decode_reports (t := t) (v := v)
  constructor
  · rw [hreports.exists_ok_iff, List.map_eq_nil_iff, conforms_iff_misfits_eq_nil]
  · intro hv e
    rw [hreports.eq_error_iff, List.head?_map, Option.map_eq_some_iff]
    simp only [Position.head?_eq_some_iff (misfits_ordered hv), mem_misfits_iff hv]
    constructor
    · rintro ⟨m, ⟨hm, hfirst⟩, rfl⟩
      obtain ⟨told, htold⟩ := complaint_message m.expected m.value
      exact ⟨m, told, hm, hfirst, rfl, htold⟩
    · rintro ⟨m, told, hm, hfirst, rfl, -⟩
      exact ⟨m, ⟨hm, hfirst⟩, rfl⟩

/-- A map of lists of bytes, some of them missing: the second item under the second key is out of
range, and what comes after it does not count. -/
theorem decode_conforms_bytes :
    let t := map (list (option (int .word8)))
    let v := Value.map [("a", .list [.int 1, .none]), ("b", .list [.int 2, .int 300, .str "x"])]
    v.Ordered ∧ t.conforms v = false ∧ ∃ m, t.Misfits v m ∧
      (∀ m', t.Misfits v m' → m'.position = m.position ∨ m.position.Before m'.position) ∧
      m.error = .conversion "int" (.outOfRange 300 "u8") := by
  intro t v
  have hordered : v.Ordered := by
    refine .map (by decide) fun entry hentry => ?_
    rcases List.mem_pair.mp hentry with rfl | rfl
    · refine .list fun item hitem => ?_
      rcases List.mem_pair.mp hitem with rfl | rfl <;> exact .scalar nofun nofun
    · refine .list fun item hitem => ?_
      simp only [List.mem_cons, List.not_mem_nil, or_false] at hitem
      rcases hitem with rfl | rfl | rfl <;> exact .scalar nofun nofun
  have hv : t.decode v = .error (.conversion "int" (.outOfRange 300 "u8")) := rfl
  obtain ⟨hconforms, hmisfit⟩ := decode_conforms t v
  obtain ⟨m, -, hm, hfirst, he, -⟩ := (hmisfit hordered _).mp hv
  refine ⟨hordered, Bool.eq_false_iff.mpr fun htrue => ?_, m, hm, hfirst, he.symm⟩
  obtain ⟨x, hx⟩ := hconforms.mpr htrue
  cases hv.symm.trans hx

end NativeType
end ObjectBridge
