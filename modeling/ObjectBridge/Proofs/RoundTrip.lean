import ObjectBridge.Proofs.Decoding

/-!
# From native data to values and back

Decoding inverts encoding up to one collapse: an option that holds something whose value is
the missing one cannot be told from an empty option and comes back as the empty one.
`NativeType.settle` is that collapse.

Main results:

- Theorem `NativeType.encode_settle`: what is settled has the same value as before.
- Theorem `NativeType.decode_encode`: decoding the value of a datum gives the settled datum.
- Theorem `NativeType.encode_inj`: two data have one value exactly if they settle alike.
- Theorem `NativeType.settle_eq_self_iff`: nothing is lost exactly in the types in which no option
  directly holds a type with the missing value among its values.
- Theorem `NativeType.round_trip`: the four together.
-/

namespace ObjectBridge
namespace NativeType

/-! ## The types that values carry -/

/-- Whether values carry every member as it is: unsigned integers of 64 bits wrap around and
floats of single precision are widened, all others are carried unchanged. -/
def Carried : NativeType → Prop
  | int type => type ≠ .word64 ∧ type ≠ .wordSize
  | single => False
  | double | bool | text | unit | value | object => True
  | option inner | list inner | map inner => inner.Carried

instance decidableCarried : (t : NativeType) → Decidable t.Carried
  | int _ => inferInstanceAs (Decidable (_ ∧ _))
  | single => isFalse id
  | double | bool | text | unit | value | object => isTrue trivial
  | option inner | list inner | map inner => decidableCarried inner

/-- A word of 64 bits holds the members of every carried integer type. -/
theorem toInt_ofInt_of_holds {type : IntType} {n : Int} (htype : (int type).Carried)
    (hn : type.holds n) : (Int64.ofInt n).toInt = n := by
  obtain ⟨hlow, hhigh⟩ := hn
  apply Int64.toInt_ofInt_of_le
  · cases type <;> simp only [IntType.min] at hlow <;> omega
  · cases type with
    | word64 => exact absurd rfl htype.1
    | wordSize => exact absurd rfl htype.2
    | _ => simp only [IntType.max] at hhigh; omega

/-- An integer that is carried is decoded as itself. -/
theorem decodeInt_ofInt {type : IntType} (htype : (int type).Carried)
    (x : { n : Int // type.holds n }) : decodeInt type (Int64.ofInt x.val) = .ok x := by
  have hx : (Int64.ofInt x.val).toInt = x.val := toInt_ofInt_of_holds htype x.property
  simp only [decodeInt, hx, x.property, dite_true]

/-! ## Settled data -/

/-- The datum in which every option that holds something of the missing value is empty. -/
def settle : (t : NativeType) → t.Carrier → t.Carrier
  | int _, n => n
  | single, x => x
  | double, x => x
  | bool, b => b
  | text, s => s
  | unit, u => u
  | value, v => v
  | object, o => o
  | option _, none => none
  | option inner, some x => if (inner.encode x).isNone then none else some (inner.settle x)
  | list inner, items => List.map inner.settle items
  | map inner, entries => List.map (fun entry => (entry.1, inner.settle entry.2)) entries

/-- An option whose value is written as nothing settles as nothing. -/
theorem settle_some_of_none {inner : NativeType} {x : inner.Carrier}
    (h : inner.encode x = .none) : (option inner).settle (some x) = none :=
  if_pos (congrArg Value.isNone h)

/-- An option whose value is written as something settles as that. -/
theorem settle_some {inner : NativeType} {x : inner.Carrier} (h : inner.encode x ≠ .none) :
    (option inner).settle (some x) = some (inner.settle x) := by
  have hsome : (inner.encode x).isNone = false := by
    cases hv : inner.encode x with
    | none => exact absurd hv h
    | _ => rfl
  exact if_neg (Bool.eq_false_iff.1 hsome)

/-- Settling a datum does not change its value. -/
theorem encode_settle {t : NativeType} (x : t.Carrier) : t.encode (t.settle x) = t.encode x := by
  induction t with
  | int | single | double | bool | text | unit | value | object => rfl
  | option inner ih =>
      cases x with
      | none => rfl
      | some x =>
          by_cases h : inner.encode x = .none
          · rw [settle_some_of_none h]
            exact h.symm
          · rw [settle_some h]
            exact ih x
  | list inner ih =>
      refine congrArg Value.list ((List.map_map ..).trans (List.map_congr_left fun x _ => ?_))
      exact ih x
  | map inner ih =>
      refine congrArg Value.map ((List.map_map ..).trans (List.map_congr_left fun entry _ => ?_))
      exact congrArg (Prod.mk entry.1) (ih entry.2)

/-! ## Decoding what was encoded -/

/-- A traversal succeeds when each of its elements does. -/
theorem mapM_map_eq_ok {α β γ : Type} {f : α → β} {g : β → Except BridgeError γ} {h : α → γ}
    (hg : ∀ x, g (f x) = .ok (h x)) (xs : List α) : (xs.map f).mapM g = .ok (xs.map h) := by
  induction xs with
  | nil => rfl
  | cons x xs ih =>
      rw [List.map_cons, List.mapM_cons, hg x, ih]
      rfl

/-- Entries are decoded one by one. -/
theorem decodeEntries_map_eq_ok {α β : Type} {f : α → Value} {g : Value → Except BridgeError β}
    {h : α → β} (hg : ∀ x, g (f x) = .ok (h x)) (entries : List (String × α)) :
    decodeEntries g (entries.map fun entry => (entry.1, f entry.2)) =
      .ok (entries.map fun entry => (entry.1, h entry.2)) := by
  induction entries with
  | nil => rfl
  | cons entry entries ih =>
      rw [List.map_cons, decodeEntries, hg entry.2, ih]
      rfl

/-- Decoding the value of a datum gives the settled datum. -/
theorem decode_encode {t : NativeType} (ht : t.Carried) (x : t.Carrier) :
    t.decode (t.encode x) = .ok (t.settle x) := by
  induction t with
  | int type =>
      rw [encode, decode_int]
      exact decodeInt_ofInt ht x
  | single => exact ht.elim
  | double | bool | text | unit | value | object => rfl
  | option inner ih =>
      cases x with
      | none => rfl
      | some x =>
          by_cases h : inner.encode x = .none
          · rw [settle_some_of_none h, encode, h, decode_option]
          · rw [settle_some h, encode, decode_option_some h, ih ht x]
            rfl
  | list inner ih =>
      rw [encode, decode_list]
      exact mapM_map_eq_ok (ih ht) x
  | map inner ih =>
      rw [encode, decode_map]
      exact decodeEntries_map_eq_ok (ih ht) x

/-- Two data have one value exactly if they settle alike. -/
theorem encode_inj {t : NativeType} (ht : t.Carried) {x y : t.Carrier} :
    t.encode x = t.encode y ↔ t.settle x = t.settle y := by
  constructor
  · intro h
    have hx := decode_encode ht x
    rw [h, decode_encode ht y] at hx
    exact (Except.ok.inj hx).symm
  · intro h
    rw [← encode_settle x, h, encode_settle y]

/-! ## Where nothing is lost -/

/-- Whether the missing value is the value of a member. -/
def Nullable (t : NativeType) : Prop :=
  ∃ x : t.Carrier, t.encode x = .none

instance decidableNullable : (t : NativeType) → Decidable t.Nullable
  | unit => isTrue ⟨(), rfl⟩
  | value => isTrue ⟨Value.none, rfl⟩
  | option _ => isTrue ⟨none, rfl⟩
  | int _ | single | double | bool | text | object | list _ | map _ =>
    isFalse fun ⟨_, h⟩ => Value.noConfusion h

/-- Whether no option directly holds a type with the missing value among its values. -/
def Lossless : NativeType → Prop
  | int _ | single | double | bool | text | unit | value | object => True
  | option inner => ¬inner.Nullable ∧ inner.Lossless
  | list inner | map inner => inner.Lossless

instance decidableLossless : (t : NativeType) → Decidable t.Lossless
  | int _ | single | double | bool | text | unit | value | object => isTrue trivial
  | option inner =>
    have := decidableLossless inner
    inferInstanceAs (Decidable (_ ∧ _))
  | list inner | map inner => decidableLossless inner

/-- A value of a type without losses settles as itself. -/
theorem settle_of_lossless {t : NativeType} (ht : t.Lossless) (x : t.Carrier) :
    t.settle x = x := by
  induction t with
  | int | single | double | bool | text | unit | value | object => rfl
  | option inner ih =>
      cases x with
      | none => rfl
      | some x =>
          have hx : inner.encode x ≠ .none := fun h => ht.1 ⟨x, h⟩
          rw [settle_some hx, ih ht.2 x]
  | list inner ih =>
      have hitems : inner.settle = id := funext (ih ht)
      rw [settle, hitems]
      exact List.map_id x
  | map inner ih =>
      have hentries :
          (fun entry : String × inner.Carrier => (entry.1, inner.settle entry.2)) = id :=
        funext fun entry => congrArg (Prod.mk entry.1) (ih ht entry.2)
      rw [settle, hentries]
      exact List.map_id x

/-- A type all of whose values settle as themselves has no losses. -/
theorem lossless_of_settle {t : NativeType} (ht : ∀ x, t.settle x = x) : t.Lossless := by
  induction t with
  | int | single | double | bool | text | unit | value | object => trivial
  | option inner ih =>
      have hinner : ¬inner.Nullable := by
        rintro ⟨x, hx⟩
        have h := ht (some x)
        rw [settle_some_of_none hx] at h
        cases h
      refine ⟨hinner, ih fun x => ?_⟩
      have h := ht (some x)
      rw [settle_some fun hx => hinner ⟨x, hx⟩] at h
      exact Option.some.inj h
  -- A member that is not settled leaves a list or a map of this one member unsettled.
  | list inner ih => exact ih fun x => List.head_eq_of_cons_eq (ht [x])
  | map inner ih => exact ih fun x => congrArg Prod.snd (List.head_eq_of_cons_eq (ht [("", x)]))

/-- So these are the types without losses. -/
theorem settle_eq_self_iff {t : NativeType} : (∀ x, t.settle x = x) ↔ t.Lossless :=
  ⟨lossless_of_settle, settle_of_lossless⟩

/-- Encoding and decoding a datum settles it, settling is all that is lost, and the types in
which no option directly holds a type with the missing value are those that lose nothing. -/
theorem round_trip {t : NativeType} (ht : t.Carried) :
    (∀ x, t.decode (t.encode x) = .ok (t.settle x)) ∧
      (∀ x y, t.encode x = t.encode y ↔ t.settle x = t.settle y) ∧
      ((∀ x, t.decode (t.encode x) = .ok x) ↔ t.Lossless) := by
  refine ⟨decode_encode ht, fun _ _ => encode_inj ht, ?_⟩
  rw [← settle_eq_self_iff]
  refine forall_congr' fun x => ?_
  rw [decode_encode ht x]
  exact ⟨Except.ok.inj, congrArg Except.ok⟩

/-- Inside a map of lists, an option that holds an empty option or the missing value is emptied, and
one that holds an empty list is kept. -/
theorem round_trip_nested :
    (map (list (option (option (list value))))).Carried ∧
      (map (list (option (option (list value))))).decode
          ((map (list (option (option (list value))))).encode
            [("a", [some none, some (some []), none]), ("b", [some (some [Value.none])])]) =
        .ok [("a", [none, some (some []), none]), ("b", [some (some [Value.none])])] :=
  ⟨by decide, (round_trip (t := map (list (option (option (list value))))) (by decide)).1 _⟩

example : ¬(list (option unit)).Lossless ∧ (map (option (list (option text)))).Lossless := by decide

end NativeType
end ObjectBridge
