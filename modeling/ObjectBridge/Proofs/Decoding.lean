import ObjectBridge.Value.Native

/-!
# Laws of decoding

The equations of decoding, type by type, and the kind of its failures.

Main results:

- Theorems `NativeType.decode_list`, `NativeType.decode_map` and so on: what a type
  accepts.
- Theorem `NativeType.kind_of_decode`: decoding fails with a conversion only.
-/

namespace ObjectBridge

variable {α β : Type}

namespace NativeType

/-! ## Equations -/

/-- An integer type takes integers that fit, and nothing else. -/
theorem decode_int (type : IntType) (v : Value) :
    (int type).decode v =
      match v with
      | .int n => decodeInt type n
      | v => .error (mismatch v type.name) := by
  cases v <;> rfl

/-- Single precision takes numbers, rounded if need be. -/
theorem decode_single (v : Value) :
    single.decode v =
      match v with
      | .float x => .ok x.toSingle
      | .int n => .ok (Double.ofInt n.toInt).toSingle
      | v => .error (mismatch v "f64") := by
  cases v <;> rfl

/-- Double precision takes numbers, integers rounded if need be. -/
theorem decode_double (v : Value) :
    double.decode v =
      match v with
      | .float x => .ok x
      | .int n => .ok (Double.ofInt n.toInt)
      | v => .error (mismatch v "f64") := by
  cases v <;> rfl

/-- Truth values are taken as they are. -/
theorem decode_bool (v : Value) :
    bool.decode v =
      match v with
      | .bool b => .ok b
      | v => .error (mismatch v "bool") := by
  cases v <;> rfl

/-- Texts are taken as they are. -/
theorem decode_text (v : Value) :
    text.decode v =
      match v with
      | .str s => .ok s
      | v => .error (mismatch v "str") := by
  cases v <;> rfl

/-- Objects are taken as they are. -/
theorem decode_object (v : Value) :
    object.decode v =
      match v with
      | .object o => .ok o
      | v => .error (mismatch v "foreign object") := by
  cases v <;> rfl

/-- Nothing is missing, and anything else is decoded as what is optional. -/
theorem decode_option (inner : NativeType) (v : Value) :
    (option inner).decode v =
      match v with
      | .none => .ok none
      | v => (inner.decode v).map some := by
  cases v <;> rfl

/-- What is not nothing is decoded as what is optional. -/
theorem decode_option_some {inner : NativeType} {v : Value} (h : v ≠ .none) :
    (option inner).decode v = (inner.decode v).map some := by
  cases v with
  | none => exact absurd rfl h
  | _ => rfl

/-- A list is decoded item by item. -/
theorem decode_list (inner : NativeType) (v : Value) :
    (list inner).decode v =
      match v with
      | .list items => items.mapM inner.decode
      | v => .error (mismatch v "list") := by
  cases v <;> rfl

/-- A map is decoded entry by entry. -/
theorem decode_map (inner : NativeType) (v : Value) :
    (map inner).decode v =
      match v with
      | .map entries => decodeEntries inner.decode entries
      | v => .error (mismatch v "map") := by
  cases v <;> rfl

end NativeType

/-! ## Kinds of failures -/

/-- What is made of a result fails as the result did. -/
theorem error_of_map {f : α → β} {r : Except BridgeError α} {e : BridgeError}
    (h : r.map f = .error e) : r = .error e := by
  cases r with
  | ok x => cases h
  | error e' => exact congrArg _ (Except.error.inj h)

/-- A traversal fails in one of its elements. -/
theorem kind_of_mapM {f : α → Except BridgeError β} {kind : String}
    (hf : ∀ x e, f x = .error e → e.kind = kind) {xs : List α} {e : BridgeError}
    (h : xs.mapM f = .error e) : e.kind = kind := by
  induction xs with
  | nil => cases h
  | cons x xs ih =>
      rw [List.mapM_cons] at h
      cases hx : f x with
      | error e' =>
          rw [hx] at h
          cases h
          exact hf x e hx
      | ok y =>
          rw [hx] at h
          cases hxs : xs.mapM f with
          | error e' =>
              rw [hxs] at h
              cases h
              exact ih hxs
          | ok ys =>
              rw [hxs] at h
              cases h

/-- A map whose values fail with errors of conversion does so itself. -/
theorem NativeType.kind_of_decodeEntries {decode : Value → Except BridgeError α}
    (hdecode : ∀ v e, decode v = .error e → e.kind = "conversion")
    {entries : List (String × Value)} {e : BridgeError}
    (h : decodeEntries decode entries = .error e) : e.kind = "conversion" := by
  induction entries with
  | nil => cases h
  | cons entry entries ih =>
      obtain ⟨key, v⟩ := entry
      rw [decodeEntries] at h
      cases hv : decode v with
      | error e' =>
          rw [hv] at h
          cases h
          exact hdecode v e hv
      | ok x =>
          rw [hv] at h
          cases hrest : decodeEntries decode entries with
          | error e' =>
              rw [hrest] at h
              cases h
              exact ih hrest
          | ok xs =>
              rw [hrest] at h
              cases h

/-- A value of another type is an error of conversion. -/
theorem NativeType.kind_of_mismatch {v : Value} {expected : String} {e : BridgeError}
    (h : (.error (mismatch v expected) : Except BridgeError α) = .error e) :
    e.kind = "conversion" := by
  cases h
  rfl

/-- An integer that does not fit is an error of conversion. -/
theorem NativeType.kind_of_decodeInt {type : IntType} {n : Int64} {e : BridgeError}
    (h : decodeInt type n = .error e) : e.kind = "conversion" := by
  rw [decodeInt] at h
  split at h
  · cases h
  · rw [← Except.error.inj h]
    rfl

/-- A value that does not conform to a native type fails as a conversion. -/
theorem NativeType.kind_of_decode {type : NativeType} {v : Value} {e : BridgeError}
    (h : type.decode v = .error e) : e.kind = "conversion" := by
  induction type generalizing v e with
  | int type =>
      rw [decode_int] at h
      cases v with
      | int n => exact kind_of_decodeInt h
      | _ => exact kind_of_mismatch h
  | single =>
      rw [decode_single] at h
      cases v with
      | float x => cases h
      | int n => cases h
      | _ => exact kind_of_mismatch h
  | double =>
      rw [decode_double] at h
      cases v with
      | float x => cases h
      | int n => cases h
      | _ => exact kind_of_mismatch h
  | bool =>
      rw [decode_bool] at h
      cases v with
      | bool b => cases h
      | _ => exact kind_of_mismatch h
  | text =>
      rw [decode_text] at h
      cases v with
      | str s => cases h
      | _ => exact kind_of_mismatch h
  | unit | value => cases h
  | object =>
      rw [decode_object] at h
      cases v with
      | object o => cases h
      | _ => exact kind_of_mismatch h
  | option inner ih =>
      rw [decode_option] at h
      cases v with
      | none => cases h
      | _ => exact ih (error_of_map h)
  | list inner ih =>
      rw [decode_list] at h
      cases v with
      | list items => exact kind_of_mapM (fun _ _ => ih) h
      | _ => exact kind_of_mismatch h
  | map inner ih =>
      rw [decode_map] at h
      cases v with
      | map entries => exact kind_of_decodeEntries (fun _ _ => ih) h
      | _ => exact kind_of_mismatch h

end ObjectBridge
