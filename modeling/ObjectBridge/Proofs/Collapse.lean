import ObjectBridge.Host.Script
import ObjectBridge.Proofs.Accounting
import ObjectBridge.Proofs.Decoding
import ObjectBridge.Proofs.Equality
import ObjectBridge.Proofs.TwinSessions

/-!
# What collapsed results lose

The results of a call become one value, so that some results can no longer be told apart.  Which
ones does not depend on whether values are compared as data, or as the bridge compares them: floats
as numbers and objects by handle.

Main results:

- Definition `Merged`: the results that become alike.
- Theorem `Compares.collapse_iff`: two lists of results become alike values exactly if they are
  merged.
- Theorem `decode_collapse_eq_ok_iff`: decoded as a list, results are given back exactly if there
  are two or more of them.
- Theorem `Bridge.unmarshal_told_apart`: both of the results of calls.
-/

namespace ObjectBridge

variable {σ : Type}

/-! ## Ways to compare values -/

/-- A way to compare values in which the missing value is like itself only, and a list like the
lists of like items only. -/
structure Compares (same : Value → Value → Prop) : Prop where
  none_iff : ∀ v, same .none v ↔ v = .none
  iff_none : ∀ v, same v .none ↔ v = .none
  list_iff : ∀ xs v, same (.list xs) v ↔ ∃ ys, v = .list ys ∧ List.Forall₂ same xs ys
  iff_list : ∀ v ys, same v (.list ys) ↔ ∃ xs, v = .list xs ∧ List.Forall₂ same xs ys

/-- Equality of data. -/
theorem Compares.eq : Compares (· = ·) where
  none_iff _ := eq_comm
  iff_none _ := Iff.rfl
  list_iff xs v := by simp [List.forall₂_eq_eq_eq, eq_comm]
  iff_list v ys := by simp [List.forall₂_eq_eq_eq]

/-- Equality of values as the bridge compares them. -/
theorem Compares.numEq : Compares (fun v w => Value.numEq v w = true) where
  none_iff v := by cases v <;> simp [Value.numEq]
  iff_none v := by cases v <;> simp [Value.numEq]
  list_iff xs v := by cases v <;> simp [Value.numEq, Value.numEqItems_iff]
  iff_list v ys := by cases v <;> simp [Value.numEq, Value.numEqItems_iff]

/-! ## Merged results -/

/-- Lists of results that become alike values: like lists, no result and the missing value, or a
list alone and its items, if these are two or more. -/
def Merged (like : List Value → List Value → Prop) (rs ss : List Value) : Prop :=
  like rs ss ∨ (rs = [] ∧ ss = [.none]) ∨ (rs = [.none] ∧ ss = []) ∨
    (∃ xs, rs = [.list xs] ∧ like xs ss ∧ 2 ≤ ss.length) ∨
    ∃ ys, ss = [.list ys] ∧ like rs ys ∧ 2 ≤ rs.length

/-- Lists of results become alike values exactly if they are merged. -/
theorem Compares.collapse_iff {same : Value → Value → Prop} (h : Compares same)
    (rs ss : List Value) :
    same (collapse rs) (collapse ss) ↔ Merged (List.Forall₂ same) rs ss := by
  -- The cases are those of the collapse, for each of the two lists.
  cases rs with
  | nil =>
      cases ss with
      | nil => simp [collapse, Merged, h.none_iff]
      | cons w ws => cases ws <;> simp [collapse, Merged, h.none_iff]
  | cons v vs =>
      cases vs with
      | nil =>
          cases ss with
          | nil => simp [collapse, Merged, h.iff_none]
          | cons w ws => cases ws <;> simp [collapse, Merged, h.iff_list]
      | cons v' vs =>
          cases ss with
          | nil => simp [collapse, Merged, h.iff_none]
          | cons w ws => cases ws <;> simp [collapse, Merged, h.list_iff]

/-! ## Collapsed results decoded -/

namespace NativeType

/-- The members of a list of values are lists of values. -/
theorem ok_values_inj {xs ys : List Value} :
    (.ok xs : Except BridgeError (list value).Carrier) = .ok ys ↔ xs = ys := by
  constructor
  · intro h
    exact Except.ok.inj h
  · rintro rfl
    rfl

/-- Values are decoded as themselves. -/
theorem mapM_value (items : List Value) : items.mapM value.decode = .ok items := by
  induction items with
  | nil => rfl
  | cons v items ih =>
      rw [List.mapM_cons, ih]
      rfl

/-- A list of values is decoded as its items. -/
theorem decode_values (v : Value) :
    (list value).decode v =
      match v with
      | .list items => .ok items
      | v => .error (mismatch v "list") := by
  rw [decode_list]
  cases v with
  | list items => exact mapM_value items
  | _ => rfl

variable {rs xs : List Value} {e : BridgeError}

/-- A list is decoded from a list alone, or from two or more results. -/
theorem decode_collapse_eq_ok_iff :
    (list value).decode (collapse rs) = .ok xs ↔ rs = [.list xs] ∨ rs = xs ∧ 2 ≤ rs.length := by
  rw [decode_values]
  cases rs with
  | nil => simp [collapse]
  | cons v vs =>
      cases vs with
      | nil => cases v <;> simp [collapse, ok_values_inj]
      | cons v' vs => simp [collapse, ok_values_inj]

/-- Collapsed results are no list when there are fewer than two and the one is no list. -/
theorem decode_collapse_eq_error_iff :
    (list value).decode (collapse rs) = .error e ↔
      (rs.length < 2 ∧ ∀ xs, rs ≠ [.list xs]) ∧
        e = .conversion (collapse rs).typeName (.expected "list") := by
  rw [decode_values]
  cases rs with
  | nil => simp [collapse, mismatch, eq_comm]
  | cons v vs =>
      cases vs with
      | nil => cases v <;> simp [collapse, mismatch, eq_comm]
      | cons v' vs =>
          have hlong : ¬vs.length + 1 + 1 < 2 := by omega
          simp [collapse, hlong]

end NativeType

/-- No list has itself as its only item. -/
theorem ne_singleton_list (rs : List Value) : rs ≠ [.list rs] := by
  intro h
  have hsize := congrArg sizeOf h
  simp at hsize
  omega

/-! ## Results of calls -/

namespace Bridge

variable (b : Bridge σ) {token : StateToken} {p : Proxy} {operation foreignName : String}
  {arguments : List Value} {os os' : List ForeignObject} {rs ss : List Value}
  {s s' t t' : Session σ}

/-- The objects that a method of the object returns. -/
def methodResults (p : Proxy) (operation foreignName : String) (arguments : List Value) :
    Action σ (List ForeignObject) := do
  let marshalled ← b.marshal p.state.token arguments []
  b.ask (.callMethod p.state.token p.object foreignName marshalled.positional) fun e =>
    .invocation p.interfaceName operation (.raisedBy e foreignName)

/-- An object is called and its results are read. -/
theorem callObject_eq :
    b.callObject p operation foreignName arguments =
      b.methodResults p operation foreignName arguments >>= b.unmarshal p.state.token := by
  rw [callObject, methodResults, bind_assoc]

/-- Results that were read are collapsed. -/
theorem unmarshal_of_results (h : b.toNativeEach token os s = (.ok rs, t)) :
    b.unmarshal token os s = (.ok (collapse rs), t) :=
  bind_apply_ok h

/-- The result of an operation is decoded from the collapsed results of its method. -/
theorem invokeAs_outcome {type : NativeType} {route : Route}
    (hroute : p.route operation arguments.length = .ok route)
    (hmethod : b.methodResults p operation route.foreignName arguments s = (.ok os, s'))
    (hrs : b.toNativeEach p.state.token os s' = (.ok rs, t)) :
    (b.invokeAs p type operation arguments s).1 = type.decode (collapse rs) := by
  have hcall : b.callObject p operation route.foreignName arguments s = (.ok (collapse rs), t) := by
    rw [callObject_eq, bind_apply_ok hmethod]
    exact b.unmarshal_of_results hrs
  have hforward : (b.forward p operation route.foreignName arguments s).1 = .ok (collapse rs) := by
    rw [forward_outcome, hcall]
  rw [invokeAs, bind_apply, b.invoke_of_route hroute]
  generalize b.forward p operation route.foreignName arguments s = ended at hforward
  rcases ended with ⟨r, u⟩
  cases hforward
  rfl

open NativeType in
/-- Results that convert without error become alike values exactly if they are merged, for both
ways to compare values.  Decoded as a list, also as the result of an operation, two or more results
are given back, a list alone is taken for its items, and anything else is refused. -/
theorem unmarshal_told_apart (hrs : b.toNativeEach token os s = (.ok rs, t))
    (hss : b.toNativeEach token os' s' = (.ok ss, t')) :
    ∃ v w, b.unmarshal token os s = (.ok v, t) ∧ b.unmarshal token os' s' = (.ok w, t') ∧
      (v = w ↔ Merged (· = ·) rs ss) ∧
      (v.numEq w = true ↔ Merged (fun xs ys => Value.numEqItems xs ys = true) rs ss) ∧
      ((list value).decode v = .ok rs ↔ 2 ≤ rs.length) ∧
      (∀ xs, rs = [.list xs] → (list value).decode v = .ok xs) ∧
      (rs.length < 2 → (∀ xs, rs ≠ [.list xs]) →
        (list value).decode v = .error (.conversion v.typeName (.expected "list"))) ∧
      ∀ p operation arguments route r, p.state.token = token →
        p.route operation arguments.length = .ok route →
        b.methodResults p operation route.foreignName arguments r = (.ok os, s) →
        (b.invokeAs p (list value) operation arguments r).1 = (list value).decode v := by
  refine ⟨collapse rs, collapse ss, b.unmarshal_of_results hrs, b.unmarshal_of_results hss,
    ?same, ?numEq, ?recovered, ?inner, ?refused, ?invoked⟩
  case same =>
    have h := Compares.eq.collapse_iff rs ss
    rwa [List.forall₂_eq_eq_eq] at h
  case numEq =>
    have hlists : (fun xs ys => Value.numEqItems xs ys = true) =
        List.Forall₂ fun v w => Value.numEq v w = true := by
      funext xs ys
      exact propext Value.numEqItems_iff
    rw [hlists]
    exact Compares.numEq.collapse_iff rs ss
  case recovered =>
    rw [decode_collapse_eq_ok_iff]
    simp [ne_singleton_list]
  case inner =>
    intro xs hxs
    exact decode_collapse_eq_ok_iff.mpr (.inl hxs)
  case refused =>
    intro hshort hnolist
    exact decode_collapse_eq_error_iff.mpr ⟨⟨hshort, hnolist⟩, rfl⟩
  case invoked =>
    rintro p operation arguments route r rfl hroute hmethod
    exact b.invokeAs_outcome hroute hmethod hrs

end Bridge

/-- A host with a single instance; one of its methods has two results, another one their list. -/
def Host.ofPair : Host :=
  { Host.empty with
    objects := #[some (.instanceOf (.scripted "Pair" none
      [("both", .answer [.int 1, .int 2]), ("list", .answer [.list [.int 1, .int 2]])]) [])] }

/-- The proxy of the instance. -/
def Host.proxyOfPair : Proxy :=
  ⟨⟨.named "Pair", ⟨"Pair", none, [.forward "both" 0, .forward "list" 0]⟩,
      [("both", ⟨"both", 0⟩), ("list", ⟨"list", 0⟩)]⟩,
    ⟨0, "Pair"⟩, ⟨.first, .shared, ⟨0⟩, []⟩⟩

open NativeType Host in
/-- Two results and the list of both have one value, which an operation that returns a list gives
back as the two results. -/
theorem Bridge.unmarshal_pair :
    let b := onHost .isolated ⟨none, fun _ => none⟩
    let s := b.start ofPair
    let both := (b.methodResults proxyOfPair "both" "both" [] s).2
    let one := (b.methodResults proxyOfPair "list" "list" [] s).2
    ∃ t t' v, b.toNativeEach ⟨0⟩ [⟨1, "int"⟩, ⟨2, "int"⟩] both = (.ok [.int 1, .int 2], t) ∧
      b.toNativeEach ⟨0⟩ [⟨1, "list"⟩] one = (.ok [.list [.int 1, .int 2]], t') ∧
      b.unmarshal ⟨0⟩ [⟨1, "int"⟩, ⟨2, "int"⟩] both = (.ok v, t) ∧
      b.unmarshal ⟨0⟩ [⟨1, "list"⟩] one = (.ok v, t') ∧
      (b.invokeAs proxyOfPair (list value) "both" [] s).1 = .ok [.int 1, .int 2] := by
  intro b s both one
  have hboth : b.toNativeEach ⟨0⟩ [⟨1, "int"⟩, ⟨2, "int"⟩] both =
      (.ok [.int 1, .int 2], (b.toNativeEach ⟨0⟩ [⟨1, "int"⟩, ⟨2, "int"⟩] both).2) := rfl
  have hone : b.toNativeEach ⟨0⟩ [⟨1, "list"⟩] one =
      (.ok [.list [.int 1, .int 2]], (b.toNativeEach ⟨0⟩ [⟨1, "list"⟩] one).2) := rfl
  obtain ⟨v, w, hv, hw, hsame, -, hrecovered, -, -, hinvoked⟩ :=
    b.unmarshal_told_apart hboth hone
  have hmerged : Merged (· = ·) [Value.int 1, .int 2] [.list [.int 1, .int 2]] :=
    .inr (.inr (.inr (.inr ⟨_, rfl, rfl, by decide⟩)))
  obtain rfl := hsame.mpr hmerged
  refine ⟨_, _, v, hboth, hone, hv, hw, ?_⟩
  rw [hinvoked proxyOfPair "both" [] ⟨"both", 0⟩ s rfl rfl rfl]
  exact hrecovered.mpr (by decide)

end ObjectBridge
