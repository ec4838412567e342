import ObjectBridge.Proofs.Outcomes
import ObjectBridge.Proofs.TwinSessions

/-!
# Values taken back from a host

Values that are marshalled for a scripted host are refused for the first float among them that is
not finite, and only for that; what is deeper in a value does not count.  Otherwise every value is
taken back as it was, but for objects, which are taken back as what the host has behind them.

Main results:

- Definition `Host.restored`: what a value is taken back as.
- Theorem `Bridge.marshal_ends`: marshalling makes objects that stand for the values, or is refused
  for the first float that is not finite.
- Theorem `Bridge.marshal_restores`: what marshalled values are taken back as, one by one and
  collapsed.
-/

namespace ObjectBridge

variable {α β γ ε ς : Type}

/-! ## Traversals that are refused at the first bad element -/

/-- A traversal whose steps are refused for what is bad about an element, and keep what earlier ones
brought about, is refused for the first bad element. -/
theorem Ends.mapM_first {R : ς → ς → Prop} [IsPreorder ς R] {V : α → β → ς → Prop}
    {bad? : α → Option γ} {refusal : γ → ε} {f : α → ExceptT ε (StateM ς) β} {xs : List α} {s : ς}
    (hf : ∀ x ∈ xs, ∀ t, R s t → Ends (fun y u => bad? x = none ∧ R t u ∧ V x y u)
      (fun e _ => ∃ z, bad? x = some z ∧ e = refusal z) (f x) t)
    (hV : ∀ x y t u, R t u → V x y t → V x y u) :
    Ends (fun ys t => xs.findSome? bad? = none ∧ R s t ∧ List.Forall₂ (V · · t) xs ys)
      (fun e _ => ∃ z, xs.findSome? bad? = some z ∧ e = refusal z) (xs.mapM f) s := by
  induction xs generalizing s with
  | nil => exact ⟨rfl, refl_of R s, .nil⟩
  | cons x xs ih =>
      rw [List.mapM_cons]
      have hfirst := hf x (.head _) s (refl_of R s)
      -- A failure of the first step is one for the first element, whatever comes behind it.
      refine Ends.bind (Q := fun y t => bad? x = none ∧ R s t ∧ V x y t)
        (hfirst.mono (fun _ _ h => h) ?_) ?_
      · rintro e t ⟨z, hz, rfl⟩
        exact ⟨z, by simp [hz], rfl⟩
      · rintro y t ⟨hx, hst, hy⟩
        have hrest := ih fun x hx u htu => hf x (.tail _ hx) u (trans_of R hst htu)
        refine Ends.bind (Q := fun ys u => xs.findSome? bad? = none ∧ R t u ∧
          List.Forall₂ (V · · u) xs ys) (hrest.mono (fun _ _ h => h) ?_) ?_
        · rintro e u ⟨z, hz, rfl⟩
          exact ⟨z, by simp [hx, hz], rfl⟩
        · rintro ys u ⟨hxs, htu, hys⟩
          exact ⟨by simp [hx, hxs], trans_of R hst htu, .cons (hV x y t u htu hy) hys⟩

/-- A traversal whose steps end in the same way wherever some invariant holds. -/
theorem mapM_outcome {I : ς → Prop} {f : α → ExceptT ε (StateM ς) β} {g : α → Except ε β}
    (hf : ∀ x t, I t → (f x t).1 = g x ∧ I (f x t).2) (xs : List α) {s : ς} (hs : I s) :
    (xs.mapM f s).1 = xs.mapM g := by
  induction xs generalizing s with
  | nil => rfl
  | cons x xs ih =>
      rw [List.mapM_cons, List.mapM_cons, bind_apply]
      obtain ⟨hx, ht⟩ := hf x s hs
      rcases hfx : f x s with ⟨r, t⟩
      rw [hfx] at hx ht
      rw [← hx]
      cases r with
      | error err => rfl
      | ok y =>
          simp only [bind_apply]
          rw [← ih ht]
          rcases xs.mapM f t with ⟨rest, u⟩
          cases rest <;> rfl

/-! ## What is taken back -/

/-- The number of a float that is not finite; what is inside of other values does not count. -/
def Value.nonFinite? : Value → Option Double
  | float x => if x.isFinite then Option.none else some x
  | _ => Option.none

/-- The refusal to store a float that is not finite. -/
def nonFiniteRefusal (x : Double) : BridgeError :=
  .conversion "float" (.raised ⟨"ValueError", s!"cannot store non-finite float {x.plainText}"⟩)

namespace Host

variable {h h₁ : Host} {v : Value} {o : ForeignObject}

/-- What a value is taken back as once it was given to a host: any value but an object as it is, an
object as the data it wraps or else as itself, unless it belongs to another host. -/
def restored (h : Host) : Value → Except BridgeError Value
  | .object o =>
    match h.at? o.handle with
    | some (.data v) => .ok v
    | some _ => .ok (.object o)
    | none =>
      .error (.conversion o.typeName
        (.raised (.wrongType s!"object of type '{o.typeName}' does not belong to this host")))
  | v => .ok v

/-- A value that is there when the host is: if it is an object, its handle exists already, whether
the host or another one has something behind it. -/
def Knows (h : Host) (v : Value) : Prop :=
  ∀ o, v = .object o → o.handle < h.objects.size

/-- A host with more objects, behind new handles. -/
structure Extends (h h₁ : Host) : Prop where
  size : h.objects.size ≤ h₁.objects.size
  kept : ∀ n < h.objects.size, h₁.at? n = h.at? n

instance : IsPreorder Host Extends where
  refl _ := ⟨Nat.le_refl _, fun _ _ => rfl⟩
  trans _ _ _ h₁₂ h₂₃ :=
    { size := Nat.le_trans h₁₂.size h₂₃.size
      kept := fun n hn =>
        (h₂₃.kept n (Nat.lt_of_lt_of_le hn h₁₂.size)).trans (h₁₂.kept n hn) }

/-- A request that is counted adds no object. -/
theorem extends_touched (h : Host) : h.Extends h.touched :=
  ⟨Nat.le_refl _, fun _ _ => rfl⟩

/-- A host with one more object extends the one before. -/
theorem extends_pushed (h : Host) (x : HostObject) : h.Extends (h.pushed x) where
  size := Array.size_push _ ▸ Nat.le_succ _
  kept _ hn := at?_pushed_of_lt hn

/-- A value whose handle was handed out is taken back as before when objects are added. -/
theorem Extends.restored (hext : h.Extends h₁) (hv : h.Knows v) : h₁.restored v = h.restored v := by
  cases v with
  | object o => simp only [Host.restored, hext.kept o.handle (hv o rfl)]
  | _ => rfl

/-- A value that is known is known to every host that extends this one. -/
theorem Extends.knows (hext : h.Extends h₁) (hv : h.Knows v) : h₁.Knows v :=
  fun o ho => Nat.lt_of_lt_of_le (hv o ho) hext.size

/-- A value that was stored is restored from the new object. -/
theorem restored_made (hv : v.asObject = none) (o : ForeignObject)
    (ho : o.handle = h.objects.size) : (h.pushed (.data v)).restored (.object o) = h.restored v := by
  have hfound : (h.pushed (.data v)).at? o.handle = some (.data v) := by
    rw [at?_pushed, if_pos ho]
  cases v with
  | object o' => cases hv
  | _ => simp only [restored, hfound]

/-- An object is restored as what it is read as. -/
theorem restored_eq (h : Host) (o : ForeignObject) :
    (h.peek o).mapError (fun e => .conversion o.typeName (.raised e)) =
      h.restored (.object o) := by
  rw [peek, look, restored]
  cases h.at? o.handle with
  | none => rfl
  | some x => cases x <;> rfl

end Host

/-! ## Marshalling -/

namespace Bridge

variable (c : Configuration) (e : Environment) {s : Session Host}

/-- An object is taken back as what the host has behind it, and leaves the objects as they are. -/
theorem toNative_apply (token : StateToken) (o : ForeignObject) (s : Session Host) :
    (onHost c e).toNative token o s = (s.world.restored (.object o), s.moved s.world.touched) := by
  have hperform : (onHost c e).interpreter.perform (.toNative token o) s.world =
      (s.world.touched.peek o, s.world.touched) := Host.valueOf_apply o s.world.touched
  rw [toNative, ask_apply, hperform]
  exact congrArg (·, s.moved s.world.touched) (s.world.touched.restored_eq o)

/-- Results are restored one by one. -/
theorem toNativeEach_outcome (token : StateToken) (os : List ForeignObject) (s : Session Host) :
    ((onHost c e).toNativeEach token os s).1 = os.mapM fun o => s.world.restored (.object o) := by
  apply mapM_outcome (I := fun t => t.world.objects = s.world.objects)
  · intro o t ht
    rw [toNative_apply]
    refine ⟨?_, ht⟩
    simp only [Host.restored, Host.at?, ht]
  · rfl

/-- A value that is stored is behind a new handle. -/
theorem toForeign_stored (token : StateToken) {v : Value} (hv : v.asObject = none)
    (hstore : Host.store v = Host.make (.data v)) (s : Session Host) :
    (onHost c e).toForeign token v s =
      (.ok ⟨s.world.objects.size, v.typeName⟩, s.moved (s.world.touched.pushed (.data v))) := by
  have hperform : (onHost c e).interpreter.perform (.toForeign token v) s.world =
      (.ok ⟨s.world.objects.size, v.typeName⟩, s.world.touched.pushed (.data v)) := by
    show Host.store v s.world.touched = _
    rw [hstore]
    rfl
  cases v with
  | object o => cases hv
  | _ => exact ask_granted hperform

/-- An object stands for a value: it is taken back as the value was before. -/
def Stands (s t : Session Host) (v : Value) (o : ForeignObject) : Prop :=
  t.world.Knows (.object o) ∧ t.world.restored (.object o) = s.world.restored v

/-- A value that is no object is stored as data that stand for it. -/
theorem toForeign_ends_stored (token : StateToken) {v : Value} (hv : v.asObject = none)
    (hstore : Host.store v = Host.make (.data v)) (hfinite : v.nonFinite? = none)
    {E : BridgeError → Session Host → Prop} :
    Ends (fun o t => v.nonFinite? = none ∧ s.world.Extends t.world ∧ Stands s t v o) E
      ((onHost c e).toForeign token v) s := by
  apply Ends.of_ok (toForeign_stored c e token hv hstore s)
  refine ⟨hfinite, trans_of _ s.world.extends_touched (Host.extends_pushed _ _), ?_, ?_⟩
  · rintro o ⟨⟩
    simp [Host.pushed, Host.touched]
  · exact Host.restored_made hv _ rfl

/-- A value is made an object that stands for it, or is refused as a float that is not finite. -/
theorem toForeign_ends (token : StateToken) {v : Value} (hv : s.world.Knows v) :
    Ends (fun o t => v.nonFinite? = none ∧ s.world.Extends t.world ∧ Stands s t v o)
      (fun err _ => ∃ x, v.nonFinite? = some x ∧ err = nonFiniteRefusal x)
      ((onHost c e).toForeign token v) s := by
  cases v with
  | object o => exact .pure ⟨rfl, refl_of _ s.world, hv, rfl⟩
  | float x =>
      by_cases hfinite : x.isFinite = true
      · apply toForeign_ends_stored c e token rfl
        · rw [Host.store, if_pos hfinite]
        · rw [Value.nonFinite?, if_pos hfinite]
      · have hperform : (onHost c e).interpreter.perform (.toForeign token (.float x)) s.world =
            (.error ⟨"ValueError", s!"cannot store non-finite float {x.plainText}"⟩,
              s.world.touched) := by
          show Host.store (.float x) s.world.touched = _
          rw [Host.store, if_neg hfinite]
          rfl
        apply Ends.of_error (ask_refused hperform)
        exact ⟨x, by rw [Value.nonFinite?, if_neg hfinite], rfl⟩
  | _ => exact toForeign_ends_stored c e token rfl rfl rfl

/-- What stands for a value still does so when objects are added. -/
theorem Stands.extends {t u : Session Host} {v : Value} {o : ForeignObject} (ho : Stands s t v o)
    (hext : t.world.Extends u.world) : Stands s u v o :=
  ⟨hext.knows ho.1, (hext.restored ho.1).trans ho.2⟩

instance : IsPreorder (Session Host) fun s t => s.world.Extends t.world where
  refl s := refl_of _ s.world
  trans _ _ _ := trans_of _

/-- A value that is given when more objects are there is made an object that stands for it too. -/
theorem toForeign_ends_later (token : StateToken) {v : Value} (hv : s.world.Knows v)
    {t : Session Host} (hext : s.world.Extends t.world) :
    Ends (fun o u => v.nonFinite? = none ∧ t.world.Extends u.world ∧ Stands s u v o)
      (fun err _ => ∃ x, v.nonFinite? = some x ∧ err = nonFiniteRefusal x)
      ((onHost c e).toForeign token v) t := by
  apply Ends.mono (toForeign_ends c e token (hext.knows hv))
  · rintro o u ⟨hfinite, htu, hknows, hrestored⟩
    exact ⟨hfinite, htu, hknows, hrestored.trans (hext.restored hv)⟩
  · exact fun _ _ h => h

/-- Positional arguments are stored up to the first number that is refused. -/
theorem positional_end (token : StateToken) {vs : List Value} (hvs : ∀ v ∈ vs, s.world.Knows v) :
    Ends (fun os t => vs.findSome? Value.nonFinite? = none ∧ s.world.Extends t.world ∧
        List.Forall₂ (Stands s t) vs os)
      (fun err _ => ∃ x, vs.findSome? Value.nonFinite? = some x ∧ err = nonFiniteRefusal x)
      (vs.mapM ((onHost c e).toForeign token)) s := by
  apply Ends.mapM_first (R := fun s t => s.world.Extends t.world) (V := fun v o t => Stands s t v o)
  · intro v hv t hext
    exact toForeign_ends_later c e token (hvs v hv) hext
  · intro v o t u hext ho
    exact ho.extends hext

/-- So are those with a keyword. -/
theorem keywords_end (token : StateToken) {ks : List (String × Value)}
    (hks : ∀ k ∈ ks, s.world.Knows k.2) {t : Session Host} (hst : s.world.Extends t.world) :
    Ends (fun ls u => ks.findSome? (fun k => k.2.nonFinite?) = none ∧ t.world.Extends u.world ∧
        Entries.Alike (Stands s u) ks ls)
      (fun err _ => ∃ x, ks.findSome? (fun k => k.2.nonFinite?) = some x ∧
        err = nonFiniteRefusal x)
      (ks.mapM fun k => return (k.1, ← (onHost c e).toForeign token k.2)) t := by
  apply Ends.mapM_first (R := fun s t => s.world.Extends t.world)
    (V := fun (k : String × Value) (l : String × ForeignObject) u =>
      k.1 = l.1 ∧ Stands s u k.2 l.2)
  · intro k hk u htu
    apply (toForeign_ends_later c e token (hks k hk) (trans_of _ hst htu)).bind
    rintro o w ⟨hfinite, huw, ho⟩
    exact ⟨hfinite, huw, rfl, ho⟩
  · rintro k l u w hext ⟨hname, ho⟩
    exact ⟨hname, ho.extends hext⟩

/-- Marshalling makes objects that stand for the values, or is refused for the first float that is
not finite, first by position and then by name. -/
theorem marshal_ends (token : StateToken) {positional : List Value}
    {keywords : List (String × Value)} (hpositional : ∀ v ∈ positional, s.world.Knows v)
    (hkeywords : ∀ k ∈ keywords, s.world.Knows k.2) :
    Ends
      (fun a t => (positional ++ keywords.map Prod.snd).findSome? Value.nonFinite? = none ∧
        List.Forall₂ (Stands s t) positional a.positional ∧
        Entries.Alike (Stands s t) keywords a.keywords)
      (fun err _ => ∃ x,
        (positional ++ keywords.map Prod.snd).findSome? Value.nonFinite? = some x ∧
          err = nonFiniteRefusal x)
      ((onHost c e).marshal token positional keywords) s := by
  have hfaults : (positional ++ keywords.map Prod.snd).findSome? Value.nonFinite? =
      (positional.findSome? Value.nonFinite?).or (keywords.findSome? fun k => k.2.nonFinite?) := by
    rw [List.findSome?_append, List.findSome?_map]
    rfl
  rw [hfaults, marshal]
  apply Ends.bind (Q := fun os t => positional.findSome? Value.nonFinite? = none ∧
    s.world.Extends t.world ∧ List.Forall₂ (Stands s t) positional os)
  · apply (positional_end c e token hpositional).mono (fun _ _ h => h)
    rintro err t ⟨x, hx, rfl⟩
    exact ⟨x, by rw [hx, Option.some_or], rfl⟩
  · rintro os t ⟨hfinite, hst, hos⟩
    rw [hfinite, Option.none_or]
    apply (keywords_end c e token hkeywords hst).bind
    rintro ls u ⟨hkeys, htu, hls⟩
    exact ⟨hkeys, hos.imp fun _ _ ho => ho.extends htu, hls⟩

/-- Objects that stand for values are taken back as the values were before. -/
theorem toNativeEach_stands (token : StateToken) {t : Session Host}
    {picked : List (Value × ForeignObject)} (hpicked : ∀ x ∈ picked, Stands s t x.1 x.2) :
    ((onHost c e).toNativeEach token (picked.map Prod.snd) t).1 =
      (picked.map Prod.fst).mapM s.world.restored := by
  rw [toNativeEach_outcome]
  induction picked with
  | nil => rfl
  | cons x picked ih =>
      obtain ⟨hx, hrest⟩ := List.forall_mem_cons.mp hpicked
      rw [List.map_cons, List.map_cons, List.mapM_cons, List.mapM_cons, hx.2, ih hrest]

/-- Results are read and then collapsed. -/
theorem unmarshal_outcome {σ : Type} (b : Bridge σ) (token : StateToken) (os : List ForeignObject)
    (s : Session σ) : (b.unmarshal token os s).1 = (b.toNativeEach token os s).1.map collapse := by
  rw [unmarshal, bind_apply]
  rcases b.toNativeEach token os s with ⟨r, t⟩
  cases r <;> rfl

end Bridge
end ObjectBridge
