import ObjectBridge.Proofs.Steadiness

/-!
# Values behind handles

A host wraps plain data only: no object of it wraps another object as if it were data.  So the
value of an object is the data it wraps or the object itself, and this value is found again after
it was given to the host once more, whatever happens in between.

Main results:

- Definition `Host.Unwraps`: a host at a later time, at which objects have the values they had and
  still none wraps another one.
- Theorem `Host.Abiding.didAll`: what nothing that is done to a host leaves, no history leaves.
- Theorem `Bridge.unwrapping_of_history`: the value of an object after any history, and what it
  comes back as.
-/

namespace ObjectBridge

namespace Host

variable {R : Host → Host → Prop} {h h₁ : Host} {o : ForeignObject} {v : Value} {n : Nat}
  {x : HostObject}

/-! ## Relations that histories respect -/

/-- A relation between hosts that nothing leaves that is done by them or to them. -/
structure Abiding (R : Host → Host → Prop) : Prop extends Enduring R where
  defined : ∀ (h : Host) name classes, R h (h.defineModule name classes)
  refused : ∀ (h : Host) refusing, R h { h with refusing }
  alien : ∀ (h : Host) typeName, R h (h.alien typeName).2

/-- A deed leaves no relation that nothing in a host leaves. -/
theorem Abiding.did (hR : Abiding R) (c : Configuration) (e : Environment) (s : Session Host)
    (deed : HostDeed) : R s.world ((Bridge.onHost c e).did s deed).world := by
  have hupholds := hR.toEnduring.upholds c e
  have := hupholds.preorder
  cases deed with
  | call call => exact hupholds.perform call s
  | use use =>
    cases use with
    | get key => exact Within.bind (hupholds.state key) (fun _ => .pure _) s
    | release => exact hR.preorder.refl s.world
  | useInThreads key threads =>
    refine Within.statesOfThreads (fun key => (hupholds.state key).inThread ?_) key threads s
    exact fun _ _ _ _ h => h
  | interface key i => exact hupholds.interface key i s
  | proxyType key i => exact hupholds.proxyType key i s
  | importer m => exact hupholds.tolerates.carries.keptImporter m s
  | resolve m binding => exact hupholds.tolerates.carries.resolveBinding m binding s
  | request r => exact hR.perform r s.world
  | define name classes => exact hR.defined s.world name classes
  | refuse refusing => exact hR.refused s.world refusing
  | alien typeName => exact hR.alien s.world typeName
  | assign o name v =>
    change R s.world (s.world.assigned o name v)
    rw [assigned]
    split
    · rename_i hx
      exact hR.put hx _
    · exact hR.preorder.refl s.world

/-- Whatever is done, one thing after another, stays within the relation. -/
theorem Abiding.didAll (hR : Abiding R) (c : Configuration) (e : Environment) (s : Session Host)
    (history : List HostDeed) : R s.world ((Bridge.onHost c e).didAll s history).world := by
  induction history generalizing s with
  | nil => exact hR.preorder.refl s.world
  | cons deed history ih => exact hR.preorder.trans _ _ _ (hR.did c e s deed) (ih _)

/-! ## Objects that wrap no object -/

/-- A host none of whose objects wraps another object as data. -/
def Unboxed (h : Host) : Prop :=
  ∀ n x, h.at? n = some x → x.wrapsObject = false

/-- A new object that wraps no object leaves a host without wrapped objects. -/
theorem Unboxed.pushed (hh : h.Unboxed) (hx : x.wrapsObject = false) : (h.pushed x).Unboxed :=
  forall_pushed hh hx

/-- So does a change of the attributes of an instance. -/
theorem Unboxed.put {c : HostClass} {as : Attributes} (hh : h.Unboxed)
    (hx : h.at? o.handle = some (.instanceOf c as)) (bs : Attributes) :
    (h.put o (.instanceOf c bs)).Unboxed :=
  forall_put (lt_size hx) hh rfl

/-- The handle of another host has nothing behind it. -/
theorem Unboxed.alien (hh : h.Unboxed) (typeName : String) : (h.alien typeName).2.Unboxed := by
  intro n y hy
  have hpush : (h.alien typeName).2.at? n = ((h.objects.push none)[n]?).join := rfl
  rw [hpush, Array.getElem?_push] at hy
  split at hy
  · cases hy
  · exact hh n y hy

/-! ## Values at later times -/

/-- A host at a later time: an object has the value it had, and still no object wraps another one if
none did. -/
structure Unwraps (h h₁ : Host) : Prop where
  unboxed : h.Unboxed → h₁.Unboxed
  peek : ∀ {o v}, h.peek o = .ok v → h₁.peek o = .ok v

instance : IsPreorder Host Unwraps where
  refl _ := ⟨id, id⟩
  trans _ _ _ h₁₂ h₂₃ := ⟨h₂₃.unboxed ∘ h₁₂.unboxed, fun hv => h₂₃.peek (h₁₂.peek hv)⟩

/-- What is behind a handle may be an instance with other attributes, which is seen as itself. -/
theorem Steady.peek (hs : h.Steady h₁) (hv : h.peek o = .ok v) : h₁.peek o = .ok v := by
  obtain ⟨x, hx, rfl⟩ := peek_eq_ok_iff.mp hv
  rw [peek_eq_ok_iff]
  cases hinstance : x.isInstance with
  | false => exact ⟨x, hs.found hx hinstance, rfl⟩
  | true =>
    cases x with
    | instanceOf c as =>
      obtain ⟨bs, hy⟩ := hs.instances hx
      exact ⟨_, hy, rfl⟩
    | _ => cases hinstance

/-- A host that is steady unwraps what it did, if it stays without wrapped objects. -/
theorem Unwraps.of_steady (hs : h.Steady h₁) (hunboxed : h.Unboxed → h₁.Unboxed) : h.Unwraps h₁ :=
  ⟨hunboxed, hs.peek⟩

/-- A host with the same objects unwraps the same. -/
theorem Unwraps.of_objects (hobjects : h₁.objects = h.objects) : h.Unwraps h₁ := by
  have hat (n : Nat) : h₁.at? n = h.at? n := by rw [at?, at?, hobjects]
  refine ⟨fun hh n x hx => hh n x ((hat n).symm.trans hx), fun {o v} hv => ?_⟩
  rwa [Host.peek, look, hat]

/-- Nothing in a host leaves the relation. -/
theorem abiding_unwraps : Abiding Unwraps where
  preorder := inferInstance
  touched _ := .of_objects rfl
  pushed h x hx := .of_steady (.handed h (some x)) fun hh => hh.pushed hx
  put hx bs := .of_steady (.put hx bs) fun hh => hh.put hx bs
  stateMade _ := .of_objects rfl
  pathsExtended _ _ _ := .of_objects rfl
  defined _ _ _ := .of_objects rfl
  refused _ _ := .of_objects rfl
  alien h typeName := .of_steady (.handed h none) fun hh => hh.alien typeName

/-! ## Values taken and given -/

/-- Data in a host without wrapped objects are no object. -/
theorem Unboxed.plain (hh : h.Unboxed) (hx : h.at? n = some (.data v)) : v.asObject = none :=
  Option.isSome_eq_false_iff.mp (hh n _ hx) |> Option.isNone_iff_eq_none.mp

/-- The value of an object: the data that it wraps, which is no object, or the object itself. -/
theorem Unboxed.peek (hh : h.Unboxed) (hx : h.at? o.handle = some x) :
    ∃ v, h.peek o = .ok v ∧ (v.asObject = none ∨ v = .object o) := by
  refine ⟨x.seen o, peek_eq_ok_iff.mpr ⟨x, hx, rfl⟩, ?_⟩
  cases x with
  | data v => exact .inl (hh.plain hx)
  | _ => exact .inr rfl

/-- A value is read from behind its handle, and the request counted. -/
theorem perform_toNative (token : StateToken) (o : ForeignObject) (h : Host) :
    perform (.toNative token o) h = (h.peek o, h.touched) :=
  valueOf_apply o h.touched

/-- A value that is no object and can be stored is the value of a new object. -/
theorem perform_toForeign_data (token : StateToken) (hv : v.asObject = none)
    (hfinite : v.nonFinite? = none) (h : Host) :
    perform (.toForeign token v) h =
      (.ok ⟨h.objects.size, v.typeName⟩, h.touched.pushed (.data v)) := by
  cases v with
  | object o => cases hv
  | float x =>
    have hx : x.isFinite = true := by
      by_contra hnot
      rw [Value.nonFinite?, if_neg hnot] at hfinite
      cases hfinite
    change Host.store (.float x) h.touched = _
    rw [Host.store, if_pos hx]
    rfl
  | _ => rfl

/-- The value of an object is taken back, as a new object with the same value or as the object
itself. -/
theorem perform_toForeign_seen (token : StateToken) (hseen : h.peek o = .ok v)
    (hv : v.asObject = none ∨ v = .object o) (hfinite : v.nonFinite? = none) :
    ∃ o' h₁, perform (.toForeign token v) h = (.ok o', h₁) ∧ (v = .object o → o' = o) ∧
      h₁.peek o' = .ok v := by
  obtain hplain | rfl := hv
  · refine ⟨_, _, perform_toForeign_data token hplain hfinite h, ?_, ?_⟩
    · rintro rfl
      cases hplain
    · exact peek_eq_ok_iff.mpr ⟨.data v, at?_made, rfl⟩
  · exact ⟨o, h.touched, rfl, fun _ => rfl, hseen⟩

end Host

namespace Bridge

/-- The value of an object, as the interpreter tells it. -/
def unwrapped (b : Bridge Host) (s : Session Host) (token : StateToken) (o : ForeignObject) :
    Except ForeignError Value :=
  (b.interpreter.perform (.toNative token o) s.world).1

/-- The object that the interpreter hands out for a value. -/
def wrapped (b : Bridge Host) (s : Session Host) (token : StateToken) (v : Value) :
    Except ForeignError ForeignObject :=
  (b.interpreter.perform (.toForeign token v) s.world).1

/-- What is read through a bridge is what the host sees behind the handle. -/
theorem unwrapped_eq (c : Configuration) (e : Environment) (s : Session Host) (token : StateToken)
    (o : ForeignObject) : (onHost c e).unwrapped s token o = s.world.peek o :=
  congrArg Prod.fst (Host.perform_toNative token o s.world)

/-- An object has a value from some time on. -/
structure HasValue (b : Bridge Host) (s : Session Host) (o : ForeignObject) (v : Value) : Prop where
  /-- The value is no object, or the object itself. -/
  plain : v.asObject = none ∨ v = .object o
  /-- The value is told at any later time. -/
  told : ∀ (later : List HostDeed) (token : StateToken),
    b.unwrapped (b.didAll s later) token o = .ok v
  /-- At any later time the value can be given back, unless it is a number that is not finite.  The
  object for it has the same value from then on, and is the same object if the value is one. -/
  givenBack : v.nonFinite? = none → ∀ (later : List HostDeed) (token : StateToken),
    let t := b.didAll s later
    ∃ o', b.wrapped t token v = .ok o' ∧ (v = .object o → o' = o) ∧
      ∀ (last : List HostDeed) (token' : StateToken),
        b.unwrapped (b.didAll (b.did t (.request (.toForeign token v))) last) token' o' = .ok v

/-- Whatever has happened to a bridge over a host and to the host itself, no object of the host
wraps another object as data, and every object has a value from then on. -/
theorem unwrapping_of_history (c : Configuration) (e : Environment) (history : List HostDeed) :
    let b := onHost c e
    let s := b.didAll (b.start .empty) history
    (∀ o v, s.world.object? o = some (.data v) → v.asObject = none) ∧
    ∀ o, s.world.object? o ≠ none → ∃ v, b.HasValue s o v := by
  intro b s
  have hlater (t : Session Host) (later : List HostDeed) :
      t.world.Unwraps (b.didAll t later).world :=
    Host.abiding_unwraps.didAll c e t later
  have hunboxed : s.world.Unboxed := (hlater (b.start .empty) history).unboxed nofun
  refine ⟨fun o v hv => hunboxed.plain hv, fun o ho => ?_⟩
  obtain ⟨x, hx⟩ := Option.ne_none_iff_exists'.mp ho
  obtain ⟨v, hseen, hv⟩ := hunboxed.peek hx
  have hkept (later : List HostDeed) : (b.didAll s later).world.peek o = .ok v :=
    (hlater s later).peek hseen
  refine ⟨v, hv, fun later token => ?told, fun hfinite later token => ?givenBack⟩
  case told => exact (unwrapped_eq c e _ token o).trans (hkept later)
  case givenBack =>
    intro t
    obtain ⟨o', h₁, hperform, hsame, hback⟩ :=
      Host.perform_toForeign_seen token (hkept later) hv hfinite
    have hworld : (b.did t (.request (.toForeign token v))).world = h₁ := congrArg Prod.snd hperform
    refine ⟨o', congrArg Prod.fst hperform, hsame, fun last token' => ?_⟩
    rw [unwrapped_eq]
    exact (hlater _ last).peek (hworld ▸ hback)

/-- A car whose plate is the module it comes from, and an object for the number of its wheels. -/
def carHistory : List HostDeed :=
  [.define "Car" [Car.hostClass],
    .request (.toForeign ⟨0⟩ (.str "Car")),
    .request (.builtin ⟨0⟩ Host.importerName),
    .request (.call ⟨0⟩ ⟨1, "builtin_function_or_method"⟩ ⟨[⟨0, "str"⟩], []⟩),
    .request (.getAttribute ⟨0⟩ ⟨2, "module"⟩ "Car"),
    .request (.call ⟨0⟩ ⟨3, "type"⟩ ⟨[⟨2, "module"⟩], []⟩),
    .request (.getAttribute ⟨0⟩ ⟨4, "Car"⟩ "wheels")]

/-- The car is its own value, and comes back as itself.  The number comes back as a new object that
is still four after whatever is done next. -/
theorem unwrapping_of_car :
    let b := onHost .isolated ⟨none, fun _ => none⟩
    let s := b.didAll (b.start .empty) carHistory
    let car : ForeignObject := ⟨4, "Car"⟩
    let wheels : ForeignObject := ⟨5, "int"⟩
    s.world.object? car ≠ none ∧ s.world.object? wheels ≠ none ∧
      b.HasValue s car (.object car) ∧ b.HasValue s wheels (.int 4) ∧
      b.wrapped s ⟨0⟩ (.object car) = .ok car ∧ b.wrapped s ⟨0⟩ (.int 4) = .ok ⟨6, "int"⟩ := by
  intro b s car wheels
  have hcar : (s.world.peek car).toOption.bind Value.asObject = some car := by decide +kernel
  have hwheels : (s.world.peek wheels).toOption.bind Value.asInt = some 4 := by decide +kernel
  have hnew : b.wrapped s ⟨0⟩ (.int 4) = .ok ⟨6, "int"⟩ := by decide +kernel
  have hvalues : ∀ o, s.world.object? o ≠ none → ∃ v, b.HasValue s o v :=
    (unwrapping_of_history .isolated ⟨none, fun _ => none⟩ carHistory).2
  clear_value s
  have hthere {α : Type} {o : ForeignObject} {view : Value → Option α} {a : α}
      (ha : (s.world.peek o).toOption.bind view = some a) :
      s.world.object? o ≠ none ∧ ∃ v, b.HasValue s o v ∧ view v = some a := by
    obtain ⟨v, hv, hview⟩ := Option.bind_eq_some_iff.mp ha
    have hpeek := eq_ok_of_toOption hv
    obtain ⟨x, hx, -⟩ := Host.peek_eq_ok_iff.mp hpeek
    have ho : s.world.object? o ≠ none := Option.ne_none_iff_exists'.mpr ⟨x, hx⟩
    obtain ⟨w, hw⟩ := hvalues o ho
    have htold := (unwrapped_eq _ _ s ⟨0⟩ o).symm.trans (hw.told [] ⟨0⟩)
    obtain rfl := Except.ok.inj (htold.symm.trans hpeek)
    exact ⟨ho, w, hw, hview⟩
  obtain ⟨hcarThere, v, hcarValue, hv⟩ := hthere hcar
  obtain rfl := Value.asObject_eq_some_iff.mp hv
  obtain ⟨hwheelsThere, w, hwheelsValue, hw⟩ := hthere hwheels
  obtain rfl : w = .int 4 := by
    cases w <;> cases hw
    rfl
  exact ⟨hcarThere, hwheelsThere, hcarValue, hwheelsValue, rfl, hnew⟩

end Bridge

end ObjectBridge
