import ObjectBridge.Proofs.Pipeline
import ObjectBridge.Proofs.Steadiness

/-!
# Instances taken out of a host

An instance of a class of a scripted host is made and taken out as native data in stages.  The
values are stored, the class is called with what the host has for them, and the attributes of the
new instance are decoded.  Each stage fails with an error of its own kind, and for reasons that the
values alone decide.

Main results:

- Definition `Host.Makes`: the attributes of an instance that a class makes of values.
- Definition `Host.Verdict`: what becomes of an instance in native form.
- Theorems `Host.Verdict.conversion_iff`, `Host.Verdict.instantiation_iff` and
  `Host.Verdict.of_makes`: which outcome it is.
- Theorem `Bridge.createInstance_verdict`: every instance ends as its values decide.
-/

namespace ObjectBridge

variable {α : Type}

/-! ## What a host has for values -/

namespace Host

variable {h h₁ : Host} {v w : Value} {o : ForeignObject} {vs ws : List Value}

/-- A host has something for every value but an object of another host. -/
theorem restored_eq_ok_iff :
    h.restored v = .ok w ↔ (∀ o, v = .object o → h.object? o ≠ none) ∧ h.counted v = w := by
  cases v with
  | object o =>
      have hobject : h.object? o = h.at? o.handle := rfl
      cases hx : h.at? o.handle with
      | none => simp [restored, hobject, hx]
      | some x => cases x <;> simp [restored, counted, hobject, hx]
  | _ => simp [restored, counted]

theorem mapM_restored_eq_ok_iff :
    vs.mapM h.restored = .ok ws ↔
      (∀ o, .object o ∈ vs → h.object? o ≠ none) ∧ vs.map h.counted = ws := by
  have hobjects : (∀ v ∈ vs, ∀ o, v = .object o → h.object? o ≠ none) ↔
      ∀ o, .object o ∈ vs → h.object? o ≠ none :=
    ⟨fun hvs o ho => hvs _ ho o rfl, fun hvs v hv o ho => hvs o (ho ▸ hv)⟩
  simp only [mapM_eq_ok_iff, restored_eq_ok_iff]
  rw [List.forall₂_and_left, hobjects, ← List.forall₂_map_left_iff (R := Eq),
    List.forall₂_eq_eq_eq]

theorem peek_eq_ok_iff_restored : h.peek o = .ok w ↔ h.restored (.object o) = .ok w := by
  rw [← restored_eq]
  cases h.peek o <;> simp [Except.mapError]

end Host

/-- Objects that stand for values are seen as what the host had for the values before. -/
theorem Bridge.peeks_of_stands {s t : Session Host} {vs ws : List Value} {os : List ForeignObject}
    (hos : List.Forall₂ (Bridge.Stands s t) vs os) :
    os.mapM t.world.peek = .ok ws ↔ vs.mapM s.world.restored = .ok ws := by
  simp only [mapM_eq_ok_iff, Host.peek_eq_ok_iff_restored]
  induction hos generalizing ws with
  | nil => simp only [List.forall₂_nil_left_iff]
  | cons ho _ ih => simp only [List.forall₂_cons_left_iff, ho.2, ih]

/-! ## The attributes of a new instance -/

namespace Host

variable {h h₁ : Host} {o : ForeignObject} {c : HostClass} {arguments : List Value}
  {attributes : Attributes}

/-- A class makes attributes of what the host has for values. -/
def Makes (h : Host) (c : HostClass) (arguments : List Value) (attributes : Attributes) : Prop :=
  ∃ vs, arguments.mapM h.restored = .ok vs ∧ c.instantiate vs [] = .ok attributes

/-- A class makes the same attributes of values at a later time. -/
theorem Steady.makes_iff (hs : h.Steady h₁) (hknown : ∀ v ∈ arguments, h.Knows v) :
    h₁.Makes c arguments attributes ↔ h.Makes c arguments attributes := by
  have hrestored : arguments.mapM h₁.restored = arguments.mapM h.restored := by
    induction arguments with
    | nil => rfl
    | cons v arguments ih =>
        rw [List.forall_mem_cons] at hknown
        rw [List.mapM_cons, List.mapM_cons, hs.restored hknown.1, ih hknown.2]
  rw [Makes, Makes, hrestored]

/-- A call of a class makes an instance, unless the class makes nothing of what is seen of the
objects. -/
theorem callClass_ends (ho : h.at? o.handle = some (.classObject c)) (os : List ForeignObject) :
    Ends
      (fun made h₁ => ∃ vs attributes, os.mapM h.peek = .ok vs ∧
        c.instantiate vs [] = .ok attributes ∧
        h₁.at? made.handle = some (.instanceOf c attributes))
      (fun _ _ => ∀ vs attributes, os.mapM h.peek = .ok vs → c.instantiate vs [] ≠ .ok attributes)
      (Host.call o ⟨os, []⟩) h := by
  rw [Host.call]
  refine .read (find_of_at? ho) (fun x hx => ?_) fun err herr => by cases herr
  cases hx
  simp only []
  refine .read (mapM_apply_of_reads (fun o => valueOf_apply o h) os) (fun vs hvs => ?_) ?_
  · refine .read (pure_apply [] h) (fun ks hks => ?_) fun err herr => by cases herr
    cases hks
    refine .read (lift_apply (c.instantiate vs []) h) (fun attributes hattributes => ?_) ?_
    · exact .of_ok (make_apply _ h) ⟨vs, attributes, hvs, hattributes, at?_made⟩
    · intro err herr vs' attributes hvs' hattributes
      cases hvs.symm.trans hvs'
      cases herr.symm.trans hattributes
  · intro err herr vs attributes hvs
    cases herr.symm.trans hvs

theorem coerce_apply (ho : h.at? o.handle = some (.instanceOf c attributes)) :
    Host.coerce o h = (.ok (.map attributes), h) := by
  rw [Host.coerce, bind_apply_ok (find_of_at? ho)]
  rfl

/-! ## What becomes of an instance -/

/-- What becomes of an instance of a class in native form, by the values that it is made of: the
first stage that fails counts. -/
inductive Verdict (h : Host) (c : HostClass) (target : Target α) (arguments : List Value) :
    Except BridgeError α → Prop where
  /-- A number that is not finite cannot be stored. -/
  | unstorable {err : BridgeError} {x : Double}
      (found : arguments.findSome? Value.nonFinite? = some x) (kind : err.kind = "conversion") :
      Verdict h c target arguments (.error err)
  /-- An object belongs to another host, or the constructor raises an exception. -/
  | unmade {err : BridgeError} (storable : arguments.findSome? Value.nonFinite? = none)
      (unmade : ∀ attributes, ¬ h.Makes c arguments attributes)
      (kind : err.kind = "instantiation") : Verdict h c target arguments (.error err)
  /-- The attributes are not what is wanted. -/
  | unfit {err : BridgeError} {attributes : Attributes} {cause : Cause}
      (storable : arguments.findSome? Value.nonFinite? = none)
      (makes : h.Makes c arguments attributes)
      (unfit : Bridge.decodeNative target (.map attributes) = .error cause)
      (kind : err.kind = "coercion") : Verdict h c target arguments (.error err)
  | taken {x : α} {attributes : Attributes}
      (storable : arguments.findSome? Value.nonFinite? = none)
      (makes : h.Makes c arguments attributes)
      (fits : Bridge.decodeNative target (.map attributes) = .ok x) :
      Verdict h c target arguments (.ok x)

theorem Makes.unique {others : Attributes} (hmakes : h.Makes c arguments attributes)
    (hothers : h.Makes c arguments others) : others = attributes := by
  obtain ⟨vs, hvs, hattributes⟩ := hmakes
  obtain ⟨ws, hws, hothers⟩ := hothers
  cases hvs.symm.trans hws
  exact Except.ok.inj (hothers.symm.trans hattributes)

namespace Verdict

variable {target : Target α} {r : Except BridgeError α}

/-- An instance is not stored exactly if a number among the values is not finite. -/
theorem conversion_iff (hr : h.Verdict c target arguments r) :
    (∃ err, r = .error err ∧ err.kind = "conversion") ↔
      arguments.findSome? Value.nonFinite? ≠ none := by
  cases hr with
  | @unstorable err x found kind =>
      rw [found]
      exact ⟨nofun, fun _ => ⟨err, rfl, kind⟩⟩
  | unmade storable _ kind | unfit storable _ _ kind =>
      refine ⟨?_, fun h => absurd storable h⟩
      rintro ⟨_, ⟨⟩, hkind⟩
      exact absurd (kind.symm.trans hkind) (by decide)
  | taken storable =>
      refine ⟨?_, fun h => absurd storable h⟩
      rintro ⟨_, ⟨⟩, -⟩

/-- If all values are stored, an instance is not made exactly if the class makes nothing of them. -/
theorem instantiation_iff (hr : h.Verdict c target arguments r)
    (hstorable : arguments.findSome? Value.nonFinite? = none) :
    (∃ err, r = .error err ∧ err.kind = "instantiation") ↔
      ∀ attributes, ¬ h.Makes c arguments attributes := by
  cases hr with
  | unstorable found => cases hstorable.symm.trans found
  | @unmade err _ unmade kind => exact ⟨fun _ => unmade, fun _ => ⟨err, rfl, kind⟩⟩
  | unfit _ makes _ kind =>
      refine ⟨?_, fun h => absurd makes (h _)⟩
      rintro ⟨_, ⟨⟩, hkind⟩
      exact absurd (kind.symm.trans hkind) (by decide)
  | taken _ makes =>
      refine ⟨?_, fun h => absurd makes (h _)⟩
      rintro ⟨_, ⟨⟩, -⟩

/-- An instance that is made is taken out exactly as its attributes are decoded. -/
theorem of_makes (hr : h.Verdict c target arguments r)
    (hstorable : arguments.findSome? Value.nonFinite? = none)
    (hmakes : h.Makes c arguments attributes) :
    (∀ x, r = .ok x ↔ Bridge.decodeNative target (.map attributes) = .ok x) ∧
      ∀ err, r = .error err → err.kind = "coercion" := by
  cases hr with
  | unstorable found => cases hstorable.symm.trans found
  | unmade _ unmade => exact absurd hmakes (unmade attributes)
  | unfit _ makes unfit kind =>
      cases hmakes.unique makes
      rw [unfit]
      refine ⟨fun x => ⟨nofun, nofun⟩, ?_⟩
      rintro _ ⟨⟩
      exact kind
  | taken _ makes fits =>
      cases hmakes.unique makes
      rw [fits]
      refine ⟨fun x => ⟨?_, ?_⟩, nofun⟩ <;> exact fun h => congrArg _ (Except.ok.inj h)

end Verdict

/-- Values decide the same at a later time. -/
theorem Verdict.of_steady {target : Target α} {r : Except BridgeError α} (hs : h.Steady h₁)
    (hknown : ∀ v ∈ arguments, h.Knows v) (hr : h₁.Verdict c target arguments r) :
    h.Verdict c target arguments r := by
  cases hr with
  | unstorable found kind => exact .unstorable found kind
  | unmade storable unmade kind =>
      exact .unmade storable (fun attributes hmakes =>
        unmade attributes ((hs.makes_iff hknown).mpr hmakes)) kind
  | unfit storable makes unfit kind =>
      exact .unfit storable ((hs.makes_iff hknown).mp makes) unfit kind
  | taken storable makes fits => exact .taken storable ((hs.makes_iff hknown).mp makes) fits

end Host

namespace Bridge

variable {c : Configuration} {e : Environment} {s : Session Host} {cls : HostClass}
  {binding : Binding} {arguments : List Value} {defs : Definitions}

/-- The class that the name of a binding denotes is found without fail. -/
theorem resolveBinding_finds (m : ManagedState) (hs : s.Imported) (hdefines : s.world.Defines defs)
    (himportable : defs.Importable binding.moduleName)
    (hdenotes : defs.Denotes (binding.moduleSegments ++ [binding.className]) (.classObject cls)) :
    Ends (fun found t => s.world.Steady t.world ∧
        t.world.at? found.callable.handle = some (.classObject cls))
      (fun _ _ => False) ((onHost c e).resolveBinding m binding) s := by
  obtain ⟨found, hfound⟩ := (exists_resolveBinding_iff (c := c) (e := e) m binding hdefines hs).mpr
    ⟨himportable, fun path hpath => hdenotes.not_breaks hpath⟩
  obtain ⟨-, -, hobject⟩ := object_of_resolveBinding hdefines hs hfound
  have hclass := hdenotes.of_concat (moduleSegments_ne_nil binding)
  rw [dotted_moduleSegments, dotted_binding] at hclass
  rw [← hclass] at hobject
  have hsteady := (upholds_steady c e).tolerates.carries.resolveBinding m binding s
  exact .of_ok (Prod.ext hfound rfl) ⟨hsteady, hobject⟩

/-- Values that are all storable become objects that stand for them. -/
theorem marshal_steady (token : StateToken) (hknown : ∀ v ∈ arguments, s.world.Knows v) :
    Ends
      (fun a t => s.world.Steady t.world ∧ arguments.findSome? Value.nonFinite? = none ∧
        a.keywords = [] ∧ List.Forall₂ (Stands s t) arguments a.positional)
      (fun err _ => ∃ x, arguments.findSome? Value.nonFinite? = some x ∧ err.kind = "conversion")
      ((onHost c e).marshal token arguments []) s := by
  have hkeywords : ∀ k ∈ ([] : List (String × Value)), s.world.Knows k.2 := nofun
  have hends := marshal_ends c e token hknown hkeywords
  rw [List.map_nil, List.append_nil] at hends
  have hsteady := (upholds_steady c e).tolerates.carries.marshal token arguments [] s
  refine (hends.with_rel (R := fun s t => s.world.Steady t.world) hsteady).mono ?_ ?_
  · rintro a t ⟨hsteady, hstorable, hpositional, hkeywords⟩
    exact ⟨hsteady, hstorable, List.forall₂_nil_left_iff.mp hkeywords, hpositional⟩
  · rintro err t ⟨x, hx, rfl⟩
    exact ⟨x, hx, rfl⟩

/-- A class is instantiated, unless it makes nothing of what is seen of the objects. -/
theorem instantiate_ends (m : ManagedState) {found : ResolvedClass}
    (hfound : s.world.at? found.callable.handle = some (.classObject cls))
    (os : List ForeignObject) :
    Ends
      (fun made t => ∃ vs attributes, os.mapM s.world.peek = .ok vs ∧
        cls.instantiate vs [] = .ok attributes ∧
        t.world.at? made.handle = some (.instanceOf cls attributes))
      (fun err _ => err.kind = "instantiation" ∧ ∀ vs attributes,
        os.mapM s.world.peek = .ok vs → cls.instantiate vs [] ≠ .ok attributes)
      ((onHost c e).instantiate m found ⟨os, []⟩) s := by
  have hlater : s.world.touched.Later none (Host.call found.callable ⟨os, []⟩ s.world.touched).2 :=
    (Host.Later.call (h := s.world.touched) ⟨_, hfound, rfl⟩ ⟨os, []⟩).rel
  have hcall := ask_ends (c := c) (e := e) (.call m.token found.callable ⟨os, []⟩)
    (fun cause => .instantiation found.qualifiedName (.raised cause))
    ((Host.callClass_ends (h := s.world.touched) hfound os).with_rel hlater)
  refine Ends.bind (hcall.mono (fun _ _ h => h) ?_) ?_
  · rintro err t ⟨hnone, cause, rfl⟩
    exact ⟨rfl, hnone⟩
  · rintro made t ⟨-, hmade⟩
    exact .of_ok rfl hmade

/-- A new instance is made of what the host has for values, unless a value cannot be stored or the
class makes nothing of them. -/
theorem newObject_ends (m : ManagedState) (target : Target α) (hs : s.Imported)
    (hdefines : s.world.Defines defs) (himportable : defs.Importable binding.moduleName)
    (hdenotes : defs.Denotes (binding.moduleSegments ++ [binding.className]) (.classObject cls))
    (hknown : ∀ v ∈ arguments, s.world.Knows v) :
    Ends
      (fun o t => arguments.findSome? Value.nonFinite? = none ∧ ∃ attributes,
        s.world.Makes cls arguments attributes ∧
        t.world.at? o.handle = some (.instanceOf cls attributes))
      (fun err _ => s.world.Verdict cls target arguments (.error err))
      ((onHost c e).newObject m binding arguments []) s := by
  rw [newObject]
  refine Ends.bind ((resolveBinding_finds m hs hdefines himportable hdenotes).mono
    (fun _ _ h => h) fun _ _ h => h.elim) ?_
  rintro found t ⟨hst, hfound⟩
  refine Ends.bind ((marshal_steady m.token fun v hv => hst.knows (hknown v hv)).mono
    (fun _ _ h => h) ?_) ?_
  · rintro err u ⟨x, hx, hkind⟩
    exact .unstorable hx hkind
  rintro ⟨os, ks⟩ u ⟨htu, hstorable, rfl, hos⟩
  -- What is seen of the objects is what the host had for the values.
  have hmakes {attributes : Attributes} :
      (∃ vs, os.mapM u.world.peek = .ok vs ∧ cls.instantiate vs [] = .ok attributes) ↔
        s.world.Makes cls arguments attributes := by
    rw [← hst.makes_iff hknown]
    simp only [peeks_of_stands hos, Host.Makes]
  refine (instantiate_ends m (htu.found hfound rfl) os).mono ?_ ?_
  · rintro o v ⟨vs, attributes, hvs, hattributes, ho⟩
    exact ⟨hstorable, attributes, hmakes.mp ⟨vs, hvs, hattributes⟩, ho⟩
  · rintro err v ⟨hkind, hnone⟩
    refine .unmade hstorable (fun attributes h => ?_) hkind
    obtain ⟨vs, hvs, hattributes⟩ := hmakes.mpr h
    exact hnone vs attributes hvs hattributes

/-- The attributes of an instance are decoded. -/
theorem coerceTo_ends (token : StateToken) (target : Target α) {o : ForeignObject}
    {attributes : Attributes} (ho : s.world.at? o.handle = some (.instanceOf cls attributes)) :
    Ends (fun x _ => decodeNative target (.map attributes) = .ok x)
      (fun err _ => err.kind = "coercion" ∧
        ∃ cause, decodeNative target (.map attributes) = .error cause)
      ((onHost c e).coerceTo token o target) s := by
  have hanswer : (onHost c e).interpreter.perform (.coerce token o) s.world =
      (.ok (.map attributes), s.world.touched) := Host.coerce_apply (h := s.world.touched) ho
  have happly := (onHost c e).coerceTo_apply token o target s
  rw [hanswer] at happly
  cases hdecoded : decodeNative target (.map attributes) with
  | ok x =>
      have hcoerced : coerced target o (.ok (.map attributes)) = .ok x :=
        congrArg (Except.mapError _) hdecoded
      exact .of_ok (happly.trans (by rw [hcoerced])) rfl
  | error cause =>
      have hcoerced : coerced target o (.ok (.map attributes)) =
          .error (.coercion o.typeName target.type.name cause) :=
        congrArg (Except.mapError _) hdecoded
      exact .of_error (happly.trans (by rw [hcoerced])) ⟨rfl, cause, rfl⟩

/-- A state is got without fail from a host that does not refuse. -/
theorem state_ends (key : StateKey) (hwilling : s.world.refusing = false) :
    Ends (fun _ t => s.world.Steady t.world ∧ s.Later none t) (fun _ _ => False)
      ((onHost c e).state key) s := by
  obtain ⟨m, t, hstate, -⟩ := state_aside 0 c e key hwilling
  have hsteady := (upholds_steady c e).state key s
  have hlater : s.Later none ((onHost c e).state key s).2 := (state_later c e key).rel
  rw [hstate] at hsteady hlater
  exact .of_ok hstate ⟨hsteady, hlater⟩

/-- An instance in native form ends as its values decide, if its class is found and a state can be
made. -/
theorem createInstance_verdict (target : Target α) {moduleName className : String}
    (hvalid : (⟨moduleName, className, []⟩ : Binding).validate target.type.name = .ok ())
    (hs : s.Imported) (hdefines : s.world.Defines defs) (hwilling : s.world.refusing = false)
    (himportable : defs.Importable moduleName)
    (hdenotes : defs.Denotes (Text.textSegments '.' moduleName ++ [className]) (.classObject cls))
    (hknown : ∀ v ∈ arguments, s.world.Knows v) :
    s.world.Verdict cls target arguments
      ((onHost c e).createInstance target moduleName className arguments s).1 := by
  rw [createInstance, observed_outcome]
  refine Ends.outcome (Ends.read (lift_apply _ s) (fun _ _ => ?_) fun err herr => ?_)
  · refine Ends.bind ((state_ends _ hwilling).mono (fun _ _ h => h) fun _ _ h => h.elim) ?_
    rintro m t ⟨hst, hlater⟩
    have hnew : Ends _ _ ((onHost c e).newObject m ⟨moduleName, className, []⟩ arguments []) t :=
      newObject_ends m target (hlater.imported hs) (defines_later hdefines hlater) himportable
        hdenotes fun v hv => hst.knows (hknown v hv)
    refine Ends.bind (hnew.mono (fun _ _ h => h) fun _ _ h => h.of_steady hst hknown) ?_
    rintro o u ⟨hstorable, attributes, hmakes, ho⟩
    rw [hst.makes_iff hknown] at hmakes
    refine Ends.bind ((coerceTo_ends m.token target ho).mono (fun _ _ h => h) ?_) ?_
    · rintro err v ⟨hkind, cause, hunfit⟩
      exact .unfit hstorable hmakes hunfit hkind
    · rintro x v hfits
      exact .of_ok rfl (.taken hstorable hmakes hfits)
  · cases hvalid.symm.trans herr

end Bridge

end ObjectBridge
