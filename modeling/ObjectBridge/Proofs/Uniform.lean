import ObjectBridge.Host.Fixtures
import ObjectBridge.Proofs.Handles

/-!
# Uniform classes

A class is uniform if it treats handles as opaque.  The number of a handle is the
identity of an object and carries no data.  A constructor or a method gets handles
with its arguments and finds them in attributes.  It may pass them on, keep them and
compare them with one another, but learns nothing from their numbers.  So it does
alike on alike data, whatever the handles of the objects made in the meantime are;
only the handles of objects that were there before may be known to it.

Main results:

- Definition `HostClass.Uniform`: classes that treat handles as opaque.
- Theorem `HostClass.scripted_uniform`: every class of scripts is uniform, if its
  fixed answers do not name objects that are yet to be made.
- Theorem `Host.fixtures_uniform`: so are all classes of the sample host.
-/

namespace ObjectBridge

variable {α β : Type}

/-! ## Finite maps with related values -/

namespace Entries.Alike

variable {V : α → β → Prop} {xs : Entries α} {ys : Entries β}

/-- Lookups in alike maps agree. -/
theorem lookup (key : String) (h : Entries.Alike V xs ys) :
    Option.Rel V (Entries.lookup key xs) (Entries.lookup key ys) := by
  induction h with
  | nil => exact .none
  | @cons k l xs ys hkl _ ih =>
      obtain ⟨k, x⟩ := k
      obtain ⟨l, y⟩ := l
      obtain ⟨rfl, hxy⟩ := hkl
      rw [Entries.lookup, Entries.lookup]
      split
      · exact .some hxy
      · exact ih

/-- Insertions of alike values keep maps alike. -/
theorem insert (key : String) {x : α} {y : β} (hxy : V x y) (h : Entries.Alike V xs ys) :
    Entries.Alike V (Entries.insert key x xs) (Entries.insert key y ys) := by
  induction h with
  | nil => exact .cons ⟨rfl, hxy⟩ .nil
  | @cons k l xs ys hkl hrest ih =>
      obtain ⟨k, x'⟩ := k
      obtain ⟨l, y'⟩ := l
      obtain ⟨rfl, hxy'⟩ := hkl
      rw [Entries.insert, Entries.insert]
      split
      · exact .cons ⟨rfl, hxy⟩ (.cons ⟨rfl, hxy'⟩ hrest)
      · split
        · exact .cons ⟨rfl, hxy⟩ hrest
        · exact .cons ⟨rfl, hxy'⟩ ih

/-- Keys paired with alike values are alike. -/
theorem zip (keys : List String) {as : List α} {bs : List β} (h : List.Forall₂ V as bs) :
    Entries.Alike V (keys.zip as) (keys.zip bs) := by
  induction keys generalizing as bs with
  | nil => exact .nil
  | cons key keys ih =>
      cases h with
      | nil => exact .nil
      | cons hab hrest => exact .cons ⟨rfl, hab⟩ (ih hrest)

/-- Alike entries make alike maps. -/
theorem ofList (h : Entries.Alike V xs ys) :
    Entries.Alike V (Entries.ofList xs) (Entries.ofList ys) := by
  suffices ∀ {ms : Entries α} {ns : Entries β}, Entries.Alike V ms ns →
      Entries.Alike V (xs.foldl (fun map entry => Entries.insert entry.1 entry.2 map) ms)
        (ys.foldl (fun map entry => Entries.insert entry.1 entry.2 map) ns) from this .nil
  induction h with
  | nil => exact fun hms => hms
  | @cons k l xs ys hkl _ ih =>
      obtain ⟨k, x⟩ := k
      obtain ⟨l, y⟩ := l
      obtain ⟨rfl, hxy⟩ := hkl
      exact fun hms => ih (insert k hxy hms)

end Entries.Alike

/-- What is found after a number of insertions was inserted or was there before. -/
theorem Entries.lookup_foldl_insert {f : β → String × α} {xs : List β} {map : Entries α}
    {key : String} {x : α}
    (h : lookup key (xs.foldl (fun map y => insert (f y).1 (f y).2 map) map) = some x) :
    (∃ y ∈ xs, f y = (key, x)) ∨ lookup key map = some x := by
  induction xs generalizing map with
  | nil => exact .inr h
  | cons y ys ih =>
      rcases ih h with ⟨z, hz, heq⟩ | hinsert
      · exact .inl ⟨z, .tail _ hz, heq⟩
      · rw [lookup_insert] at hinsert
        split at hinsert
        · rename_i hkey
          exact .inl ⟨y, .head _, Prod.ext hkey (Option.some.inj hinsert)⟩
        · exact .inr hinsert

/-! ## Uniform handles -/

/-- A one-to-one relation of handles that leaves the handles below a number as they are. -/
structure Correspondence (base : Nat) (N : Nat → Nat → Prop) : Prop where
  fixed : ∀ n < base, N n n
  unique : ∀ {n n' m m'}, N n n' → N m m' → (n = m ↔ n' = m')

/-- A value all of whose handles are below a number. -/
def Value.Below (base : Nat) (v : Value) : Prop :=
  v.Alike (fun n n' => n = n' ∧ n < base) v

/-- A constructor that makes alike attributes from alike arguments. -/
def Constructor.Uniform (base : Nat) (construct : Constructor) : Prop :=
  ∀ ⦃N⦄, Correspondence base N → ∀ ⦃vs vs' ks ks'⦄, List.Forall₂ (Value.Alike N) vs vs' →
    Entries.Alike (Value.Alike N) ks ks' →
    Agree (Entries.Alike (Value.Alike N)) (construct vs ks) (construct vs' ks')

/-- A method that has alike results and leaves alike attributes when it is given alike attributes
and arguments. -/
def HostMethod.Uniform (base : Nat) (method : HostMethod) : Prop :=
  ∀ ⦃N⦄, Correspondence base N → ∀ ⦃as as' vs vs'⦄, Entries.Alike (Value.Alike N) as as' →
    List.Forall₂ (Value.Alike N) vs vs' →
    Agree (List.Forall₂ (Value.Alike N)) (method as vs).1 (method as' vs').1 ∧
      Entries.Alike (Value.Alike N) (method as vs).2 (method as' vs').2

/-- A class whose constructor and methods treat handles as opaque. -/
structure HostClass.Uniform (base : Nat) (c : HostClass) : Prop where
  construct : ∀ construct, c.construct = some construct → Constructor.Uniform base construct
  methods : ∀ name method, Entries.lookup name c.methods = some method →
    HostMethod.Uniform base method

variable {base : Nat} {N : Nat → Nat → Prop}

/-- Values with early handles are alike to themselves. -/
theorem Value.Below.alike (hN : Correspondence base N) {v : Value} (h : v.Below base) :
    v.Alike N v := by
  refine Alike.mono (fun hn => ?_) h
  obtain ⟨rfl, hn⟩ := hn
  exact hN.fixed _ hn

/-- A class makes alike instances from alike arguments, also when it has no constructor. -/
theorem HostClass.Uniform.instantiate {c : HostClass} (h : c.Uniform base) :
    Constructor.Uniform base c.instantiate := by
  intro N hN vs vs' ks ks' hvs hks
  rw [HostClass.instantiate, HostClass.instantiate]
  cases hconstruct : c.construct with
  | some construct => exact h.construct construct hconstruct hN hvs hks
  | none =>
      cases hvs with
      | nil =>
          cases hks with
          | nil => exact .ok .nil
          | cons _ _ => exact .error _
      | cons _ _ => exact .error _

/-! ## Scripts -/

/-- Scripted constructors treat handles as opaque. -/
theorem ConstructorScript.run_uniform (className : String) (script : ConstructorScript) :
    Constructor.Uniform base (script.run className) := by
  intro N hN vs vs' ks ks' hvs hks
  cases script with
  | fill attributes =>
      rw [ConstructorScript.run, ConstructorScript.run, hvs.length_eq]
      split
      · exact .error _
      · exact .ok (Entries.Alike.ofList (List.rel_append (Entries.Alike.zip attributes hvs) hks))
  | collect key => exact .ok (.cons ⟨rfl, Value.Alike.list_iff.mpr hvs⟩ .nil)
  | raise e => exact .error e

namespace MethodScript

/-- The values in the fixed answer of a script. -/
def answers : MethodScript → List Value
  | answer results => results
  | _ => []

/-- Alike attributes have alike values. -/
theorem valueOf_alike {as as' : Attributes} (h : Entries.Alike (Value.Alike N) as as')
    (name : String) : (valueOf as name).Alike N (valueOf as' name) := by
  rw [valueOf, valueOf]
  exact rel_getD (h.lookup name) (.of_plain rfl)

/-- Alike attributes have alike items. -/
theorem itemsOf_alike {as as' : Attributes} (h : Entries.Alike (Value.Alike N) as as')
    (name : String) : List.Forall₂ (Value.Alike N) (itemsOf as name) (itemsOf as' name) := by
  rw [itemsOf, itemsOf]
  exact rel_getD (rel_bind (h.lookup name) fun hv => hv.asList) .nil

/-- Scripted methods treat handles as opaque, if their fixed answers hold early ones only. -/
theorem run_uniform (name : String) (script : MethodScript)
    (h : ∀ v ∈ script.answers, v.Below base) : HostMethod.Uniform base (script.run name) := by
  intro N hN as as' vs vs' has hvs
  cases script with
  | read names =>
      refine ⟨.ok ?_, has⟩
      rw [List.forall₂_map_left_iff, List.forall₂_map_right_iff]
      exact List.forall₂_same.mpr fun name _ => valueOf_alike has name
  | write key =>
      cases hvs with
      | nil => exact ⟨.error _, has⟩
      | cons hv hvs =>
          cases hvs with
          | nil => exact ⟨.ok .nil, has.insert key hv⟩
          | cons hw hvs =>
              simp only [run, List.length_cons, hvs.length_eq]
              exact ⟨.error _, has⟩
  | answer results => exact ⟨.ok (List.forall₂_same.mpr fun v hv => (h v hv).alike hN), has⟩
  | raise e => exact ⟨.error e, has⟩
  | push key =>
      have hitems := List.rel_append (itemsOf_alike has key) hvs
      exact ⟨.ok .nil, has.insert key (Value.Alike.list_iff.mpr hitems)⟩
  | length key =>
      rw [run, run, (itemsOf_alike has key).length_eq]
      exact ⟨.ok (.cons (.of_plain rfl) .nil), has⟩
  | echo => exact ⟨.ok hvs, has⟩

end MethodScript

/-- Every class of scripts is uniform if its fixed answers do not name objects that
are yet to be made. -/
theorem HostClass.scripted_uniform (name : String) (construct : Option ConstructorScript)
    (methods : List (String × MethodScript))
    (h : ∀ m ∈ methods, ∀ v ∈ m.2.answers, v.Below base) :
    (scripted name construct methods).Uniform base where
  construct c hc := by
    obtain ⟨script, _, rfl⟩ := Option.map_eq_some_iff.mp hc
    exact ConstructorScript.run_uniform name script
  methods key method hmethod := by
    rcases Entries.lookup_foldl_insert (f := id) hmethod with ⟨entry, hentry, heq⟩ | hnil
    · obtain ⟨m, hm, rfl⟩ := List.mem_map.mp hentry
      cases heq
      exact MethodScript.run_uniform m.1 m.2 (h m hm)
    · cases hnil

/-! ## Sample classes -/

/-- The constructor of a car treats handles as opaque. -/
theorem Car.construct_uniform : Constructor.Uniform base Car.construct := by
  intro N hN vs vs' ks ks' hvs hks
  have hcar {v v' : Value} (hv : v.Alike N v') : Entries.Alike (Value.Alike N)
      [("numberPlate", v), ("wheels", .int 4)] [("numberPlate", v'), ("wheels", .int 4)] :=
    .cons ⟨rfl, hv⟩ (.cons ⟨rfl, .of_plain rfl⟩ .nil)
  have hvlen := hvs.length_eq
  have hklen := hks.length_eq
  rw [construct.eq_def, construct.eq_def]
  split
  · cases hvs
    cases hks
    exact .ok (hcar (.of_plain rfl))
  · cases hks
    cases hvs with
    | cons hv hvs =>
        cases hvs
        exact .ok (hcar hv)
  · cases hvs
    cases hks with
    | @cons _ l _ _ hkl hks =>
        obtain ⟨l, v'⟩ := l
        obtain ⟨rfl, hv⟩ := hkl
        cases hks
        exact .ok (hcar hv)
  · rename_i hnone hplate hkeyword
    split
    · cases hvs
      cases hks
      exact (hnone rfl rfl).elim
    · cases hks
      cases hvs with
      | cons hv hvs =>
          cases hvs
          exact (hplate _ rfl rfl).elim
    · cases hvs
      cases hks with
      | @cons k _ _ _ hkl hks =>
          obtain ⟨k, v⟩ := k
          obtain ⟨rfl, hv⟩ := hkl
          cases hks
          exact (hkeyword _ rfl rfl).elim
    · rw [hvlen, hklen]
      exact .error _

/-- The class of cars does so. -/
theorem Car.hostClass_uniform : Car.hostClass.Uniform base where
  construct _ hc := by
    cases hc
    exact construct_uniform
  methods := (HostClass.scripted_uniform "Car" none _ (by simp [MethodScript.answers])).methods

/-- The constructor of a building treats handles as opaque. -/
theorem Building.construct_uniform : Constructor.Uniform base Building.construct := by
  intro N hN vs vs' ks ks' hvs hks
  have hvlen := hvs.length_eq
  rw [construct.eq_def, construct.eq_def]
  cases hvs with
  | nil => exact .error _
  | cons hid hvs =>
      cases hvs with
      | nil => exact .error _
      | cons hname hvs =>
          cases hvs with
          | nil => exact .error _
          | cons haddress hvs =>
              cases hvs with
              | nil =>
                  exact .ok (.cons ⟨rfl, haddress⟩ (.cons ⟨rfl, hid⟩ (.cons ⟨rfl, hname⟩ .nil)))
              | cons _ _ =>
                  simp only []
                  rw [hvlen]
                  exact .error _

/-- The class of buildings does so. -/
theorem Building.hostClass_uniform : Building.hostClass.Uniform base where
  construct _ hc := by
    cases hc
    exact construct_uniform
  methods := (HostClass.scripted_uniform "Building" none _ (by simp [MethodScript.answers])).methods

/-! ## Hosts -/

/-- Objects of one kind, and of one uniform class, that are alike up to a relation of handles. -/
inductive HostObject.Alike (base : Nat) (N : Nat → Nat → Prop) :
    HostObject → HostObject → Prop where
  | data {v v' : Value} (alike : v.Alike N v') : Alike base N (.data v) (.data v')
  | classObject {c : HostClass} (uniform : c.Uniform base) :
      Alike base N (.classObject c) (.classObject c)
  | instanceOf {c : HostClass} {as as' : Attributes} (uniform : c.Uniform base)
      (alike : Entries.Alike (Value.Alike N) as as') :
      Alike base N (.instanceOf c as) (.instanceOf c as')
  | module (name : String) : Alike base N (.module name) (.module name)
  | importer : Alike base N .importer .importer

/-- Objects that are alike are so up to every wider relation of handles. -/
theorem HostObject.Alike.mono {M : Nat → Nat → Prop} (hNM : ∀ {n n'}, N n n' → M n n')
    {x x' : HostObject} (h : x.Alike base N x') : x.Alike base M x' := by
  cases h with
  | data halike => exact .data (halike.mono hNM)
  | classObject huniform => exact .classObject huniform
  | instanceOf huniform has =>
      exact .instanceOf huniform (has.imp fun _ _ hv => ⟨hv.1, hv.2.mono hNM⟩)
  | module name => exact .module name
  | importer => exact .importer

/-- The object behind a handle that is given by its number. -/
def Host.at? (h : Host) (n : Nat) : Option HostObject :=
  h.objects[n]?.join

/-- A host all of whose classes are uniform, and whose data hold no handles but its own. -/
structure Host.Uniform (h : Host) : Prop where
  classes : ∀ module name c, h.class? module name = some c → c.Uniform h.objects.size
  objects : ∀ n x, h.at? n = some x →
    x.Alike h.objects.size (fun n n' => n = n' ∧ n < h.objects.size) x

/-- The host without modules is uniform. -/
theorem Host.empty_uniform : Host.empty.Uniform where
  classes _ _ _ h := by cases h
  objects n _ h := by
    rw [Host.at?, Host.empty, Array.getElem?_empty] at h
    cases h

/-- Modules of uniform classes can be added to a host. -/
theorem Host.Uniform.defineModule {h : Host} (huniform : h.Uniform) (name : String)
    {classes : List HostClass} (hclasses : ∀ c ∈ classes, c.Uniform h.objects.size) :
    (h.defineModule name classes).Uniform where
  classes module className c hc := by
    rw [Host.class?, Host.defineModule, Entries.lookup_insert] at hc
    split at hc
    · have hfound := Entries.lookup_foldl_insert (f := fun c : HostClass => (c.name, c)) hc
      rcases hfound with ⟨d, hd, heq⟩ | hkept
      · cases heq
        exact hclasses _ hd
      · cases hmodule : Entries.lookup name h.modules with
        | none =>
            rw [hmodule] at hkept
            cases hkept
        | some m =>
            rw [hmodule] at hkept
            refine huniform.classes name className c ?_
            rw [Host.class?, hmodule]
            exact hkept
    · exact huniform.classes module className c hc
  objects := huniform.objects

/-- The host of the fixtures is uniform. -/
theorem Host.fixtures_uniform : Host.fixtures.Uniform := by
  refine (Host.empty_uniform.defineModule "Car" ?_).defineModule "Building" ?_
  · exact fun c hc => List.mem_singleton.mp hc ▸ Car.hostClass_uniform
  · exact fun c hc => List.mem_singleton.mp hc ▸ Building.hostClass_uniform

end ObjectBridge
