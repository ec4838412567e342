import ObjectBridge.Proofs.Definitions
import ObjectBridge.Proofs.HostCalls

/-!
# Resolution on a scripted host

The importer of a host looks at the whole name of a module and answers with its first
package.  The bridge then walks along the other segments and to the class.  So a class
that is in the way hides the modules behind it, and what is found for a binding may be
a module, which cannot be called.

Main results:

- Theorem `Bridge.walk_ends`: the walk reaches what its names denote, or ends where
  the first of them breaks.
- Theorem `Bridge.resolveBinding_ends`: the same for a binding.
- Theorem `Bridge.resolution_of_history`: when a binding is resolved, to what, and
  where it fails otherwise.
-/

namespace ObjectBridge

/-! ## Answers of a host -/

namespace Host

variable {h : Host} {defs : Definitions} {o : ForeignObject} {x : HostObject} {name : String}

/-- The importer makes the first package of a module, if there is such a module. -/
theorem callImporter_apply {a : ForeignObject} (ho : h.Imports o)
    (ha : h.at? a.handle = some (.data (.str name))) :
    Host.call o ⟨[a], []⟩ h =
      if h.isModule name then
        (Host.make (.module ((Text.textSegments '.' name).headD name)) : HostAction _) h
      else (.error (.missingModule name), h) := by
  have hargument : ([a].head?.mapM Host.valueOf) h = (.ok (some (.str name)), h) := by
    rw [head_apply, List.head?_cons, Option.mapM_some, peek_eq_ok_iff.mpr ⟨_, ha, rfl⟩]
    rfl
  rw [Host.call, bind_apply_ok (find_of_at? ho)]
  simp only [importModule]
  rw [bind_apply_ok hargument]
  simp only []
  rw [bind_apply_ok (get_apply h)]
  split <;> rfl

/-- The importer gives the first package of a name that can be imported. -/
theorem callImporter_ends {a : ForeignObject} (hdefines : h.Defines defs) (ho : h.Imports o)
    (ha : h.at? a.handle = some (.data (.str name))) :
    Ends (fun package h₁ => h.Later none h₁ ∧ defs.Importable name ∧
        h₁.at? package.handle = some (.module ((Text.textSegments '.' name).headD name)))
      (fun _ _ => ¬ defs.Importable name) (Host.call o ⟨[a], []⟩) h := by
  have happly := callImporter_apply ho ha
  by_cases hmodule : h.isModule name = true
  · rw [if_pos hmodule] at happly
    exact .of_ok happly ⟨.pushed rfl, hdefines.isModule_iff.mp hmodule, at?_made⟩
  · rw [if_neg hmodule] at happly
    exact .of_error happly fun himportable => hmodule (hdefines.isModule_iff.mpr himportable)

/-- A module has its classes, and what can be imported from it. -/
theorem getAttribute_module {module : String} (ho : h.at? o.handle = some (.module module))
    (name : String) :
    Host.getAttribute o name h =
      match h.class? module name with
      | some c => Host.make (.classObject c) h
      | none =>
        if h.isModule (module ++ "." ++ name) then
          Host.make (.module (module ++ "." ++ name)) h
        else
          (.error ⟨"AttributeError", s!"module '{module}' has no attribute '{name}'"⟩, h) := by
  rw [Host.getAttribute, bind_apply_ok (find_of_at? ho)]
  simp only []
  rw [bind_apply_ok (get_apply h)]
  cases hclass : h.class? module name with
  | some c => rfl
  | none =>
      simp only []
      split <;> rfl

/-- A class has no attributes to be found. -/
theorem getAttribute_class {c : HostClass} (ho : h.at? o.handle = some (.classObject c))
    (name : String) :
    Host.getAttribute o name h = (.error (.missingAttribute o.typeName name), h) := by
  rw [Host.getAttribute, bind_apply_ok (find_of_at? ho)]
  rfl

/-- The attribute of a module or a class is read if there is one. -/
theorem getAttribute_ends (hdefines : h.Defines defs) (ho : h.at? o.handle = some x)
    (hsymbol : x.isSymbol = true) (name : String) :
    Ends (fun o' h₁ => h.Later none h₁ ∧ ∃ y, defs.Attribute name x y ∧
        h₁.at? o'.handle = some y)
      (fun _ _ => ∀ y, ¬ defs.Attribute name x y) (Host.getAttribute o name) h := by
  cases x with
  | module module =>
      have happly := getAttribute_module ho name
      rw [hdefines.classes] at happly
      cases hclass : defs.class? module name with
      | some c =>
          rw [hclass] at happly
          exact .of_ok happly ⟨.pushed rfl, _, .ofClass hclass, at?_made⟩
      | none =>
          rw [hclass] at happly
          by_cases hmodule : h.isModule (module ++ "." ++ name) = true
          · simp only [if_pos hmodule] at happly
            exact .of_ok happly
              ⟨.pushed rfl, _, .ofModule hclass (hdefines.isModule_iff.mp hmodule), at?_made⟩
          · simp only [if_neg hmodule] at happly
            refine .of_error happly fun y hy => ?_
            cases hy with
            | ofClass found =>
                rw [hclass] at found
                cases found
            | ofModule _ importable => exact hmodule (hdefines.isModule_iff.mpr importable)
  | classObject c => exact .of_error (getAttribute_class ho name) fun y hy => by cases hy
  | _ => cases hsymbol

/-- A module cannot be called. -/
theorem call_module {module : String} (ho : h.at? o.handle = some (.module module))
    (arguments : Arguments) :
    Host.call o arguments h =
      (.error (.wrongType s!"'{o.typeName}' object is not callable"), h) := by
  rw [Host.call, bind_apply_ok (find_of_at? ho)]
  rfl

end Host

/-- What is denoted is a symbol. -/
theorem Definitions.Denotes.isSymbol {defs : Definitions} {path : List String} {x : HostObject}
    (h : defs.Denotes path x) : x.isSymbol = true := by
  obtain ⟨rfl, -⟩ | ⟨⟨c, rfl⟩, -⟩ := h.module_or_class <;> rfl

/-! ## Walks -/

namespace Bridge

variable {c : Configuration} {e : Environment} {s : Session Host} {defs : Definitions}

/-- A request ends as it ends on the host, in a later session. -/
theorem ask_ends (request : Request) (failure : ForeignError → BridgeError)
    {Q : request.Answer → Host → Prop} {E : Prop}
    (h : Ends (fun x h₁ => s.world.touched.Later none h₁ ∧ Q x h₁) (fun _ _ => E)
      (Host.grant request) s.world.touched) :
    Ends (fun x t => s.Later none t ∧ Q x t.world) (fun err _ => E ∧ ∃ cause, err = failure cause)
      ((onHost c e).ask request failure) s := by
  refine .ask (fun x w hperform => ?_) fun cause w hperform => ?_
  · have hgrant : Host.grant request s.world.touched = (.ok x, w) := hperform
    rw [Ends, hgrant] at h
    exact ⟨.of_world (trans_of _ (.touched _) h.1) rfl, h.2⟩
  · have hgrant : Host.grant request s.world.touched = (.error cause, w) := hperform
    rw [Ends, hgrant] at h
    exact ⟨h, cause, rfl⟩

/-- A later host defines the same. -/
theorem defines_later {t : Session Host} (hdefines : s.world.Defines defs)
    (hlater : s.Later none t) : t.world.Defines defs :=
  hdefines.of_modules hlater.world.modules

/-- A walk along names reaches what they denote, or ends at the first of them that breaks. -/
theorem walk_ends (m : ManagedState) (names : List String) {path : List String} {x : HostObject}
    {o : ForeignObject} (hdefines : s.world.Defines defs) (hpath : defs.Denotes path x)
    (ho : s.world.at? o.handle = some x) :
    Ends (fun o' t => s.Later none t ∧ ∃ y, defs.Denotes (path ++ names) y ∧
        t.world.at? o'.handle = some y)
      (fun err _ => ∃ target cause, err = .lookup target cause ∧
        ∀ rest, defs.FailsAt (path ++ names ++ rest) target)
      ((onHost c e).walk m o (dotted path) names) s := by
  induction names generalizing path x o s with
  | nil =>
      refine .pure ⟨refl_of _ s, x, ?_, ho⟩
      rw [List.append_nil]
      exact hpath
  | cons name names ih =>
      rw [walk]
      have hstep := ask_ends (c := c) (e := e) (.getAttribute m.token o name)
        (notFound (dotted path ++ "." ++ name))
        (Host.getAttribute_ends (h := s.world.touched) (hdefines.of_modules rfl) ho
          hpath.isSymbol name)
      refine Ends.bind (hstep.mono (fun _ _ h => h) ?_) ?_
      · rintro err t ⟨hnone, cause, rfl⟩
        refine ⟨_, _, rfl, fun rest => ?_⟩
        rw [List.append_assoc]
        exact hpath.failsAt hnone (names ++ rest)
      · rintro next t ⟨hlater, y, hattribute, hnext⟩
        have hrest := ih (defines_later hdefines hlater) (hpath.step hattribute) hnext
        rw [dotted_concat hpath.ne_nil] at hrest
        refine hrest.mono ?_ ?_
        · rintro o' u ⟨hlater', z, hz, ho'⟩
          refine ⟨trans_of _ hlater hlater', z, ?_, ho'⟩
          rwa [List.append_assoc] at hz
        · rintro err u ⟨target, cause, rfl, hfails⟩
          refine ⟨target, cause, rfl, fun rest => ?_⟩
          have h := hfails rest
          rwa [List.append_assoc path] at h

/-! ## Modules and classes -/

/-- An error of a name that is not found: the target is its module if that cannot be imported, and
otherwise the part of the path at which the walk ends. -/
def Misses (defs : Definitions) (moduleName : String) (path : List String) (err : BridgeError) :
    Prop :=
  ∃ target cause, err = .lookup target cause ∧
    (¬ defs.Importable moduleName ∧ target = moduleName ∨
      defs.Importable moduleName ∧ defs.FailsAt path target)

/-- The importer of a state is found without fail. -/
theorem importer_ends (m : ManagedState) (hs : s.Imported) :
    Ends (fun o t => s.Later none t ∧ t.world.Imports o) (fun _ _ => False)
      ((onHost c e).importer m) s := by
  obtain ⟨o, t, himporter, -, himports⟩ := importer_aside 0 c e m (Nat.zero_le _) hs
  have hlater : s.Later none _ := (importer_later c e m hs).rel
  rw [himporter] at hlater
  exact .of_ok himporter ⟨hlater, himports⟩

/-- The module of a name is what its segments denote. -/
theorem resolveModule_ends (m : ManagedState) {importer : ForeignObject} (name : String)
    (hdefines : s.world.Defines defs) (himporter : s.world.Imports importer) :
    Ends (fun o t => s.Later none t ∧ defs.Importable name ∧
        ∃ y, defs.Denotes (Text.textSegments '.' name) y ∧ t.world.at? o.handle = some y)
      (fun err _ => ∀ rest, Misses defs name (Text.textSegments '.' name ++ rest) err)
      ((onHost c e).resolveModule m importer name) s := by
  obtain ⟨root, names, hsegments⟩ := List.exists_cons_of_ne_nil (textSegments_ne_nil name)
  simp only [resolveModule, hsegments, List.headD_cons, List.tail_cons]
  -- The name of the module becomes an object.
  have hargument := ask_ends (c := c) (e := e) (s := s) (E := False)
    (.toForeign m.token (.str name)) (notFound name)
    (Q := fun a h₁ => h₁.at? a.handle = some (.data (.str name)))
    (.of_ok (Host.make_apply _ _) ⟨.pushed rfl, Host.at?_made⟩)
  refine Ends.bind (hargument.mono (fun _ _ h => h) fun _ _ h => h.1.elim) ?_
  rintro a t ⟨hlater, ha⟩
  -- The importer answers with the first package.
  have hcall := ask_ends (c := c) (e := e) (s := t) (.call m.token importer ⟨[a], []⟩)
    (notFound name)
    (Host.callImporter_ends (h := t.world.touched) ((defines_later hdefines hlater).of_modules rfl)
      (hlater.world.imports himporter) ha)
  refine Ends.bind (hcall.mono (fun _ _ h => h) ?_) ?_
  · rintro err u ⟨hforeign, cause, rfl⟩ rest
    exact ⟨_, _, rfl, .inl ⟨hforeign, rfl⟩⟩
  rintro package u ⟨hlater', himportable, hpackage⟩
  rw [hsegments, List.headD_cons] at hpackage
  have hlater'' : s.Later none u := trans_of _ hlater hlater'
  -- The other segments are read one after another.
  have hwalk := walk_ends (c := c) (e := e) m names (defines_later hdefines hlater'') (.root root)
    hpackage
  have hroot : dotted [root] = root := rfl
  rw [hroot, List.singleton_append] at hwalk
  refine Ends.bind (hwalk.mono (fun _ _ h => h) ?_) ?_
  · rintro err v ⟨target, cause, rfl, hfails⟩ rest
    exact ⟨_, _, rfl, .inr ⟨himportable, hfails rest⟩⟩
  rintro o v ⟨hlast, y, hy, ho⟩
  have hnoted : v.Later none (v.entered (.notice (.moduleResolved m.id name))) := .of_eq rfl rfl
  exact .of_ok rfl ⟨trans_of _ hlater'' (trans_of _ hlast hnoted), himportable, y, hy, ho⟩

/-- What is found for a binding is what its segments and its class denote. -/
theorem resolveBinding_ends (m : ManagedState) (binding : Binding)
    (hdefines : s.world.Defines defs) (hs : s.Imported) :
    Ends (fun found t => s.Later none t ∧ defs.Importable binding.moduleName ∧
        found.qualifiedName = binding.qualifiedName ∧
        ∃ y, defs.Denotes (binding.moduleSegments ++ [binding.className]) y ∧
          t.world.at? found.callable.handle = some y)
      (fun err _ =>
        Misses defs binding.moduleName (binding.moduleSegments ++ [binding.className]) err)
      ((onHost c e).resolveBinding m binding) s := by
  rw [resolveBinding]
  refine Ends.bind ((importer_ends m hs).mono (fun _ _ h => h) fun _ _ h => h.elim) ?_
  rintro importer t ⟨hlater, himporter⟩
  have hmodule := resolveModule_ends (c := c) (e := e) m binding.moduleName
    (defines_later hdefines hlater) himporter
  rw [resolveClass]
  refine Ends.bind (hmodule.mono (fun _ _ h => h) fun err u h => h [binding.className]) ?_
  rintro module u ⟨hlater', himportable, x, hx, ho⟩
  have hlater'' : s.Later none u := trans_of _ hlater hlater'
  have hclass := ask_ends (c := c) (e := e) (.getAttribute m.token module binding.className)
    (notFound binding.qualifiedName)
    (Host.getAttribute_ends (h := u.world.touched) ((defines_later hdefines hlater'').of_modules rfl)
      ho hx.isSymbol binding.className)
  refine Ends.bind (hclass.mono (fun _ _ h => h) ?_) ?_
  · rintro err v ⟨hnone, cause, rfl⟩
    have hfails := hx.failsAt hnone []
    rw [dotted_textSegments] at hfails
    exact ⟨_, _, rfl, .inr ⟨himportable, hfails⟩⟩
  rintro callable v ⟨hlast, y, hy, hcallable⟩
  have hnoted : v.Later none
      (v.entered (.notice (.classResolved m.id binding.qualifiedName))) := .of_eq rfl rfl
  exact .of_ok rfl ⟨trans_of _ hlater'' (trans_of _ hlast hnoted), himportable, rfl, y, hx.step hy,
    hcallable⟩

/-! ## What is found for a binding -/

/-- The segments of a module name are joined to that name. -/
theorem dotted_moduleSegments (binding : Binding) :
    dotted binding.moduleSegments = binding.moduleName :=
  dotted_textSegments _

/-- A module name has one segment at least. -/
theorem moduleSegments_ne_nil (binding : Binding) : binding.moduleSegments ≠ [] :=
  textSegments_ne_nil _

/-- The segments with the class are joined to the qualified name. -/
theorem dotted_binding (binding : Binding) :
    dotted (binding.moduleSegments ++ [binding.className]) = binding.qualifiedName := by
  rw [dotted_concat (moduleSegments_ne_nil binding), dotted_moduleSegments, Binding.qualifiedName]

/-- A binding is resolved exactly when its module can be imported and nothing breaks along its
name. -/
theorem exists_resolveBinding_iff (m : ManagedState) (binding : Binding)
    (hdefines : s.world.Defines defs) (hs : s.Imported) :
    (∃ found, ((onHost c e).resolveBinding m binding s).1 = .ok found) ↔
      defs.Importable binding.moduleName ∧
        ∀ path, path <+: binding.moduleSegments ++ [binding.className] → ¬ defs.Breaks path := by
  have hends := resolveBinding_ends (c := c) (e := e) m binding hdefines hs
  constructor
  · rintro ⟨found, hfound⟩
    obtain ⟨-, himportable, -, x, hx, -⟩ := hends.ok hfound
    exact ⟨himportable, fun path hpath => hx.not_breaks hpath⟩
  · rintro ⟨himportable, hfree⟩
    cases houtcome : ((onHost c e).resolveBinding m binding s).1 with
    | ok found => exact ⟨found, rfl⟩
    | error err =>
        obtain ⟨target, cause, -, ⟨hforeign, -⟩ | ⟨-, n, -, hbreaks, -⟩⟩ := hends.error houtcome
        · exact absurd himportable hforeign
        · exact absurd hbreaks (hfree _ (List.take_prefix n _))

/-- What is found for a binding is its class, or else the module of that name. -/
theorem object_of_resolveBinding {m : ManagedState} {binding : Binding} {found : ResolvedClass}
    (hdefines : s.world.Defines defs) (hs : s.Imported)
    (hfound : ((onHost c e).resolveBinding m binding s).1 = .ok found) :
    found.qualifiedName = binding.qualifiedName ∧
      ((onHost c e).resolveBinding m binding s).2.Imported ∧
      ((onHost c e).resolveBinding m binding s).2.world.object? found.callable =
        some ((defs.class? binding.moduleName binding.className).elim
          (.module binding.qualifiedName) HostObject.classObject) := by
  have hends := resolveBinding_ends (c := c) (e := e) m binding hdefines hs
  obtain ⟨hlater, -, hname, x, hx, hcallable⟩ := hends.ok hfound
  have hobject := hx.of_concat (moduleSegments_ne_nil binding)
  rw [dotted_moduleSegments, dotted_binding] at hobject
  exact ⟨hname, hlater.imported hs, hobject ▸ hcallable⟩

/-- What denotes a module cannot be instantiated. -/
theorem instantiate_module {found : ResolvedClass} {module : String}
    (hfound : s.world.at? found.callable.handle = some (.module module)) (m : ManagedState)
    (arguments : Arguments) :
    ∃ cause, ((onHost c e).instantiate m found arguments s).1 =
      .error (.instantiation found.qualifiedName (.raised cause)) := by
  have hcall : (onHost c e).interpreter.perform (.call m.token found.callable arguments) s.world =
      (.error (.wrongType s!"'{found.callable.typeName}' object is not callable"),
        s.world.touched) := Host.call_module (h := s.world.touched) hfound arguments
  rw [instantiate, bind_apply_error (ask_refused hcall)]
  exact ⟨_, rfl⟩

end Bridge

/-! ## Histories -/

/-- What happens to a bridge over a host: a module is defined, or a call is made. -/
inductive HostEvent where
  | define (name : String) (classes : List HostClass)
  | call (call : Call)

/-- The definition that an event is. -/
def HostEvent.definition? : HostEvent → Option (String × List HostClass)
  | define name classes => some (name, classes)
  | call _ => none

/-- The definitions in a history. -/
def definitions (history : List HostEvent) : Definitions :=
  history.filterMap HostEvent.definition?

namespace Bridge

variable {c : Configuration} {e : Environment} {s : Session Host} {defs : Definitions}

/-- The session after an event. -/
def happen (b : Bridge Host) (s : Session Host) : HostEvent → Session Host
  | .define name classes => { s with world := s.world.defineModule name classes }
  | .call call => (b.step s call).after

/-- The session after a history. -/
def develop (b : Bridge Host) (s : Session Host) (history : List HostEvent) : Session Host :=
  history.foldl b.happen s

/-- Importers are found anew or kept in every event. -/
theorem happen_imported (hs : s.Imported) (event : HostEvent) :
    ((onHost c e).happen s event).Imported := by
  cases event with
  | define name classes => exact hs
  | call call => exact (step_later c e hs call).imported hs

/-- An event defines what it says, and nothing else. -/
theorem happen_defines (hs : s.Imported) (hdefines : s.world.Defines defs) (event : HostEvent) :
    ((onHost c e).happen s event).world.Defines (defs ++ event.definition?.toList) := by
  cases event with
  | define name classes => exact hdefines.define name classes
  | call call =>
      rw [HostEvent.definition?, Option.toList_none, List.append_nil]
      exact hdefines.of_modules (step_later c e hs call).world.modules

/-- Modules and classes are never anything else. -/
theorem happen_kept (hs : s.Imported) {n : Nat} {x : HostObject} (hx : s.world.at? n = some x)
    (hinstance : x.isInstance = false) (event : HostEvent) :
    ((onHost c e).happen s event).world.at? n = some x := by
  cases event with
  | define name classes => exact hx
  | call call => exact (step_later c e hs call).world.kept hx (.inr hinstance)

/-- A history defines what its events do. -/
theorem develop_defines (hs : s.Imported) (hdefines : s.world.Defines defs)
    (history : List HostEvent) :
    ((onHost c e).develop s history).Imported ∧
      ((onHost c e).develop s history).world.Defines (defs ++ definitions history) := by
  induction history generalizing s defs with
  | nil =>
      rw [definitions, List.filterMap_nil, List.append_nil]
      exact ⟨hs, hdefines⟩
  | cons event history ih =>
      have hrest := ih (happen_imported (c := c) (e := e) hs event) (happen_defines hs hdefines event)
      have hdefinitions : definitions (event :: history) =
          event.definition?.toList ++ definitions history := by
        rw [definitions, List.filterMap_cons]
        cases event.definition? <;> rfl
      rwa [List.append_assoc, ← hdefinitions] at hrest

/-- Objects that are no instances stay what they are. -/
theorem develop_kept (hs : s.Imported) {n : Nat} {x : HostObject} (hx : s.world.at? n = some x)
    (hinstance : x.isInstance = false) (history : List HostEvent) :
    ((onHost c e).develop s history).world.at? n = some x := by
  induction history generalizing s with
  | nil => exact hx
  | cons event history ih =>
      exact ih (happen_imported hs event) (happen_kept hs hx hinstance event)

/-- Resolution after any definitions of modules, with any calls in between.  A binding is resolved
exactly when its module can be imported, no segment of the module is hidden by a class, and the
class is there or its name is that of a module.  What is found is the class that was defined last,
or else a module, which can never be instantiated.  Otherwise the error names the module if it
cannot be imported, and the shortest part of the whole name that breaks if it can. -/
theorem resolution_of_history (c : Configuration) (e : Environment) (history : List HostEvent)
    (m : ManagedState) (binding : Binding) :
    let b := onHost c e
    let resolved := b.resolveBinding m binding (b.develop (b.start .empty) history)
    let defs := definitions history
    ((∃ found, resolved.1 = .ok found) ↔
      defs.Importable binding.moduleName ∧
        (∀ package name rest, binding.moduleSegments = package ++ name :: rest → package ≠ [] →
          defs.class? (dotted package) name = none) ∧
        ((defs.class? binding.moduleName binding.className).isSome ∨
          defs.Importable binding.qualifiedName)) ∧
      (∀ found, resolved.1 = .ok found → found.qualifiedName = binding.qualifiedName ∧
        (∀ cls, defs.class? binding.moduleName binding.className = some cls →
          resolved.2.world.object? found.callable = some (.classObject cls)) ∧
        (defs.class? binding.moduleName binding.className = none →
          resolved.2.world.object? found.callable = some (.module binding.qualifiedName) ∧
          ∀ further m' arguments, ∃ cause,
            (b.instantiate m' found arguments (b.develop resolved.2 further)).1 =
              .error (.instantiation binding.qualifiedName (.raised cause)))) ∧
      ∀ err, resolved.1 = .error err →
        Misses defs binding.moduleName (binding.moduleSegments ++ [binding.className]) err := by
  intro b resolved defs
  have hstart : (b.start .empty).Imported := fun id o hfound => by cases hfound
  obtain ⟨hs, hdefines⟩ := develop_defines (c := c) (e := e) hstart .empty history
  change Host.Defines _ defs at hdefines
  refine ⟨?_, ?_, fun err herr => (resolveBinding_ends m binding hdefines hs).error herr⟩
  · refine (exists_resolveBinding_iff m binding hdefines hs).trans ?_
    refine and_congr_right fun himportable => ?_
    have hfree := Definitions.not_breaks_iff (moduleSegments_ne_nil binding)
      ((dotted_moduleSegments binding).symm ▸ himportable) binding.className
    rwa [← dotted_concat (moduleSegments_ne_nil binding), dotted_binding,
      dotted_moduleSegments] at hfree
  · intro found hfound
    obtain ⟨hname, hlast, hobject⟩ := object_of_resolveBinding hdefines hs hfound
    refine ⟨hname, fun cls hcls => ?_, fun hnone => ?_⟩
    · rwa [hcls] at hobject
    · rw [hnone, Option.elim_none] at hobject
      refine ⟨hobject, fun further m' arguments => ?_⟩
      rw [← hname]
      exact instantiate_module (develop_kept hlast hobject rfl further) m' arguments

/-- A class of a package hides the module of the same name. -/
example (c : Configuration) (e : Environment) (m : ManagedState) :
    let history : List HostEvent :=
      [.define "shop" [⟨"cars", none, []⟩], .define "shop.cars" [⟨"Car", none, []⟩]]
    ((onHost c e).resolveBinding m ⟨"shop.cars", "Car", []⟩
      ((onHost c e).develop ((onHost c e).start .empty) history)).1 =
      .error (.lookup "shop.cars.Car" (.raised (.missingAttribute "type" "Car"))) := by
  cbv

end Bridge

end ObjectBridge
