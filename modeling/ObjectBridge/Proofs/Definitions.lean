import Mathlib.Data.List.Infix
import ObjectBridge.Host

/-!
# What definitions of modules define

The modules of a host come from a list of definitions, each of which adds classes
to one module.  A class that is defined later replaces one of its name.  A dotted
name then denotes a class, or a module or a package around one, or nothing at all.

Main results:

- Definitions `Definitions.class?`, `Definitions.Importable`: the class of a name in
  a module, and the names of modules and packages.
- Theorem `Host.Defines.define`: a host knows what was defined.
- Definitions `Definitions.Denotes`, `Definitions.Breaks`: what is reached along a
  dotted name, and where a walk comes to an end.
- Theorem `Definitions.Denotes.failsAt`: a walk ends at the shortest part of the name
  that breaks.
- Theorem `Definitions.not_breaks_iff`: when a walk reaches a class or a module.
-/

namespace ObjectBridge

/-! ## Dotted names -/

/-- Names with dots between them. -/
def dotted (names : List String) : String :=
  ".".intercalate names

/-- A longer path has a longer dotted name. -/
theorem dotted_append {path rest : List String} (h : path ≠ []) (hrest : rest ≠ []) :
    dotted (path ++ rest) = dotted path ++ "." ++ dotted rest :=
  String.intercalate_append_of_ne_nil h hrest

/-- A path with one more name has that name behind one more dot. -/
theorem dotted_concat {path : List String} (h : path ≠ []) (name : String) :
    dotted (path ++ [name]) = dotted path ++ "." ++ name :=
  dotted_append h (List.cons_ne_nil name [])

/-- Joining by dots is putting dots between the pieces. -/
theorem joinSegments_eq_intercalate (pieces : List (List Char)) :
    Text.joinSegments '.' pieces = ['.'].intercalate pieces := by
  induction pieces with
  | nil => rfl
  | cons piece pieces ih =>
      cases pieces with
      | nil => simp [Text.joinSegments]
      | cons next rest => simp [Text.joinSegments, List.intercalate_cons_cons, ih]

/-- The segments of a text, with dots between them again. -/
theorem dotted_textSegments (s : String) : dotted (Text.textSegments '.' s) = s := by
  rw [← String.toList_inj, dotted, String.toList_intercalate, Text.textSegments, List.map_map]
  have hid : String.toList ∘ String.ofList = id := funext fun _ => String.toList_ofList
  rw [hid, List.map_id]
  exact (joinSegments_eq_intercalate _).symm.trans (Text.joinSegments_segments '.' s.toList)

/-- A name has one segment at least. -/
theorem textSegments_ne_nil (s : String) : Text.textSegments '.' s ≠ [] :=
  fun h => Text.segments_ne_nil '.' s.toList (List.map_eq_nil_iff.mp h)

/-! ## Definitions -/

/-- Definitions of modules, the earliest first: the name of a module and some of its classes. -/
abbrev Definitions := List (String × List HostClass)

namespace Definitions

/-- The class that was defined last under a name in a module. -/
def class? (defs : Definitions) (module name : String) : Option HostClass :=
  ((defs.filter fun d => d.1 = module).flatMap Prod.snd).reverse.find? fun c => c.name = name

/-- A name that a module is defined under, or the part of such a name before one of its dots. -/
def Importable (defs : Definitions) (name : String) : Prop :=
  ∃ d ∈ defs, d.1 = name ∨ ∃ rest, d.1 = name ++ "." ++ rest

/-- A class is looked up in the last definition of its module that has it. -/
theorem class?_concat (defs : Definitions) (d : String × List HostClass) (module name : String) :
    class? (defs ++ [d]) module name =
      if d.1 = module then (d.2.reverse.find? fun c => c.name = name).or (defs.class? module name)
      else defs.class? module name := by
  by_cases h : d.1 = module <;> simp [class?, h]

/-- A package around something that can be imported can be imported. -/
theorem Importable.of_longer {defs : Definitions} {path path' : List String} (hne : path ≠ [])
    (hpre : path <+: path') (h : defs.Importable (dotted path')) :
    defs.Importable (dotted path) := by
  obtain ⟨rest, rfl⟩ := hpre
  by_cases hrest : rest = []
  · rwa [hrest, List.append_nil] at h
  · obtain ⟨d, hd, hname | ⟨more, hname⟩⟩ := h
    · exact ⟨d, hd, .inr ⟨dotted rest, hname.trans (dotted_append hne hrest)⟩⟩
    · refine ⟨d, hd, .inr ⟨dotted rest ++ "." ++ more, hname.trans ?_⟩⟩
      rw [dotted_append hne hrest]
      simp only [String.append_assoc]

/-! ## What dotted names denote -/

/-- What a module has under a name: its class of that name, or else the module or package within
it. -/
inductive Attribute (defs : Definitions) (name : String) : HostObject → HostObject → Prop where
  | ofClass {module : String} {c : HostClass} (found : defs.class? module name = some c) :
      Attribute defs name (.module module) (.classObject c)
  | ofModule {module : String} (missing : defs.class? module name = none)
      (importable : defs.Importable (module ++ "." ++ name)) :
      Attribute defs name (.module module) (.module (module ++ "." ++ name))

/-- What is reached along the segments of a dotted name, from the module of the first one. -/
inductive Denotes (defs : Definitions) : List String → HostObject → Prop where
  | root (name : String) : Denotes defs [name] (.module name)
  | step {package : List String} {name : String} {x y : HostObject} (reached : Denotes defs package x)
      (found : defs.Attribute name x y) : Denotes defs (package ++ [name]) y

/-- A dotted name whose last segment is a class of the module that the others name. -/
def Shadowed (defs : Definitions) (path : List String) : Prop :=
  ∃ package name, path = package ++ [name] ∧ package ≠ [] ∧
    (defs.class? (dotted package) name).isSome

/-- A dotted name whose last segment is no attribute: the others name a class, or a module with
neither a class nor a module of that name. -/
def Breaks (defs : Definitions) (path : List String) : Prop :=
  ∃ package name, path = package ++ [name] ∧ package ≠ [] ∧
    (defs.Shadowed package ∨
      defs.class? (dotted package) name = none ∧ ¬ defs.Importable (dotted path))

/-- The walk along a dotted name ends at its shortest prefix that breaks. -/
def FailsAt (defs : Definitions) (path : List String) (target : String) : Prop :=
  ∃ n, target = dotted (path.take n) ∧ defs.Breaks (path.take n) ∧
    ∀ k < n, ¬ defs.Breaks (path.take k)

variable {defs : Definitions} {path package : List String} {name : String} {x : HostObject}

/-- A package is shadowed for a name when the package has a class of that name. -/
theorem shadowed_concat (h : package ≠ []) :
    defs.Shadowed (package ++ [name]) ↔ (defs.class? (dotted package) name).isSome := by
  constructor
  · rintro ⟨package', name', heq, -, hfound⟩
    obtain ⟨rfl, hname⟩ := List.append_inj' heq rfl
    cases hname
    exact hfound
  · intro hfound
    exact ⟨package, name, rfl, h, hfound⟩

/-- A path breaks at its last name when that is neither a class nor importable, or before. -/
theorem breaks_concat (h : package ≠ []) :
    defs.Breaks (package ++ [name]) ↔
      defs.Shadowed package ∨
        defs.class? (dotted package) name = none ∧ ¬ defs.Importable (dotted package ++ "." ++ name) := by
  rw [← dotted_concat h]
  constructor
  · rintro ⟨package', name', heq, -, hbreaks⟩
    obtain ⟨rfl, hname⟩ := List.append_inj' heq rfl
    cases hname
    exact hbreaks
  · intro hbreaks
    exact ⟨package, name, rfl, h, hbreaks⟩

/-- A name in a package is not a first name. -/
theorem concat_ne_singleton {first : String} (h : package ≠ []) :
    package ++ [name] ≠ [first] := by
  intro heq
  cases package with
  | nil => exact h rfl
  | cons => simp at heq

/-- Whatever is denoted is denoted by some name. -/
theorem Denotes.ne_nil (h : defs.Denotes path x) : path ≠ [] := by
  cases h <;> simp

/-- A dotted name denotes the module of that name, or the class of its last segment. -/
theorem Denotes.module_or_class (h : defs.Denotes path x) :
    x = .module (dotted path) ∧ ¬ defs.Shadowed path ∨
      (∃ c, x = .classObject c) ∧ defs.Shadowed path := by
  induction h with
  | root name =>
      refine .inl ⟨rfl, ?_⟩
      rintro ⟨package, name', heq, hne, -⟩
      exact concat_ne_singleton hne heq.symm
  | @step package name x y reached found ih =>
      have hne := reached.ne_nil
      rw [dotted_concat hne, shadowed_concat hne]
      cases found with
      | @ofClass module c found =>
          obtain ⟨hmodule, -⟩ | ⟨⟨_, hclass⟩, -⟩ := ih
          · cases hmodule
            exact .inr ⟨⟨c, rfl⟩, by rw [found]; rfl⟩
          · cases hclass
      | ofModule missing =>
          obtain ⟨hmodule, -⟩ | ⟨⟨_, hclass⟩, -⟩ := ih
          · cases hmodule
            exact .inl ⟨rfl, by simp [missing]⟩
          · cases hclass

/-- The last segment of a dotted name is read as a class first. -/
theorem Denotes.of_concat (h : defs.Denotes (package ++ [name]) x) (hne : package ≠ []) :
    x = (defs.class? (dotted package) name).elim (.module (dotted (package ++ [name])))
      HostObject.classObject := by
  generalize hpath : package ++ [name] = path at h
  cases h with
  | root first => exact absurd hpath (concat_ne_singleton hne)
  | step reached found =>
      obtain ⟨rfl, hname⟩ := List.append_inj' hpath rfl
      cases hname
      rw [dotted_concat hne]
      obtain ⟨rfl, -⟩ | ⟨⟨_, rfl⟩, -⟩ := reached.module_or_class
      · cases found with
        | ofClass found => rw [found, Option.elim_some]
        | ofModule missing => rw [missing, Option.elim_none]
      · cases found

/-- A walk that got as far as a module or a class breaks off where there is no attribute. -/
theorem Denotes.breaks_iff (h : defs.Denotes package x) (name : String) :
    defs.Breaks (package ++ [name]) ↔ ∀ y, ¬ defs.Attribute name x y := by
  rw [breaks_concat h.ne_nil]
  obtain ⟨rfl, hfree⟩ | ⟨⟨c, rfl⟩, hshadowed⟩ := h.module_or_class
  · constructor
    · rintro (hshadowed | ⟨hmissing, himportable⟩) y hy
      · exact hfree hshadowed
      · cases hy with
        | ofClass found =>
            rw [hmissing] at found
            cases found
        | ofModule _ importable => exact himportable importable
    · intro hnone
      refine .inr ⟨Option.eq_none_iff_forall_ne_some.mpr fun c hc => hnone _ (.ofClass hc), ?_⟩
      intro himportable
      cases hclass : defs.class? (dotted package) name with
      | some c => exact hnone _ (.ofClass hclass)
      | none => exact hnone _ (.ofModule hclass himportable)
  · constructor
    · rintro - y hy
      cases hy
    · rintro -
      exact .inl hshadowed

/-- Nothing breaks along a dotted name that denotes something. -/
theorem Denotes.not_breaks (h : defs.Denotes path x) {path' : List String}
    (hpre : path' <+: path) : ¬ defs.Breaks path' := by
  induction h with
  | root name =>
      rintro ⟨package, name', rfl, hne, -⟩
      obtain ⟨rest, hrest⟩ := hpre
      cases package with
      | nil => exact hne rfl
      | cons first others => simp at hrest
  | @step package name x y reached found ih =>
      obtain rfl | hpre := List.prefix_concat_iff.mp hpre
      · intro hbreaks
        exact (reached.breaks_iff name).mp hbreaks y found
      · exact ih hpre

/-- A walk that finds no attribute ends there. -/
theorem Denotes.failsAt (h : defs.Denotes package x) (hnone : ∀ y, ¬ defs.Attribute name x y)
    (rest : List String) :
    defs.FailsAt (package ++ name :: rest) (dotted package ++ "." ++ name) := by
  have htake : (package ++ name :: rest).take (package.length + 1) = package ++ [name] := by
    simp [List.take_append]
  refine ⟨package.length + 1, ?_, ?_, ?_⟩
  · rw [htake, dotted_concat h.ne_nil]
  · rw [htake, h.breaks_iff]
    exact hnone
  · intro k hk
    refine h.not_breaks ?_
    rw [List.take_append_of_le_length (Nat.le_of_lt_succ hk)]
    exact List.take_prefix k package

/-- Nothing breaks along the name of a class in a module that can be imported if no segment of the
module is hidden by a class, and the class is there or its name is that of a module. -/
theorem not_breaks_iff {segments : List String} (hne : segments ≠ [])
    (himportable : defs.Importable (dotted segments)) (className : String) :
    (∀ path, path <+: segments ++ [className] → ¬ defs.Breaks path) ↔
      (∀ package name rest, segments = package ++ name :: rest → package ≠ [] →
        defs.class? (dotted package) name = none) ∧
      ((defs.class? (dotted segments) className).isSome ∨
        defs.Importable (dotted segments ++ "." ++ className)) := by
  constructor
  · intro hfree
    constructor
    · intro package name rest hsegments hpackage
      -- Were there such a class, the name with one more segment would break.
      obtain ⟨next, hnext⟩ : ∃ next, package ++ [name] ++ [next] <+: segments ++ [className] := by
        cases rest with
        | nil => exact ⟨className, [], by simp [hsegments]⟩
        | cons next rest => exact ⟨next, rest ++ [className], by simp [hsegments]⟩
      have hbreaks := hfree _ hnext
      rw [breaks_concat (by simp), shadowed_concat hpackage, not_or] at hbreaks
      exact Option.not_isSome_iff_eq_none.mp hbreaks.1
    · have hbreaks := hfree _ (List.prefix_refl _)
      rw [breaks_concat hne, not_or, not_and, not_not] at hbreaks
      cases hclass : defs.class? (dotted segments) className with
      | some c => exact .inl rfl
      | none => exact .inr (hbreaks.2 hclass)
  · rintro ⟨hfree, hlast⟩ path hpath hbreaks
    obtain ⟨package, name, rfl, hpackage, hshadowed | ⟨hmissing, hforeign⟩⟩ := hbreaks
    · obtain ⟨outer, inner, rfl, houter, hclass⟩ := hshadowed
      have hinner : outer ++ [inner] <+: segments := by
        obtain hlonger | hpath := List.prefix_concat_iff.mp hpath
        · exact ⟨[], by rw [List.append_nil, (List.append_inj' hlonger rfl).1]⟩
        · exact (List.prefix_append _ _).trans hpath
      obtain ⟨rest, hrest⟩ := hinner
      have hnone := hfree outer inner rest (by simp [← hrest]) houter
      rw [hnone] at hclass
      cases hclass
    · obtain hwhole | hpath := List.prefix_concat_iff.mp hpath
      · obtain ⟨rfl, hname⟩ := List.append_inj' hwhole rfl
        cases hname
        rw [hmissing, ← dotted_concat hpackage] at hlast
        exact hlast.elim nofun hforeign
      · exact hforeign (himportable.of_longer (by simp) hpath)

end Definitions

/-! ## Hosts that know definitions -/

namespace Host

/-- The modules of a host are those of some definitions. -/
structure Defines (h : Host) (defs : Definitions) : Prop where
  classes : ∀ module name, h.class? module name = defs.class? module name
  names : ∀ name, name ∈ Entries.keys h.modules ↔ ∃ d ∈ defs, d.1 = name

/-- Of several classes with one name the last one stays. -/
theorem lookup_classes (classes : List HostClass) (module : Entries HostClass) (name : String) :
    Entries.lookup name (classes.foldl (fun m c => Entries.insert c.name c m) module) =
      (classes.reverse.find? fun c => c.name = name).or (Entries.lookup name module) := by
  induction classes generalizing module with
  | nil => rfl
  | cons c classes ih =>
      rw [List.foldl_cons, ih, Entries.lookup_insert, List.reverse_cons, List.find?_append]
      by_cases h : c.name = name <;> simp [h]

namespace Defines

variable {h h₁ : Host} {defs : Definitions} {name : String}

/-- A host without modules defines nothing. -/
theorem empty : Host.empty.Defines [] where
  classes _ _ := rfl
  names _ := by simp [Host.empty, Entries.keys]

/-- A host with the same modules defines the same. -/
theorem of_modules (hdefines : h.Defines defs) (hmodules : h₁.modules = h.modules) :
    h₁.Defines defs where
  classes module name := by
    rw [← hdefines.classes, class?, class?, hmodules]
  names name := by
    rw [hmodules, hdefines.names]

/-- A host knows one more definition. -/
theorem define (hdefines : h.Defines defs) (name : String) (classes : List HostClass) :
    (h.defineModule name classes).Defines (defs ++ [(name, classes)]) where
  classes module className := by
    rw [Definitions.class?_concat, ← hdefines.classes, class?, class?, defineModule,
      Entries.lookup_insert]
    by_cases hname : name = module
    · subst hname
      simp only [if_true, Option.bind_some, lookup_classes]
      cases Entries.lookup name h.modules <;> simp [Entries.lookup]
    · simp only [if_neg hname]
  names other := by
    rw [defineModule, Entries.mem_keys_insert, hdefines.names]
    simp [or_comm, eq_comm]

/-- A host finds modules under the names that can be imported. -/
theorem isModule_iff (hdefines : h.Defines defs) :
    h.isModule name = true ↔ defs.Importable name := by
  have hstarts (module : String) : (name ++ ".").toList.isPrefixOf module.toList = true ↔
      ∃ rest, module = name ++ "." ++ rest := by
    rw [List.isPrefixOf_iff_prefix]
    constructor
    · rintro ⟨rest, hrest⟩
      refine ⟨String.ofList rest, ?_⟩
      rw [← String.toList_inj, String.toList_append, String.toList_ofList, hrest]
    · rintro ⟨rest, rfl⟩
      exact ⟨rest.toList, String.toList_append.symm⟩
  have hkey : h.isModule name = true ↔
      ∃ module ∈ Entries.keys h.modules, module = name ∨ ∃ rest, module = name ++ "." ++ rest := by
    simp only [isModule, Entries.keys, List.any_eq_true, Bool.or_eq_true, beq_iff_eq, hstarts,
      List.mem_map, exists_exists_and_eq_and]
  rw [hkey, Definitions.Importable]
  constructor
  · rintro ⟨module, hmodule, hname⟩
    obtain ⟨d, hd, rfl⟩ := (hdefines.names module).mp hmodule
    exact ⟨d, hd, hname⟩
  · rintro ⟨d, hd, hname⟩
    exact ⟨d.1, (hdefines.names d.1).mpr ⟨d, hd, rfl⟩, hname⟩

end Defines

end Host

end ObjectBridge
