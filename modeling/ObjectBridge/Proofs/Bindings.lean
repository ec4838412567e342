import Mathlib.Data.List.Induction
import ObjectBridge.Proofs.Clauses
import ObjectBridge.Proofs.DeclarationFaults

/-!
# Bindings of declarations

The arguments of a declaration may be given in any order and more than once.  Here it is said which
lists of arguments are accepted and what binding the interface of the declaration has.

Main results:

- Definition `Meaning.Spelled`: how an argument is written.
- Theorem `lookup_declaredKinds`: a declaration may name the kinds there are, and each is passed on
  as its own variant.
- Theorem `Settings.add_eq_ok_iff`: what one more argument does to the settings.
- Theorem `Settings.ofTokens_binding`: the accepted lists of arguments, and their bindings.
-/

namespace ObjectBridge

/-! ## What an argument says -/

/-- What one argument of a declaration says. -/
inductive Meaning where
  | moduleName (name : String)
  | className (name : String)
  | proxy (name : String)
  | kinds (names : List String)

namespace Meaning

/-- How an argument is written: a text that is not blank for the module or the class, a name for the
proxy, or the names of kinds in brackets, which are matched before anything is read. -/
inductive Spelled : Meaning → List Token → Prop where
  | moduleName {name written : String} (hname : Text.isBlankText name = false) :
      Spelled (.moduleName name) [.name "module", .mark "=", .quoted name written]
  | className {name written : String} (hname : Text.isBlankText name = false) :
      Spelled (.className name) [.name "class", .mark "=", .quoted name written]
  | proxy {name : String} (hname : name ∉ keywords) :
      Spelled (.proxy name) [.name "proxy", .mark "=", .name name]
  | kinds {names : List String} {inside : List Token} {last : Token}
      (hinside : Separated (names.map fun name => [.name name]) inside)
      (hlast : last.closes = true) :
      Spelled (.kinds names) (.name "constructor_args" :: .mark "(" :: (inside ++ [last]))

/-- The names an argument gives to kinds are those of kinds, and there is one. -/
def Known : Meaning → Prop
  | kinds names => names ≠ [] ∧ ∀ name ∈ names, (Kind.parse name).isSome
  | _ => True

/-- The module an argument names. -/
def moduleName? : Meaning → Option String
  | moduleName name => some name
  | _ => none

/-- The class an argument names. -/
def className? : Meaning → Option String
  | className name => some name
  | _ => none

/-- The proxy an argument names. -/
def proxy? : Meaning → Option String
  | proxy name => some name
  | _ => none

/-- The kinds an argument names. -/
def kindNames : Meaning → List String
  | kinds names => names
  | _ => []

/-! ## Kinds in brackets -/

/-- A name is a token without brackets. -/
theorem flat_name (name : String) : Flat [.name name] := by
  simp [Flat, Token.opens, Token.closes]

/-- A name is a part of its own. -/
theorem isPart_name (name : String) : IsPart [.name name] :=
  isPart_of_flat (by simp) (flat_name name) (by simp)

/-- What stands in brackets is one list of names only. -/
theorem names_of_separated {names names' : List String} {inside : List Token}
    (h : Separated (names.map fun name => [.name name]) inside)
    (h' : Separated (names'.map fun name => [.name name]) inside) : names = names' := by
  have hsame := tokens_clauses (by simp [isPart_name]) h
  rw [tokens_clauses (by simp [isPart_name]) h'] at hsame
  exact (List.map_injective_iff.mpr (fun a b => by simp)) hsame.symm

/-- A clause that spells something is a part of its own. -/
theorem Spelled.isPart {e : Meaning} {ts : List Token} (h : Spelled e ts) : IsPart ts := by
  cases h with
  | kinds hinside hlast =>
    have hnames := hinside.flat (by simp [flat_name])
    exact isPart_group (flat_name "constructor_args") (by simp) (by decide) hnames hlast
  | _ => exact isPart_of_flat (by simp) (by simp [Flat, Token.opens, Token.closes]) (by simp)

/-- What an argument says can be told from how it is written. -/
theorem Spelled.unique {e e' : Meaning} {ts ts' : List Token} (h : Spelled e ts)
    (h' : Spelled e' ts') (hts : ts = ts') : e = e' := by
  cases h <;> cases h' <;> simp only [List.cons.injEq, Token.name.injEq, String.reduceEq,
    reduceCtorEq, false_and, and_false, true_and] at hts
  case moduleName.moduleName => rw [(Token.quoted.inj hts.1).1]
  case className.className => rw [(Token.quoted.inj hts.1).1]
  case proxy.proxy => rw [hts.1]
  case kinds.kinds hinside _ _ _ _ hinside' _ =>
    obtain ⟨rfl, -⟩ := List.append_inj' hts rfl
    rw [names_of_separated hinside hinside']

end Meaning

/-! ## The kinds of a declaration -/

/-- The kinds a declaration may name are all there are, each with its own variant. -/
theorem declaredKinds_eq : declaredKinds = Kind.all.map fun kind => (kind.name, kind.variant) := by
  rfl

/-- A declared kind is known by its name. -/
theorem lookup_declaredKinds (name : String) :
    declaredKinds.lookup name = (Kind.parse name).map Kind.variant := by
  rw [declaredKinds_eq, Kind.parse]
  induction Kind.all with
  | nil => rfl
  | cons kind kinds ih =>
    rw [List.map_cons, List.lookup_cons, List.find?_cons, ih, BEq.comm (a := name)]
    cases kind.name == name <;> rfl

/-- A kind is read back from its variant. -/
theorem ofVariant?_variant (kind : Kind) : Kind.ofVariant? kind.variant = some kind := by
  cases kind <;> decide

/-! ## Reading one argument -/

/-- A plain name is no keyword, and is all there is behind the sign. -/
theorem plainNameBehind_eq_ok_iff {isLast : Bool} {value : List Token} {name : String} :
    plainNameBehind isLast value = .ok name ↔
      name ∉ keywords ∧ value = [.mark "=", .name name] := by
  constructor
  · intro h
    obtain ⟨ts, hsign, hplain⟩ := exists_of_bind_eq_ok h
    obtain rfl := afterSign_eq_ok_iff.mp hsign
    split at hplain
    · split at hplain
      · cases hplain
      · rename_i hkeyword
        obtain ⟨⟨⟩, hfinish, hname⟩ := exists_of_bind_eq_ok hplain
        obtain rfl := Clause.finish_eq_ok_iff.mp hfinish
        obtain rfl := Except.ok.inj hname
        exact ⟨by simpa using hkeyword, rfl⟩
    · cases hplain
  · rintro ⟨hname, rfl⟩
    simp [plainNameBehind, afterSign, hname, Clause.finish, bind, Except.bind]

namespace Settings

/-- A kind is named by one name, which is that of a kind. -/
theorem readKind_eq_ok_iff {c : Clause} {variant : String} :
    readKind c = .ok variant ↔
      ∃ name kind, c.tokens = [.name name] ∧ Kind.parse name = some kind ∧
        kind.variant = variant := by
  constructor
  · intro h
    obtain ⟨⟨name, rest⟩, hpath, h⟩ := exists_of_bind_eq_ok h
    dsimp only at h
    split at h
    · cases h
    · rename_i hcolon
      split at h
      · cases h
      · rename_i hlookup
        obtain ⟨⟨⟩, hfinish, hvariant⟩ := exists_of_bind_eq_ok h
        obtain rfl := Clause.finish_eq_ok_iff.mp hfinish
        obtain rfl := Except.ok.inj hvariant
        rw [lookup_declaredKinds] at hlookup
        obtain ⟨kind, hkind, hvariant⟩ := Option.map_eq_some_iff.mp hlookup
        exact ⟨name, kind, Clause.tokens_of_path (by simpa using hcolon) hpath, hkind, hvariant⟩
  · rintro ⟨name, kind, htokens, hkind, rfl⟩
    have hcolon : ':' ∉ name.toList := by
      obtain rfl := Kind.parse_eq_some_iff.mp hkind
      cases kind <;> decide
    rw [readKind, Clause.path_name (by simp) htokens]
    simp [bind, Except.bind, hcolon, lookup_declaredKinds, hkind, Clause.finish]

/-- The kinds of some names, each passed on as its variant. -/
def variantsOf (names : List String) : List String :=
  (names.filterMap Kind.parse).map Kind.variant

/-- In brackets there is a list of names, of which each is that of a kind. -/
theorem mapM_readKind_eq_ok_iff {cs : List Clause} {variants : List String} :
    cs.mapM readKind = .ok variants ↔
      ∃ names : List String, cs.map Clause.tokens = names.map (fun name => [.name name]) ∧
        (∀ name ∈ names, (Kind.parse name).isSome) ∧ variants = variantsOf names := by
  induction cs generalizing variants with
  | nil =>
    constructor
    · intro h
      cases h
      exact ⟨[], rfl, by simp, rfl⟩
    · rintro ⟨names, hnames, -, rfl⟩
      obtain rfl : names = [] := by simpa using hnames.symm
      rfl
  | cons c cs ih =>
    rw [List.mapM_cons]
    constructor
    · intro h
      obtain ⟨variant, hc, h⟩ := exists_of_bind_eq_ok h
      obtain ⟨more, hcs, h⟩ := exists_of_bind_eq_ok h
      obtain rfl := Except.ok.inj h
      obtain ⟨name, kind, htokens, hkind, rfl⟩ := readKind_eq_ok_iff.mp hc
      obtain ⟨names, hnames, hknown, rfl⟩ := ih.mp hcs
      refine ⟨name :: names, by simp [htokens, hnames], ?_, by simp [variantsOf, hkind]⟩
      exact List.forall_mem_cons.mpr ⟨Option.isSome_of_eq_some hkind, hknown⟩
    · rintro ⟨names, hnames, hknown, rfl⟩
      have hne : names ≠ [] := by
        rintro rfl
        simp at hnames
      obtain ⟨name, names, rfl⟩ := List.exists_cons_of_ne_nil hne
      obtain ⟨htokens, hnames⟩ := List.cons.inj hnames
      obtain ⟨hkind, hknown⟩ := List.forall_mem_cons.mp hknown
      obtain ⟨kind, hkind⟩ := Option.isSome_iff_exists.mp hkind
      rw [readKind_eq_ok_iff.mpr ⟨name, kind, htokens, hkind, rfl⟩,
        ih.mpr ⟨names, hnames, hknown, rfl⟩]
      simp [variantsOf, hkind, bind, Except.bind, pure, Except.pure]

/-- Kinds are given by a list of names in brackets, which is not empty, and nothing behind. -/
theorem readKinds_eq_ok_iff {isLast : Bool} {value : List Token} {variants : List String} :
    readKinds isLast value = .ok variants ↔
      ∃ names inside last, value = .mark "(" :: (inside ++ [last]) ∧ last.closes = true ∧
        Separated (names.map fun name => [.name name]) inside ∧ names ≠ [] ∧
        (∀ name ∈ names, (Kind.parse name).isSome) ∧ variants = variantsOf names := by
  constructor
  · intro h
    unfold readKinds at h
    split at h
    · split at h
      · cases h
      · cases h
      · rename_i inside rest hne henclosed
        obtain ⟨more, hmore, h⟩ := exists_of_bind_eq_ok h
        obtain ⟨⟨⟩, hfinish, hvariants⟩ := exists_of_bind_eq_ok h
        obtain rfl := Clause.finish_eq_ok_iff.mp hfinish
        obtain rfl := Except.ok.inj hvariants
        obtain ⟨last, hlast, rfl⟩ := exists_of_enclosed henclosed
        obtain ⟨names, hnames, hknown, rfl⟩ := mapM_readKind_eq_ok_iff.mp hmore
        have hinside := separated_clauses inside
        rw [hnames] at hinside
        refine ⟨names, inside, last, rfl, hlast, hinside, ?_, hknown, rfl⟩
        rintro rfl
        exact hne (separated_nil_iff.mp hinside)
    · cases h
  · rintro ⟨names, inside, last, rfl, hlast, hinside, hne, hknown, rfl⟩
    have hflat : Flat inside := hinside.flat (by simp [Meaning.flat_name])
    have htokens := tokens_clauses (by simp [Meaning.isPart_name]) hinside
    have hread := mapM_readKind_eq_ok_iff.mpr ⟨names, htokens, hknown, rfl⟩
    cases inside with
    | nil => exact absurd (by simpa [clauses, splitCommas] using htokens.symm) hne
    | cons t inside =>
      have henclosed := enclosed_flat hflat hlast []
      rw [List.cons_append] at henclosed
      simp [readKinds, henclosed, hread, Clause.finish, bind, Except.bind]

/-! ## Reading all arguments -/

/-- The settings with what an argument says: a name replaces the one before, kinds are added. -/
def tell (s : Settings) : Meaning → Settings
  | .moduleName name => { s with moduleName := some name }
  | .className name => { s with className := some name }
  | .proxy name => { s with proxy := some name }
  | .kinds names => { s with kinds := s.kinds ++ variantsOf names }

/-- An argument is accepted if it is one of the four, and settles what it says. -/
theorem add_eq_ok_iff {s s' : Settings} {c : Clause} :
    s.add c = .ok s' ↔ ∃ e : Meaning, e.Spelled c.tokens ∧ e.Known ∧ s' = s.tell e := by
  constructor
  · intro h
    obtain ⟨⟨name, value⟩, hpath, hvalue⟩ := exists_of_bind_eq_ok h
    dsimp only at hvalue
    -- One case for each name an argument may have.
    split at hvalue
    · obtain ⟨text, htext, hs⟩ := exists_of_bind_eq_ok hvalue
      obtain ⟨hblank, written, rfl⟩ := nameInText_eq_ok_iff.mp htext
      cases hs
      rw [Clause.tokens_of_path (by decide) hpath]
      exact ⟨.moduleName text, .moduleName hblank, trivial, rfl⟩
    · obtain ⟨text, htext, hs⟩ := exists_of_bind_eq_ok hvalue
      obtain ⟨hblank, written, rfl⟩ := nameInText_eq_ok_iff.mp htext
      cases hs
      rw [Clause.tokens_of_path (by decide) hpath]
      exact ⟨.className text, .className hblank, trivial, rfl⟩
    · obtain ⟨proxy, hproxy, hs⟩ := exists_of_bind_eq_ok hvalue
      obtain ⟨hkeyword, rfl⟩ := plainNameBehind_eq_ok_iff.mp hproxy
      cases hs
      rw [Clause.tokens_of_path (by decide) hpath]
      exact ⟨.proxy proxy, .proxy hkeyword, trivial, rfl⟩
    · obtain ⟨variants, hvariants, hs⟩ := exists_of_bind_eq_ok hvalue
      obtain ⟨names, inside, last, rfl, hlast, hinside, hne, hknown, rfl⟩ :=
        readKinds_eq_ok_iff.mp hvariants
      cases hs
      rw [Clause.tokens_of_path (by decide) hpath]
      exact ⟨.kinds names, .kinds hinside hlast, ⟨hne, hknown⟩, rfl⟩
    · cases hvalue
  · rintro ⟨e, he, hknown, rfl⟩
    generalize htokens : c.tokens = ts at he
    unfold add
    cases he with
    | @moduleName name written hname | @className name written hname =>
      have hread : nameInText c.isLast [.mark "=", .quoted name written] = .ok name :=
        nameInText_eq_ok_iff.mpr ⟨hname, written, rfl⟩
      rw [Clause.path_name (by simp) htokens]
      simp [hread, bind, Except.bind, pure, Except.pure, tell]
    | proxy hname =>
      rw [Clause.path_name (by simp) htokens]
      simp [plainNameBehind_eq_ok_iff.mpr ⟨hname, rfl⟩, bind, Except.bind, pure, Except.pure, tell]
    | @kinds names inside last hinside hlast =>
      have hread : readKinds c.isLast (.mark "(" :: (inside ++ [last])) = .ok (variantsOf names) :=
        readKinds_eq_ok_iff.mpr
          ⟨names, inside, last, rfl, hlast, hinside, hknown.1, hknown.2, rfl⟩
      rw [Clause.path_name (by simp) htokens]
      simp [hread, bind, Except.bind, pure, Except.pure, tell]

/-- All arguments are accepted if each of them is, and settle what they say in their order. -/
theorem addAll_eq_ok_iff {s s' : Settings} {cs : List Clause} :
    s.addAll cs = .ok s' ↔
      ∃ es, List.Forall₂ Meaning.Spelled es (cs.map Clause.tokens) ∧
        (∀ e ∈ es, e.Known) ∧ s' = es.foldl tell s := by
  induction cs generalizing s with
  | nil =>
    constructor
    · intro h
      cases h
      exact ⟨[], .nil, by simp, rfl⟩
    · rintro ⟨es, hspelled, -, rfl⟩
      cases hspelled
      rfl
  | cons c cs ih =>
    rw [addAll, bind_eq_ok_iff, List.map_cons]
    constructor
    · rintro ⟨next, hadd, hrest⟩
      obtain ⟨e, hspelled, hknown, rfl⟩ := add_eq_ok_iff.mp hadd
      obtain ⟨es, hes, hall, rfl⟩ := ih.mp hrest
      exact ⟨e :: es, .cons hspelled hes, List.forall_mem_cons.mpr ⟨hknown, hall⟩, rfl⟩
    · rintro ⟨es, hspelled, hall, rfl⟩
      cases hspelled with
      | @cons e _ es _ he hes =>
        obtain ⟨hknown, hall⟩ := List.forall_mem_cons.mp hall
        exact ⟨s.tell e, add_eq_ok_iff.mpr ⟨e, he, hknown, rfl⟩, ih.mpr ⟨es, hes, hall, rfl⟩⟩

/-- Settings are accepted if module and class are given together, and kinds only with them. -/
theorem check_eq_ok_iff {s s' : Settings} :
    s.check = .ok s' ↔ s' = s ∧ (s.moduleName = none ↔ s.className = none) ∧
      (s.moduleName = none → s.kinds = []) := by
  unfold check
  cases hmodule : s.moduleName <;> cases hclass : s.className
  -- Kinds only matter where neither is named.
  case none.none =>
    by_cases hkinds : s.kinds = [] <;> simp [hkinds, eq_comm]
  all_goals simp [eq_comm]

end Settings

/-! ## Lists of arguments -/

namespace Meaning

/-- What the arguments in a list say. -/
def Listed (es : List Meaning) (ts : List Token) : Prop :=
  ∃ parts, List.Forall₂ Spelled es parts ∧ Separated parts ts

/-- The modules that arguments name. -/
def modules (es : List Meaning) : List String :=
  es.filterMap moduleName?

/-- The classes that arguments name. -/
def classes (es : List Meaning) : List String :=
  es.filterMap className?

/-- The proxies that arguments name. -/
def proxies (es : List Meaning) : List String :=
  es.filterMap proxy?

/-- The kinds that arguments name. -/
def names (es : List Meaning) : List String :=
  es.flatMap kindNames

/-- Arguments that go together: each kind is known, module and class are named together, and kinds
are named only with them. -/
structure Sound (es : List Meaning) : Prop where
  known : ∀ name ∈ names es, (Kind.parse name).isSome
  paired : modules es = [] ↔ classes es = []
  bound : modules es = [] → names es = []

/-- Clauses mean what they spell one by one. -/
theorem listed_iff {es : List Meaning} {ts : List Token} :
    Listed es ts ↔ List.Forall₂ Spelled es ((clauses ts).map Clause.tokens) := by
  constructor
  · rintro ⟨parts, hspelled, hparts⟩
    have hpart : ∀ part ∈ parts, IsPart part := fun part hmem => by
      obtain ⟨e, -, he⟩ := exists_of_forall₂ hspelled hmem
      exact he.isPart
    rwa [tokens_clauses hpart hparts]
  · exact fun h => ⟨_, h, separated_clauses ts⟩

/-- What the arguments in a list say can be told from how the list is written. -/
theorem Listed.unique {es es' : List Meaning} {ts : List Token} (h : Listed es ts)
    (h' : Listed es' ts) : es = es' :=
  List.left_unique_forall₂' (fun _ _ _ h h' => h.unique h' rfl) (listed_iff.mp h)
    (listed_iff.mp h')

/-- What all arguments settle: the last name of each kind, and all kinds. -/
theorem foldl_tell (es : List Meaning) :
    es.foldl Settings.tell Settings.empty =
      ⟨(modules es).getLast?, (classes es).getLast?, Settings.variantsOf (names es),
        (proxies es).getLast?⟩ := by
  induction es using List.reverseRecOn with
  | nil => rfl
  | append_singleton es e ih =>
    rw [List.foldl_append, ih]
    cases e <;> simp [Settings.tell, modules, classes, proxies, names, moduleName?, className?,
      proxy?, kindNames, Settings.variantsOf]

/-- The kinds of known names are kept one by one. -/
theorem map_filterMap_parse {names : List String}
    (hnames : ∀ name ∈ names, (Kind.parse name).isSome) :
    (names.filterMap Kind.parse).map some = names.map Kind.parse := by
  induction names with
  | nil => rfl
  | cons name names ih =>
    obtain ⟨hname, hnames⟩ := List.forall_mem_cons.mp hnames
    obtain ⟨kind, hkind⟩ := Option.isSome_iff_exists.mp hname
    simp [hkind, ih hnames]

/-- What passes for a kind in generated code is the kind that was named. -/
theorem filterMap_variantsOf (names : List String) :
    (Settings.variantsOf names).filterMap Kind.ofVariant? = names.filterMap Kind.parse := by
  have hvariants : Kind.ofVariant? ∘ Kind.variant = some := funext ofVariant?_variant
  rw [Settings.variantsOf, List.filterMap_map, hvariants, List.filterMap_some]

/-- No variants are those of no names. -/
theorem variantsOf_eq_nil_iff {names : List String}
    (hnames : ∀ name ∈ names, (Kind.parse name).isSome) :
    Settings.variantsOf names = [] ↔ names = [] := by
  have hlength : (Settings.variantsOf names).length = names.length := by
    have hparsed := congrArg List.length (map_filterMap_parse hnames)
    simpa [Settings.variantsOf] using hparsed
  rw [← List.length_eq_zero_iff, hlength, List.length_eq_zero_iff]

/-- Arguments are known one by one if all names are, and none of them names no kinds. -/
theorem forall_known_iff {es : List Meaning} :
    (∀ e ∈ es, e.Known) ↔
      (∀ names, .kinds names ∈ es → names ≠ []) ∧ ∀ name ∈ names es, (Kind.parse name).isSome := by
  constructor
  · intro h
    refine ⟨fun names hmem => (h _ hmem).1, fun name hname => ?_⟩
    obtain ⟨e, he, hname⟩ := List.mem_flatMap.mp hname
    cases e with
    | kinds names => exact (h _ he).2 name hname
    | _ => exact absurd hname List.not_mem_nil
  · rintro ⟨hne, hnames⟩ e he
    cases e with
    | kinds names =>
      exact ⟨hne names he, fun name hname => hnames name (List.mem_flatMap.mpr ⟨_, he, hname⟩)⟩
    | _ => trivial

end Meaning

namespace Settings

/-- A list of arguments is accepted if they go together and no brackets are empty. -/
theorem ofTokens_eq_ok_iff {ts : List Token} {s : Settings} :
    ofTokens ts = .ok s ↔
      ∃ es, Meaning.Listed es ts ∧ Meaning.Sound es ∧
        (∀ names, .kinds names ∈ es → names ≠ []) ∧ s = es.foldl tell empty := by
  rw [ofTokens, bind_eq_ok_iff]
  constructor
  · rintro ⟨told, hadd, hcheck⟩
    obtain ⟨es, hspelled, hknown, rfl⟩ := addAll_eq_ok_iff.mp hadd
    obtain ⟨rfl, hpaired, hbound⟩ := check_eq_ok_iff.mp hcheck
    obtain ⟨hne, hnames⟩ := Meaning.forall_known_iff.mp hknown
    rw [Meaning.foldl_tell] at hpaired hbound
    refine ⟨es, Meaning.listed_iff.mpr hspelled, ⟨hnames, ?_, ?_⟩, hne, rfl⟩
    · simpa using hpaired
    · simpa [Meaning.variantsOf_eq_nil_iff hnames] using hbound
  · rintro ⟨es, hlisted, hsound, hne, rfl⟩
    refine ⟨es.foldl tell empty, addAll_eq_ok_iff.mpr ⟨es, Meaning.listed_iff.mp hlisted,
      Meaning.forall_known_iff.mpr ⟨hne, hsound.known⟩, rfl⟩, check_eq_ok_iff.mpr ⟨rfl, ?_, ?_⟩⟩
    · rw [Meaning.foldl_tell]
      simpa using hsound.paired
    · rw [Meaning.foldl_tell]
      simpa [Meaning.variantsOf_eq_nil_iff hsound.known] using hsound.bound

end Settings

namespace Settings

/-- Without a module or a class there is no binding. -/
theorem binding_eq_none_iff {s : Settings} :
    s.binding = none ↔ s.moduleName = none ∨ s.className = none := by
  unfold binding
  cases s.moduleName <;> cases s.className <;> simp

/-- A binding has the module, the class and the kinds of the settings. -/
theorem of_binding_eq_some {s : Settings} {b : Binding} (h : s.binding = some b) :
    s.moduleName = some b.moduleName ∧ s.className = some b.className ∧
      b.argumentKinds = s.kinds.filterMap Kind.ofVariant? := by
  unfold binding at h
  split at h
  · cases h
    simp [*]
  · cases h

end Settings

/-- The proxy and the binding of a declaration are those of its settings. -/
theorem Declaration.binding_of_expand {d : Declaration} {s : Settings} {x : Expansion}
    (h : d.expand s = .ok x) : x.proxy = d.proxyName s ∧ x.interface.binding = s.binding := by
  rw [expand] at h
  split at h
  · cases h
  · obtain ⟨items, -, h⟩ := exists_of_bind_eq_ok h
    cases h
    exact ⟨rfl, rfl⟩

/-- Which lists of arguments are accepted, and which binding they give.

A list is accepted if each argument names a module or a class by a text that is not blank, a proxy
by a name, or kinds in brackets that are not empty, if every kind is one, and if module and class
are named together, and kinds only with them.  The last module, the last class and the last proxy
count.  The interface has a binding if a class is named, with the kinds of all brackets in their
order. -/
theorem Settings.ofTokens_binding :
    (∀ ts, (∃ s, Settings.ofTokens ts = .ok s) ↔
      ∃ es, Meaning.Listed es ts ∧ Meaning.Sound es ∧ ∀ names, .kinds names ∈ es → names ≠ []) ∧
    ∀ ts s es, Settings.ofTokens ts = .ok s → Meaning.Listed es ts →
      s.moduleName = (Meaning.modules es).getLast? ∧
      s.className = (Meaning.classes es).getLast? ∧
      s.proxy = (Meaning.proxies es).getLast? ∧
      ∀ (d : Declaration) x, d.expand s = .ok x →
        x.proxy = (Meaning.proxies es).getLast?.getD (plainName d.identifier ++ "Proxy") ∧
        (x.interface.binding = none ↔ Meaning.modules es = [] ∧ Meaning.classes es = []) ∧
        ∀ binding, x.interface.binding = some binding →
          (Meaning.modules es).getLast? = some binding.moduleName ∧
          (Meaning.classes es).getLast? = some binding.className ∧
          binding.argumentKinds.map some = (Meaning.names es).map Kind.parse := by
  constructor
  · intro ts
    constructor
    · rintro ⟨s, h⟩
      obtain ⟨es, hlisted, hsound, hne, -⟩ := Settings.ofTokens_eq_ok_iff.mp h
      exact ⟨es, hlisted, hsound, hne⟩
    · rintro ⟨es, hlisted, hsound, hne⟩
      exact ⟨_, Settings.ofTokens_eq_ok_iff.mpr ⟨es, hlisted, hsound, hne, rfl⟩⟩
  · intro ts s es h hlisted
    obtain ⟨es', hlisted', hsound, -, rfl⟩ := Settings.ofTokens_eq_ok_iff.mp h
    obtain rfl := hlisted.unique hlisted'
    rw [Meaning.foldl_tell]
    refine ⟨rfl, rfl, rfl, fun d x hx => ?_⟩
    obtain ⟨hproxy, hbinding⟩ := Declaration.binding_of_expand hx
    rw [hproxy, hbinding]
    refine ⟨rfl, ?_, fun binding hbinding => ?_⟩
    · rw [Settings.binding_eq_none_iff, List.getLast?_eq_none_iff, List.getLast?_eq_none_iff,
        ← hsound.paired, or_self, and_self]
    · obtain ⟨hmodule, hclass, hkinds⟩ := Settings.of_binding_eq_some hbinding
      refine ⟨hmodule, hclass, ?_⟩
      rw [hkinds, Meaning.filterMap_variantsOf, Meaning.map_filterMap_parse hsound.known]

/-- Arguments in an unusual order, some of them given again, with a comma behind the last. -/
theorem Settings.ofTokens_binding_repeated :
    let ts := withCommas [[.name "class", .mark "=", .ofText "Basket"],
      [.name "constructor_args", .mark "(", .name "int", .mark ",", .name "str", .mark ")"],
      [.name "module", .mark "=", .ofText "Shop"], [.name "class", .mark "=", .ofText "Cart"],
      [.name "constructor_args", .mark "(", .name "any", .mark ",", .mark ")"]] ++ [.mark ","]
    ∃ s, Settings.ofTokens ts = .ok s ∧ s.moduleName = some "Shop" ∧ s.className = some "Cart" := by
  intro ts
  let es : List Meaning :=
    [.className "Basket", .kinds ["int", "str"], .moduleName "Shop", .className "Cart",
      .kinds ["any"]]
  have hlisted : Meaning.Listed es ts := by
    refine ⟨_, ?_, .inr ⟨List.cons_ne_nil _ _, rfl⟩⟩
    have htwo : Separated (["int", "str"].map fun name => [.name name])
        [.name "int", .mark ",", .name "str"] := .inl rfl
    have hone : Separated (["any"].map fun name => [.name name]) [.name "any", .mark ","] :=
      .inr ⟨List.cons_ne_nil _ _, rfl⟩
    exact .cons (.className rfl) (.cons (.kinds htwo rfl) (.cons (.moduleName rfl)
      (.cons (.className rfl) (.cons (.kinds hone rfl) .nil))))
  have hsound : Meaning.Sound es := ⟨by decide, by decide, by decide⟩
  have hne : ∀ names, .kinds names ∈ es → names ≠ [] := by
    rintro names hmem rfl
    simp [es] at hmem
  obtain ⟨s, hs⟩ := (Settings.ofTokens_binding.1 ts).mpr ⟨es, hlisted, hsound, hne⟩
  obtain ⟨hmodule, hclass, -⟩ := Settings.ofTokens_binding.2 ts s es hs hlisted
  exact ⟨s, hs, hmodule, hclass⟩

/-- Brackets without any kind are refused, though nothing is wrong with what they say. -/
theorem Settings.ofTokens_empty_brackets :
    let ts := withCommas [[.name "module", .mark "=", .ofText "M"],
      [.name "class", .mark "=", .ofText "C"],
      [.name "constructor_args", .mark "(", .mark ")"]]
    ¬((∃ s, Settings.ofTokens ts = .ok s) ↔ ∃ es, Meaning.Listed es ts ∧ Meaning.Sound es) := by
  intro ts h
  have hrefused : Settings.ofTokens ts = .error .settingNeeded := by decide
  have hlisted : Meaning.Listed [.moduleName "M", .className "C", .kinds []] ts := by
    have hnone : Separated (([] : List String).map fun name => [.name name]) [] := .inl rfl
    exact ⟨_, .cons (.moduleName rfl) (.cons (.className rfl) (.cons (.kinds hnone rfl) .nil)),
      .inl rfl⟩
  obtain ⟨s, hs⟩ := h.mpr ⟨_, hlisted, ⟨by decide, by decide, by decide⟩⟩
  rw [hrefused] at hs
  cases hs

end ObjectBridge
