import Mathlib.Tactic.MkIffOfInductiveProp
import ObjectBridge.Proofs.Expansion
import ObjectBridge.Proofs.FirstFaults

/-!
# Faults of declarations

Which declarations are expanded is spread over the checks of markers, arguments, receivers and
result types.  Here it is said in one place what a well-formed declaration is, and in which order
the faults of any other one are met.

Main results:

- Definition `Declaration.WellFormed`: the declarations that are expanded.
- Definition `Method.faults`: the faults of a method in the order in which they are met.
- Theorem `Clause.foreignName_eq_ok_iff`: what may stand in a forwarding marker.
- Theorem `Method.expand_reports`: the expansion of a method reports the first of its faults.
- Theorem `Declaration.expand_exact`: a declaration is expanded exactly if it is well-formed, is
  otherwise refused for the first fault of its first bad item, and stays as it is but for the
  forwarding markers of its methods.
-/

namespace ObjectBridge

/-! ## Settings of the forwarding marker -/

namespace Clause

/-- Whether a setting names the method on the object's side: by a text that is not blank. -/
def IsName (c : Clause) : Prop :=
  ∃ text written, c.tokens = [.name "name", .mark "=", .quoted text written] ∧
    Text.isBlankText text = false

/-- The name a setting of the forwarding marker gives. -/
def foreignName (c : Clause) : Except DeclarationError String := do
  let (name, value) ← c.path
  if name = "name" then nameInText c.isLast value else .error .unsupportedMarkerSetting

/-- The names of a path are all there is if no further mark of a path follows. -/
theorem pathNames_nil (isLast : Bool) {ts : List Token} (hts : ts.head? ≠ some (.mark "::")) :
    pathNames isLast ts = .ok ([], ts) := by
  rw [pathNames.eq_def]
  split
  · exact absurd rfl hts
  · exact absurd rfl hts
  · rfl

/-- Where no name of a path is read, no token is. -/
theorem eq_of_pathNames_nil {isLast : Bool} {ts rest : List Token}
    (h : pathNames isLast ts = .ok ([], rest)) : rest = ts := by
  rw [pathNames.eq_def] at h
  split at h
  · obtain ⟨⟨names, behind⟩, -, h⟩ := exists_of_bind_eq_ok h
    cases h
  · cases h
  · cases h
    rfl

/-- A path of several names is no name: it has colons in it. -/
theorem colon_mem_intercalate (first second : String) (rest : List String) :
    ':' ∈ ("::".intercalate (first :: second :: rest)).toList := by
  simp [String.toList_intercalate, List.intercalate]

/-- What is called a name without colons begins with it. -/
theorem tokens_of_path {c : Clause} {name : String} {value : List Token}
    (hname : ':' ∉ name.toList) (h : c.path = .ok (name, value)) :
    c.tokens = .name name :: value := by
  rw [path] at h
  split at h
  · obtain ⟨⟨path, rest⟩, -, h⟩ := exists_of_bind_eq_ok h
    cases h
    exact absurd (by simp) hname
  · rw [pathOf.eq_def] at h
    split at h
    · obtain ⟨⟨names, rest⟩, hnames, h⟩ := exists_of_bind_eq_ok h
      cases names with
      | nil =>
          cases eq_of_pathNames_nil hnames
          cases h
          simp [*]
      | cons second names =>
          cases h
          exact absurd (colon_mem_intercalate ..) hname
    all_goals cases h

/-- A single name is a path of its own. -/
theorem path_name {c : Clause} {name : String} {value : List Token}
    (hvalue : value.head? ≠ some (.mark "::")) (h : c.tokens = .name name :: value) :
    c.path = .ok (name, value) := by
  rw [path, h]
  show pathOf c.isLast (.name name :: value) = _
  rw [pathOf, pathNames_nil c.isLast hvalue]
  simp [bind, Except.bind]

end Clause

/-- A setting of the forwarding marker is read exactly if it names the method by a text that is not
blank. -/
theorem Clause.foreignName_eq_ok_iff {c : Clause} : (∃ text, c.foreignName = .ok text) ↔ c.IsName := by
  constructor
  · rintro ⟨text, h⟩
    obtain ⟨⟨name, value⟩, hpath, h⟩ := exists_of_bind_eq_ok h
    simp only at h
    split at h
    · rename_i hname
      subst hname
      obtain ⟨hblank, written, rfl⟩ := nameInText_eq_ok_iff.mp h
      exact ⟨text, written, tokens_of_path (by decide) hpath, hblank⟩
    · cases h
  · rintro ⟨text, written, htokens, htext⟩
    refine ⟨text, ?_⟩
    have hread : nameInText c.isLast [.mark "=", .quoted text written] = .ok text :=
      nameInText_eq_ok_iff.mpr ⟨htext, written, rfl⟩
    rw [foreignName, path_name (by simp) htokens]
    simp [bind, Except.bind, hread]

/-! ## Forwarding markers -/

namespace Marker

/-- A marker asks for forwarding exactly when its path is that of the marker. -/
theorem isForward_iff {m : Marker} : m.isForward = true ↔ m.path = Forward.markerPath :=
  beq_iff_eq

/-- A marker that is written bare, or with settings that name the method only. -/
structure NamesOnly (m : Marker) : Prop where
  notext : m.behind.head? ≠ some (.mark "=")
  names : ∀ c ∈ m.settings, c.IsName

/-- The faults of a forwarding marker. -/
def faults (m : Marker) : List DeclarationError :=
  if m.behind.head? = some (.mark "=") then [.malformedMarker]
  else m.settings.flatMap fun c => faultsOf c.foreignName

/-- A marker without faults names the method and nothing else. -/
theorem faults_eq_nil_iff {m : Marker} : m.faults = [] ↔ m.NamesOnly := by
  rw [faults]
  split
  · rename_i hsign
    simp only [List.cons_ne_nil, false_iff]
    intro h
    exact h.notext hsign
  · rename_i hsign
    simp only [List.flatMap_eq_nil_iff, faultsOf_eq_nil_iff, Clause.foreignName_eq_ok_iff]
    exact ⟨fun h => ⟨hsign, h⟩, NamesOnly.names⟩

end Marker

namespace Forward

/-- The clauses of a marker are read one after another, and the last name stands. -/
theorem addAll_cons (f : Forward) (c : Clause) (rest : List Clause) :
    f.addAll (c :: rest) = c.foreignName >>= fun text => addAll ⟨some text⟩ rest := by
  rw [addAll, Clause.foreignName]
  cases c.path with
  | error e => rfl
  | ok found =>
      rcases found with ⟨name, value⟩
      by_cases hname : name = "name"
      · simp [bind, Except.bind, hname]
      · simp [bind, Except.bind, hname]

/-- The faults of a marker are those of its clauses. -/
theorem addAll_reports (f : Forward) (settings : List Clause) :
    Reports (f.addAll settings) (settings.flatMap fun c => faultsOf c.foreignName) := by
  induction settings generalizing f with
  | nil => exact .ok f
  | cons c rest ih =>
      rw [addAll_cons, List.flatMap_cons]
      apply Reports.bind (.of_result c.foreignName)
      intro text _
      exact ih ⟨some text⟩

/-- A marker reports the first of its faults. -/
theorem ofMarker_reports (m : Marker) : Reports (ofMarker m) m.faults := by
  rw [ofMarker, Marker.faults, Marker.settings]
  cases hbehind : m.behind with
  | nil => exact .ok _
  | cons t ts =>
      by_cases hsign : t = .mark "="
      · subst hsign
        exact .error _ _
      · rw [if_neg (by simpa using hsign)]
        by_cases hopens : t.opens = true
        · simp only [hopens, if_true]
          exact addAll_reports ⟨none⟩ _
        · simp only [hopens]
          exact .ok _

end Forward

/-- The faults of the forwarding markers among some markers: those of the first one, and each other
one. -/
def forwardingFaults (markers : List Marker) : List DeclarationError :=
  match markers.filter Marker.isForward with
  | [] => []
  | first :: others => first.faults ++ others.map fun _ => .duplicateMarker

/-- Markers without faults are at most one, and it names the method only. -/
theorem forwardingFaults_eq_nil_iff {markers : List Marker} :
    forwardingFaults markers = [] ↔
      (markers.filter Marker.isForward).length ≤ 1 ∧
        ∀ m ∈ markers, m.isForward = true → m.NamesOnly := by
  have hmem : (∀ m ∈ markers, m.isForward = true → m.NamesOnly) ↔
      ∀ m ∈ markers.filter Marker.isForward, m.NamesOnly := by
    simp only [List.mem_filter, and_imp]
  rw [forwardingFaults, hmem]
  cases markers.filter Marker.isForward with
  | nil => simp
  | cons first others => cases others <;> simp [Marker.faults_eq_nil_iff]

/-- Behind a forwarding marker every other one is a fault. -/
theorem takeForward_some_reports (f : Forward) (markers : List Marker) :
    Reports (takeForward (some f) markers)
      ((markers.filter Marker.isForward).map fun _ => .duplicateMarker) := by
  induction markers with
  | nil => exact .ok _
  | cons m rest ih =>
      rw [takeForward]
      by_cases hm : m.isForward = true
      · rw [if_pos (Marker.isForward_iff.mp hm), List.filter_cons_of_pos hm]
        exact .error _ _
      · rw [if_neg (mt Marker.isForward_iff.mpr hm), List.filter_cons_of_neg hm]
        exact .bind_ok (fun r => (r.1, m :: r.2)) ih

/-- The faults of the markers of a method are the second marker or those of the one there is. -/
theorem takeForward_reports (markers : List Marker) :
    Reports (takeForward none markers) (forwardingFaults markers) := by
  rw [forwardingFaults]
  induction markers with
  | nil => exact .ok _
  | cons m rest ih =>
      rw [takeForward]
      by_cases hm : m.isForward = true
      · rw [if_pos (Marker.isForward_iff.mp hm), List.filter_cons_of_pos hm]
        apply Reports.bind (Forward.ofMarker_reports m)
        intro f _
        exact takeForward_some_reports f rest
      · rw [if_neg (mt Marker.isForward_iff.mpr hm), List.filter_cons_of_neg hm]
        exact .bind_ok (fun r => (r.1, m :: r.2)) ih

/-! ## Arguments and result types -/

namespace Argument

/-- Whether the pattern of an argument is a name, which may stand behind words of binding and before
a pattern of its own. -/
def IsName (a : Argument) : Prop :=
  ∃ n behind, (unmarkedTokens a.pattern).dropWhile isBindingWord = .name n :: behind ∧
    (behind = [] ∧ isFixedPattern n = false ∨ behind.head? = some (.mark "@"))

/-- The fault of an argument that is bound to no name. -/
def faults (a : Argument) : List DeclarationError :=
  if a.name?.isSome then [] else [.unsupportedPattern]

/-- An argument has a name when it is an identifier. -/
theorem isSome_name?_iff {a : Argument} : a.name?.isSome = true ↔ a.IsName := by
  rw [name?, IsName]
  generalize (unmarkedTokens a.pattern).dropWhile isBindingWord = ts
  split
  · rename_i n
    cases hfixed : isFixedPattern n <;> simp [hfixed]
  · simp
  · rename_i hname hat
    simp only [Option.isSome_none, Bool.false_eq_true, false_iff]
    rintro ⟨n, behind, rfl, ⟨rfl, -⟩ | hbehind⟩
    · exact hname n rfl
    · cases behind with
      | nil => cases hbehind
      | cons t behind =>
          cases hbehind
          exact hat n behind rfl

/-- So an argument without faults is one. -/
theorem faults_eq_nil_iff {a : Argument} : a.faults = [] ↔ a.IsName := by
  rw [← isSome_name?_iff, faults]
  cases a.name?.isSome <;> simp

end Argument

namespace ResultType

/-- Whether a type is a path whose last segment is a result, with a type as its first argument. -/
def IsResult (r : ResultType) : Prop :=
  ∃ arguments, segment? (tokens r.text) = some ("Result", arguments) ∧
    isType (beforeComma 0 0 arguments) = true

/-- A result has a type of success when it is a result type. -/
theorem isSome_okType?_iff {r : ResultType} : r.okType?.isSome = true ↔ r.IsResult := by
  rw [okType?, IsResult]
  cases segment? (tokens r.text) with
  | none => simp
  | some found =>
      rcases found with ⟨name, arguments⟩
      by_cases hname : name = "Result"
      · cases htype : isType (beforeComma 0 0 arguments) <;> simp [hname, htype]
      · simp [hname]

end ResultType

/-! ## Methods -/

namespace Method

variable {m : Method}

/-- A method that can be forwarded. -/
@[mk_iff]
structure Forwardable (m : Method) : Prop where
  body : m.hasBody = false
  generics : isGeneric m.generics = false
  async : m.isAsync = false
  receiver : m.takesSharedReference = true
  result : ∃ r, m.result = some r ∧ r.IsResult

/-- A method that is expanded: it has one forwarding marker at most, which names it only, its
arguments are names, and it is either forwarded or has a body. -/
@[mk_iff]
structure WellFormed (m : Method) : Prop where
  single : (m.markers.filter Marker.isForward).length ≤ 1
  marker : ∀ marker ∈ m.markers, marker.isForward = true → marker.NamesOnly
  arguments : ∀ a ∈ m.arguments, a.isReceiver = false → a.IsName
  body : if m.isForwarded then m.Forwardable else m.hasBody = true

/-- What is checked of the result of a forwarded method. -/
def resultChecks (m : Method) : List (Bool × DeclarationError) :=
  [(m.result.isNone, .noResult), (m.result.any fun r => r.okType?.isNone, .otherResult)]

/-- What is checked of a method besides its markers and arguments, each with its fault. -/
def checks (m : Method) : List (Bool × DeclarationError) :=
  if m.isForwarded then
    (m.hasBody, .forwardedBody) :: (isGeneric m.generics, .forwardedGeneric) ::
      (m.isAsync, .forwardedAsync) :: (!m.takesSharedReference, .forwardedReceiver) ::
      m.resultChecks
  else [(!m.hasBody, .missingBody m.identifier)]

/-- The faults of a method in the order in which they are met. -/
def faults (m : Method) : List DeclarationError :=
  forwardingFaults m.markers ++ m.typedArguments.flatMap Argument.faults ++ failing m.checks

/-- No check of the result fails when it is a result type. -/
theorem failing_resultChecks_eq_nil_iff :
    failing m.resultChecks = [] ↔ ∃ r, m.result = some r ∧ r.IsResult := by
  simp only [failing_eq_nil_iff, resultChecks, ← ResultType.isSome_okType?_iff]
  cases m.result with
  | none => simp
  | some r => cases r.okType? <;> simp

/-- No check of a method fails when it can be forwarded, or has a body if it is not to be. -/
theorem failing_checks_eq_nil_iff :
    failing m.checks = [] ↔ if m.isForwarded then m.Forwardable else m.hasBody = true := by
  rw [checks]
  split
  · simp only [failing_cons_eq_nil_iff, failing_resultChecks_eq_nil_iff, Bool.not_eq_false',
      forwardable_iff]
  · simp [failing_eq_nil_iff]

/-- The well-formed methods are those without faults. -/
theorem faults_eq_nil_iff : m.faults = [] ↔ m.WellFormed := by
  simp only [faults, List.append_eq_nil_iff, forwardingFaults_eq_nil_iff,
    List.flatMap_eq_nil_iff, Argument.faults_eq_nil_iff, failing_checks_eq_nil_iff, typedArguments,
    List.mem_filter, and_imp, Bool.not_eq_true', wellFormed_iff, and_assoc]

/-- The names of the arguments are refused for the faults of these. -/
theorem argumentNames_reports (m : Method) :
    Reports m.argumentNames (m.typedArguments.flatMap Argument.faults) := by
  apply Reports.mapM
  intro a _
  rw [Argument.faults]
  cases a.name? with
  | none => exact .error _ _
  | some name => exact .ok name

/-- The type of success is refused for the faults of the result. -/
theorem okType_reports (m : Method) : Reports m.okType (failing m.resultChecks) := by
  rw [okType, resultChecks]
  cases m.result with
  | none => simp [Reports, failing]
  | some r =>
      cases hok : r.okType? <;> simp [hok, Reports, failing]

/-- A forwarded method is refused for the checks that fail. -/
theorem forwarding_reports {names : List String} (hforwarded : m.isForwarded = true) :
    Reports (m.forwarding names) (failing m.checks) := by
  rw [forwarding, checks, if_pos hforwarded]
  simp only [failing_cons]
  apply Reports.check
  apply Reports.check
  apply Reports.check
  apply Reports.check
  exact .bind_ok (fun type => (⟨m.identifier, plainName m.identifier, type, names⟩ : Forwarding))
    m.okType_reports

/-- The expansion of a method reports the first of its faults. -/
theorem expand_reports (m : Method) : Reports m.expand m.faults := by
  rw [expand, faults, List.append_assoc]
  apply Reports.bind (takeForward_reports m.markers)
  rintro ⟨found, kept⟩ hfound
  obtain ⟨hforwarded, -, -⟩ := takeForward_eq_ok hfound
  apply Reports.bind m.argumentNames_reports
  intro names _
  simp only [hforwarded]
  by_cases hforward : m.isForwarded = true
  · have hbody : Reports (m.forwarding names) (failing m.checks) := forwarding_reports hforward
    rw [isForwarded] at hforward
    rw [if_pos hforward]
    exact .bind_ok _ (hbody.map some)
  · rw [checks, if_neg hforward]
    rw [isForwarded] at hforward
    rw [if_neg hforward]
    cases m.hasBody with
    | true => exact .ok _
    | false => exact .error _ _

/-- A method without its forwarding markers. -/
def unmarked (m : Method) : Method :=
  { m with markers := m.markers.filter fun marker => !marker.isForward }

/-- What is kept of a method is the method without markers. -/
theorem kept_of_expand {x : ExpandedItem} (h : m.expand = .ok x) : x.kept = .method m.unmarked := by
  obtain ⟨⟨found, kept⟩, hfound, h⟩ := exists_of_bind_eq_ok h
  obtain ⟨names, -, h⟩ := exists_of_bind_eq_ok h
  obtain ⟨-, -, rfl⟩ := takeForward_eq_ok hfound
  simp only at h
  split at h
  · obtain ⟨forwarding, -, h⟩ := exists_of_bind_eq_ok h
    cases h
    rfl
  · split at h
    · cases h
      rfl
    · cases h

end Method

/-! ## Items -/

namespace Item

/-- An item that is expanded: a well-formed method or a constant with a value. -/
def WellFormed : Item → Prop
  | method m => m.WellFormed
  | constant _ hasDefault _ => hasDefault = true
  | associatedType _ => False

/-- The faults of an item in the order in which they are met. -/
def faults : Item → List DeclarationError
  | method m => m.faults
  | constant _ true _ => []
  | _ => [.unsupportedItem]

/-- An item without the forwarding markers of a method. -/
def unmarked : Item → Item
  | method m => .method m.unmarked
  | item => item

/-- An item without faults is well-formed. -/
theorem faults_eq_nil_iff {item : Item} : item.faults = [] ↔ item.WellFormed := by
  cases item with
  | method m => exact Method.faults_eq_nil_iff
  | constant name hasDefault markers => cases hasDefault <;> simp [faults, WellFormed]
  | associatedType name => simp [faults, WellFormed]

/-- An item is refused for its faults. -/
theorem expand_reports (item : Item) : Reports item.expand item.faults := by
  cases item with
  | method m => exact m.expand_reports
  | constant name hasDefault markers =>
      cases hasDefault with
      | true => exact .ok _
      | false => exact .error _ _
  | associatedType name => exact .error _ _

/-- What is kept of an item is the item without markers. -/
theorem kept_of_expand {item : Item} {x : ExpandedItem} (h : item.expand = .ok x) :
    x.kept = item.unmarked := by
  cases item with
  | method m => exact Method.kept_of_expand h
  | constant name hasDefault markers =>
      cases hasDefault with
      | true =>
          cases h
          rfl
      | false => cases h
  | associatedType name => cases h

/-- What is kept of several items are the items without markers. -/
theorem kept_all {items : List Item} {xs : List ExpandedItem}
    (h : List.Forall₂ (fun item x => item.expand = .ok x) items xs) :
    xs.map ExpandedItem.kept = items.map Item.unmarked := by
  induction h with
  | nil => rfl
  | cons hitem _ ih => rw [List.map_cons, List.map_cons, kept_of_expand hitem, ih]

end Item

/-! ## Declarations -/

namespace Declaration

/-- Whether a declaration has generic parameters or a where clause. -/
def isParametric (d : Declaration) : Bool :=
  isGeneric d.generics || d.hasWhereClause

/-- A declaration that is expanded. -/
@[mk_iff]
structure WellFormed (d : Declaration) : Prop where
  generics : isGeneric d.generics = false
  whereClause : d.hasWhereClause = false
  items : ∀ item ∈ d.items, item.WellFormed

/-- The faults of a declaration in the order in which they are met. -/
def faults (d : Declaration) : List DeclarationError :=
  (if d.isParametric then [.genericDeclaration] else []) ++ d.items.flatMap Item.faults

/-- What a declaration is refused for: its parameters, or else the first fault of the first item
that is not well-formed. -/
def RefusedFor (d : Declaration) (e : DeclarationError) : Prop :=
  if d.isParametric then e = .genericDeclaration
  else ∃ front item behind, d.items = front ++ item :: behind ∧
    (∀ other ∈ front, other.WellFormed) ∧ item.faults.head? = some e

/-- A declaration without the forwarding markers of its methods. -/
def unmarked (d : Declaration) : Declaration :=
  { d with items := d.items.map Item.unmarked }

/-- A declaration without faults is well-formed. -/
theorem faults_eq_nil_iff {d : Declaration} : d.faults = [] ↔ d.WellFormed := by
  have hparameters : (if d.isParametric then [DeclarationError.genericDeclaration] else []) = [] ↔
      isGeneric d.generics = false ∧ d.hasWhereClause = false := by
    simp [isParametric]
  simp only [faults, List.append_eq_nil_iff, hparameters, List.flatMap_eq_nil_iff,
    Item.faults_eq_nil_iff, wellFormed_iff, and_assoc]

/-- The first fault of a declaration is the one that it is refused for. -/
theorem head?_faults_eq_some_iff {d : Declaration} {e : DeclarationError} :
    d.faults.head? = some e ↔ d.RefusedFor e := by
  rw [faults, RefusedFor]
  by_cases hparametric : d.isParametric = true
  · simp [hparametric, eq_comm]
  · simp only [hparametric, Bool.false_eq_true, if_false, List.nil_append, List.head?_flatMap,
      List.findSome?_eq_some_iff, List.head?_eq_none_iff, Item.faults_eq_nil_iff]
    constructor
    · rintro ⟨front, item, behind, hitems, hfirst, hfront⟩
      exact ⟨front, item, behind, hitems, hfront, hfirst⟩
    · rintro ⟨front, item, behind, hitems, hfront, hfirst⟩
      exact ⟨front, item, behind, hitems, hfirst, hfront⟩

/-- A declaration is refused for its faults, whatever its settings are. -/
theorem expand_reports (d : Declaration) (settings : Settings) :
    Reports (d.expand settings) d.faults := by
  rw [expand, faults]
  apply Reports.check
  exact .bind_ok _ (.mapM fun item _ => item.expand_reports)

/-- What is emitted of a declaration is the declaration without markers. -/
theorem emitted_of_expand {d : Declaration} {settings : Settings} {x : Expansion}
    (h : d.expand settings = .ok x) : x.emitted = d.unmarked := by
  rw [expand] at h
  split at h
  · cases h
  · obtain ⟨items, hitems, h⟩ := exists_of_bind_eq_ok h
    cases h
    rw [unmarked, Item.kept_all (forall₂_of_mapM_eq_ok hitems)]

/-- A declaration is expanded exactly if it is well-formed, is otherwise refused for its parameters
or for the first fault of its first bad item, and stays as it is but for the forwarding markers of
its methods. -/
theorem expand_exact (d : Declaration) (settings : Settings) :
    ((∃ x, d.expand settings = .ok x) ↔ d.WellFormed) ∧
      (∀ e, d.expand settings = .error e ↔ d.RefusedFor e) ∧
      ∀ x, d.expand settings = .ok x → x.emitted = d.unmarked := by
  have hreports := d.expand_reports settings
  refine ⟨?_, ?_, ?_⟩
  · rw [hreports.exists_ok_iff, faults_eq_nil_iff]
  · intro e
    rw [hreports.eq_error_iff, head?_faults_eq_some_iff]
  · intro x hx
    exact emitted_of_expand hx

/-- It holds of a declaration whose markers are all on methods. -/
theorem expand_freight_exact :
    freight.expand ⟨some "Fleet", some "Freight", [], none⟩ = .ok .freight ∧
      freight.WellFormed ∧ Expansion.freight.emitted = freight.unmarked :=
  have h := expand_exact freight ⟨some "Fleet", some "Freight", [], none⟩
  ⟨expand_freight, h.1.mp ⟨.freight, expand_freight⟩, h.2.2 .freight expand_freight⟩

/-- An interface with a forwarding marker on a constant and an argument that is bound to a name and
a pattern. -/
def depot : Declaration :=
  ⟨"Depot", "pub", [], false,
    [.constant "LIMIT" true [.plain "inline", .plain "forward"],
      .method ⟨"store", some "&self", [⟨"goods @ (a, b)", "(i64, i64)"⟩], none, [], true, false,
        []⟩]⟩

/-- It is expanded and stays as it is: its constant keeps the marker, and the pattern of its argument
is more than a single name. -/
theorem expand_depot :
    (depot.expand ⟨none, none, [], none⟩).map Expansion.emitted = .ok depot ∧
      (∃ item ∈ depot.items, ∃ marker ∈ item.markers, marker.isForward = true) ∧
      ∃ m ∈ depot.methods, ∃ a ∈ m.typedArguments, 1 < (unmarkedTokens a.pattern).length := by
  decide +kernel

end Declaration

end ObjectBridge
