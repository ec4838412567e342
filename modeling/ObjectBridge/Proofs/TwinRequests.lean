import ObjectBridge.Proofs.Twins

/-!
# Requests to twin hosts

Twin hosts answer related requests alike and stay twins.  Those that are passed
to a host or by it are linked or wrap alike data; the new instances among them are
linked.  Modules and classes found by name are the same.  Importers are importers.

Main results:

- Definition `Coupling.hosts`: twin hosts and how they grow.
- Theorems `Host.Twin.call`, `Host.Twin.callMethod` and so on: each request keeps twin
  hosts in step.
-/

namespace ObjectBridge

/-- Twin hosts, which only grow. -/
def Coupling.hosts (base : Nat) : Coupling Host Host where
  rel := Host.Twin base
  grows h h' h₁ h₁' := Host.Grows base h h₁ ∧ Host.Grows base h' h₁'
  grows_refl h h' := ⟨.refl h, .refl h'⟩
  grows_trans hg hg₁ := ⟨hg.1.trans hg₁.1, hg.2.trans hg₁.2⟩

namespace Host

variable {base : Nat} {h h' h₁ h₁' : Host} {o o' : ForeignObject} {x x' : HostObject}

/-! ## Related objects -/

/-- Values whose handles are linked. -/
def Alike (base : Nat) (h h' : Host) (v v' : Value) : Prop :=
  v.Alike (Linked base h h') v'

/-- Objects of one type whose handles are linked. -/
def Matched (base : Nat) (h h' : Host) (o o' : ForeignObject) : Prop :=
  o.Alike (Linked base h h') o'

/-- Objects of one type that are passed to a host or by it: they are linked or wrap alike data. -/
inductive Passed (base : Nat) (h h' : Host) (o o' : ForeignObject) : Prop where
  | linked (matched : Matched base h h' o o')
  | data {v v' : Value} (name : o.typeName = o'.typeName) (left : h.at? o.handle = some (.data v))
      (right : h'.at? o'.handle = some (.data v')) (alike : Alike base h h' v v')

/-- The same module or the same class, found by its name. -/
inductive Found (base : Nat) (h h' : Host) (o o' : ForeignObject) : Prop where
  | module {module : String} (name : o.typeName = o'.typeName)
      (left : h.at? o.handle = some (.module module))
      (right : h'.at? o'.handle = some (.module module))
  | classObject {c : HostClass} (name : o.typeName = o'.typeName) (uniform : c.Uniform base)
      (left : h.at? o.handle = some (.classObject c))
      (right : h'.at? o'.handle = some (.classObject c))

/-- An object is an importer. -/
def Imports (h : Host) (o : ForeignObject) : Prop :=
  h.at? o.handle = some .importer

/-- Values whose handles are linked go on having linked handles. -/
theorem alike_stable : (Coupling.hosts base).Stable (Alike base) :=
  fun _ _ _ _ _ _ hgrows hv => hv.mono fun hn => hn.mono hgrows.1 hgrows.2

/-- Linked objects stay linked. -/
theorem matched_stable : (Coupling.hosts base).Stable (Matched base) :=
  fun _ _ _ _ _ _ hgrows ho => ⟨ho.1.mono hgrows.1 hgrows.2, ho.2⟩

/-- Objects that are passed may be passed later, too. -/
theorem passed_stable : (Coupling.hosts base).Stable (Passed base) := by
  intro h h' h₁ h₁' o o' hgrows ho
  cases ho with
  | linked ho => exact .linked (matched_stable hgrows ho)
  | data hname hx hx' hv =>
      exact .data hname (hgrows.1.kept hx rfl) (hgrows.2.kept hx' rfl) (alike_stable hgrows hv)

/-- A symbol that was found is still the same one. -/
theorem found_stable : (Coupling.hosts base).Stable (Found base) := by
  intro h h' h₁ h₁' o o' hgrows ho
  cases ho with
  | module hname hx hx' => exact .module hname (hgrows.1.kept hx rfl) (hgrows.2.kept hx' rfl)
  | classObject hname hc hx hx' =>
      exact .classObject hname hc (hgrows.1.kept hx rfl) (hgrows.2.kept hx' rfl)

/-- An importer goes on being one. -/
theorem Imports.mono (hgrows : Grows base h h₁) (ho : Imports h o) : Imports h₁ o :=
  hgrows.kept ho rfl

/-- Objects that are passed on both sides have one type. -/
theorem Passed.typeName_eq (ho : Passed base h h' o o') : o.typeName = o'.typeName := by
  cases ho with
  | linked ho => exact ho.2
  | data hname => exact hname

/-- Symbols that are found on both sides have one type. -/
theorem Found.typeName_eq (ho : Found base h h' o o') : o.typeName = o'.typeName := by
  cases ho with
  | module hname => exact hname
  | classObject hname => exact hname

/-! ## What is read from a host -/

/-- The object behind a handle, or why there is none. -/
def look (h : Host) (o : ForeignObject) : Except ForeignError HostObject :=
  match h.at? o.handle with
  | some x => .ok x
  | none => .error (.wrongType s!"object of type '{o.typeName}' does not belong to this host")

/-- Looking for the object behind a handle changes nothing. -/
theorem find_apply (o : ForeignObject) (h : Host) : find o h = (h.look o, h) := by
  have hobject : h.object? o = h.at? o.handle := rfl
  rw [find, bind_apply, get_apply, look]
  simp only [hobject]
  cases h.at? o.handle <;> rfl

/-- An object is found behind its handle. -/
theorem find_of_at? (hx : h.at? o.handle = some x) : find o h = (.ok x, h) := by
  rw [find_apply, look, hx]

/-- The value of an object, or why there is none. -/
def peek (h : Host) (o : ForeignObject) : Except ForeignError Value :=
  (h.look o).map fun x =>
    match x with
    | .data v => v
    | _ => .object o

/-- Reading the value of an object changes nothing. -/
theorem valueOf_apply (o : ForeignObject) (h : Host) : valueOf o h = (h.peek o, h) := by
  rw [valueOf, bind_apply, find_apply, peek]
  cases h.look o with
  | error e => rfl
  | ok x => cases x <;> rfl

/-- Reading a keyword changes nothing and keeps the name. -/
theorem keyword_apply (h : Host) (k : String × ForeignObject) :
    (do return (k.1, ← valueOf k.2) : HostAction (String × Value)) h =
      ((h.peek k.2).map (k.1, ·), h) := by
  rw [bind_apply, valueOf_apply]
  cases h.peek k.2 <;> rfl

/-- Reading the first of some objects changes nothing. -/
theorem head_apply (os : List ForeignObject) (h : Host) :
    (os.head?.mapM valueOf) h = (os.head?.mapM h.peek, h) := by
  cases os with
  | nil => rfl
  | cons o os =>
      rw [List.head?_cons, Option.mapM_some, Option.mapM_some, map_eq_pure_bind, bind_apply,
        valueOf_apply]
      cases h.peek o <;> rfl

/-- What is seen of two objects that are passed. -/
structure Shown (base : Nat) (h h' : Host) (o o' : ForeignObject) (x x' : HostObject) : Prop where
  left : h.at? o.handle = some x
  right : h'.at? o'.handle = some x'
  alike : x.Alike base (Linked base h h') x'
  held : (∃ v, x = .data v) ∨ Matched base h h' o o'

/-- What two hosts see of objects that are passed is alike, or they complain alike. -/
theorem Twin.look (hT : Twin base h h') (ho : Passed base h h' o o') :
    Agree (Shown base h h' o o') (h.look o) (h'.look o') := by
  rw [Host.look, Host.look, ho.typeName_eq]
  cases ho with
  | linked ho =>
      have hobjects := hT.objects ho.1
      cases hx : h.at? o.handle with
      | none =>
          cases hx' : h'.at? o'.handle with
          | none => exact .error _
          | some x' =>
              rw [hx, hx'] at hobjects
              cases hobjects
      | some x =>
          cases hx' : h'.at? o'.handle with
          | none =>
              rw [hx, hx'] at hobjects
              cases hobjects
          | some x' =>
              rw [hx, hx'] at hobjects
              cases hobjects with
              | some halike => exact .ok ⟨hx, hx', halike, .inr ho⟩
  | data hname hx hx' hv =>
      rw [hx, hx']
      exact .ok ⟨hx, hx', .data hv, .inl ⟨_, rfl⟩⟩

/-- Objects that are not mere data are linked. -/
theorem Shown.linked (hx : Shown base h h' o o' x x') (hdata : ∀ v, x ≠ .data v) :
    Matched base h h' o o' := by
  rcases hx.held with ⟨v, hv⟩ | ho
  · exact absurd hv (hdata v)
  · exact ho

/-- Twin hosts read alike values from objects that are passed. -/
theorem Twin.peek (hT : Twin base h h') (ho : Passed base h h' o o') :
    Agree (Alike base h h') (h.peek o) (h'.peek o') := by
  refine (hT.look ho).map fun {x x'} hx => ?_
  have halike := hx.alike
  cases halike with
  | data hv => exact hv
  | _ => exact hx.linked nofun

/-- Twin hosts read alike values from lists of them, one by one. -/
theorem Twin.peeks {os os' : List ForeignObject} (hT : Twin base h h')
    (hos : List.Forall₂ (Passed base h h') os os') :
    Agree (List.Forall₂ (Alike base h h')) (os.mapM h.peek) (os'.mapM h'.peek) :=
  .mapM (hos.imp fun _ _ ho => hT.peek ho)

/-- The values of objects that are given by name, or why one of them has none. -/
theorem Twin.peekEntries {os os' : List (String × ForeignObject)} (hT : Twin base h h')
    (hos : Entries.Alike (Passed base h h') os os') :
    Agree (Entries.Alike (Alike base h h')) (os.mapM fun k => (h.peek k.2).map (k.1, ·))
      (os'.mapM fun k => (h'.peek k.2).map (k.1, ·)) :=
  .mapM (hos.imp fun _ _ ho => (hT.peek ho.2).map fun hv => ⟨ho.1, hv⟩)

/-! ## What is made -/

/-- Twin hosts that make alike objects stay twins. -/
theorem Twin.make {V : Host → Host → ForeignObject → ForeignObject → Prop} (hT : Twin base h h')
    (hx : x.Alike base (Linked base h h') x')
    (hV : V (h.pushed x) (h'.pushed x') ⟨h.objects.size, x.typeName⟩
      ⟨h'.objects.size, x'.typeName⟩) :
    (Coupling.hosts base).InStep V (Host.make x) (Host.make x') h h' :=
  .of_ok (make_apply x h) (make_apply x' h') (hT.pushed hx)
    ⟨.pushed hT.base_le x, .pushed hT.base_le' x'⟩ hV

/-- A new object stands behind the next handle. -/
theorem at?_made : (h.pushed x).at? h.objects.size = some x := by
  rw [at?_pushed, if_pos rfl]

/-- Instances that are made by both are linked. -/
theorem Twin.linked_made (hT : Twin base h h') (hx : x.isInstance = true)
    (hx' : x'.isInstance = true) :
    Linked base (h.pushed x) (h'.pushed x') h.objects.size h'.objects.size := by
  refine .made (h.instances base).length ?_ ?_
  · rw [instances_pushed hT.base_le, hx, if_pos rfl, List.getElem?_concat_length]
  · rw [instances_pushed hT.base_le', hx', hT.length, if_pos rfl, List.getElem?_concat_length]

/-- Alike data are passed as new objects. -/
theorem Twin.makeData {v v' : Value} (hT : Twin base h h') (hv : Alike base h h' v v') :
    (Coupling.hosts base).InStep (Passed base) (Host.make (.data v)) (Host.make (.data v'))
      h h' := by
  have hgrows : (Coupling.hosts base).grows h h' (h.pushed (.data v)) (h'.pushed (.data v')) :=
    ⟨.pushed hT.base_le _, .pushed hT.base_le' _⟩
  exact hT.make (.data hv) (.data hv.typeName_eq at?_made at?_made (alike_stable hgrows hv))

/-- Instances of one uniform class with alike attributes are made as linked objects. -/
theorem Twin.makeInstance {c : HostClass} {as as' : Attributes} (hT : Twin base h h')
    (hc : c.Uniform base) (has : Entries.Alike (Alike base h h') as as') :
    (Coupling.hosts base).InStep (Matched base) (Host.make (.instanceOf c as))
      (Host.make (.instanceOf c as')) h h' :=
  hT.make (.instanceOf hc has) ⟨hT.linked_made rfl rfl, rfl⟩

/-- A module is found by its name on both sides. -/
theorem Twin.makeModule (hT : Twin base h h') (name : String) :
    (Coupling.hosts base).InStep (Found base) (Host.make (.module name)) (Host.make (.module name))
      h h' :=
  hT.make (.module name) (.module rfl at?_made at?_made)

/-- A class is found as the same class on both sides. -/
theorem Twin.makeClass {c : HostClass} (hT : Twin base h h') (hc : c.Uniform base) :
    (Coupling.hosts base).InStep (Found base) (Host.make (.classObject c))
      (Host.make (.classObject c)) h h' :=
  hT.make (.classObject hc) (.classObject rfl hc at?_made at?_made)

/-! ## Values given and taken -/

/-- Alike values are stored in step: an object stays itself, anything else is wrapped. -/
theorem Twin.store {v v' : Value} (hT : Twin base h h') (hv : Alike base h h' v v') :
    (Coupling.hosts base).InStep (Passed base) (Host.store v) (Host.store v') h h' := by
  refine hv.induction (P := fun v v' =>
    (Coupling.hosts base).InStep (Passed base) (Host.store v) (Host.store v') h h')
    (fun v hplain => ?_) (fun hs _ => hT.makeData (Value.Alike.list_iff.mpr hs))
    (fun hs _ => hT.makeData (Value.Alike.map_iff.mpr hs)) (fun ho => .pure hT (.linked ho))
  cases v with
  | list | map | object => cases hplain
  | none | bool | int | str => exact hT.makeData (.of_plain rfl)
  | float x =>
      rw [Host.store]
      split
      · exact hT.makeData (.of_plain rfl)
      · exact .throw hT _

/-- A request is counted on both sides. -/
theorem Twin.touch (hT : Twin base h h') :
    (Coupling.hosts base).InStep (fun _ _ => Eq) Host.touch Host.touch h h' := by
  have ha (h : Host) : Aside base h { h with interactions := h.interactions + 1 } :=
    .of_eq rfl rfl rfl
  exact .of_ok rfl rfl (hT.aside (ha h) (ha h')) ⟨(ha h).grows, (ha h').grows⟩ rfl

/-- Alike results are stored in step. -/
theorem Twin.storeResult {v v' : Value} (hT : Twin base h h') (hv : Alike base h h' v v') :
    (Coupling.hosts base).InStep (Passed base) (Host.storeResult v) (Host.storeResult v') h h' :=
  hT.touch.bind fun hT₁ hgrows₁ _ => hT₁.store (alike_stable hgrows₁ hv)

/-- Alike values are read in step. -/
theorem Twin.valueOf (hT : Twin base h h') (ho : Passed base h h' o o') :
    (Coupling.hosts base).InStep (Alike base) (Host.valueOf o) (Host.valueOf o') h h' :=
  .of_reads hT (valueOf_apply o h) (valueOf_apply o' h') (hT.peek ho)

/-- Objects that are passed are coerced in step. -/
theorem Twin.coerce (hT : Twin base h h') (ho : Passed base h h' o o') :
    (Coupling.hosts base).InStep (Alike base) (Host.coerce o) (Host.coerce o') h h' := by
  rw [Host.coerce, Host.coerce, ho.typeName_eq]
  refine .read hT (find_apply o h) (find_apply o' h') (hT.look ho) fun {x x'} hx => ?_
  have halike := hx.alike
  cases halike with
  | data hv => exact .pure hT hv
  | instanceOf _ has => exact .pure hT (Value.Alike.map_iff.mpr has)
  | _ => exact .throw hT _

/-! ## Modules and classes -/

/-- Twin hosts have the same modules. -/
theorem Twin.isModule_eq (hT : Twin base h h') (name : String) :
    h.isModule name = h'.isModule name := by
  rw [Host.isModule, Host.isModule, hT.modules]

/-- Twin hosts have the same classes in each module. -/
theorem Twin.class?_eq (hT : Twin base h h') (module name : String) :
    h.class? module name = h'.class? module name := by
  rw [Host.class?, Host.class?, hT.modules]

/-- Twin hosts import a module in step, or complain alike. -/
theorem Twin.importModule {os os' : List ForeignObject} (hT : Twin base h h')
    (hos : List.Forall₂ (Passed base h h') os os') :
    (Coupling.hosts base).InStep (Found base) (Host.importModule os) (Host.importModule os') h
      h' := by
  have hargument : Agree (Option.Rel (Alike base h h')) (os.head?.mapM h.peek)
      (os'.head?.mapM h'.peek) := by
    cases hos with
    | nil => exact .ok .none
    | cons ho _ => exact (hT.peek ho).bind fun hv => .ok (.some hv)
  rw [Host.importModule, Host.importModule]
  refine .read hT (head_apply os h) (head_apply os' h') hargument fun hv => ?_
  cases hv with
  | none => exact .throw hT _
  | @some v v' hv =>
      have hplain' := hv.isPlain_eq
      cases hplain : v.isPlain with
      | true =>
          cases hv.eq_of_plain hplain
          cases v with
          | str name =>
              refine .read_ok (get_apply h) (get_apply h') ?_
              simp only [← hT.isModule_eq]
              split
              · exact hT.makeModule _
              · exact .throw hT _
          | _ => exact .throw hT _
      | false =>
          -- The parts of the two arguments may differ, but neither is the name of a module.
          rw [hplain] at hplain'
          cases v <;> cases hplain
          all_goals cases v' <;> first | exact .throw hT _ | cases hplain'

/-- Twin hosts give an attribute of a symbol in step. -/
theorem Twin.getAttribute (hT : Twin base h h') (ho : Found base h h' o o') (name : String) :
    (Coupling.hosts base).InStep (Found base) (Host.getAttribute o name)
      (Host.getAttribute o' name) h h' := by
  rw [Host.getAttribute, Host.getAttribute, ho.typeName_eq]
  cases ho with
  | classObject hname _ hx hx' =>
      exact .read_ok (find_of_at? hx) (find_of_at? hx') (.throw hT _)
  | @module module hname hx hx' =>
      refine .read_ok (find_of_at? hx) (find_of_at? hx') ?_
      refine .read_ok (get_apply h) (get_apply h') ?_
      simp only [← hT.class?_eq, ← hT.isModule_eq]
      cases hclass : h.class? module name with
      | some c => exact hT.makeClass (hT.classes hclass)
      | none =>
          simp only []
          split
          · exact hT.makeModule _
          · exact .throw hT _

/-! ## Calls -/

/-- Twin hosts call a class in step: the instances that it makes are linked. -/
theorem Twin.call {c c' : ForeignObject} {a a' : Arguments} (hT : Twin base h h')
    (hc : Found base h h' c c') (hos : List.Forall₂ (Passed base h h') a.positional a'.positional)
    (hks : Entries.Alike (Passed base h h') a.keywords a'.keywords) :
    (Coupling.hosts base).InStep (Matched base) (Host.call c a) (Host.call c' a') h h' := by
  rw [Host.call, Host.call, hc.typeName_eq]
  cases hc with
  | module _ hx hx' =>
      exact .read_ok (find_of_at? hx) (find_of_at? hx') (.throw hT _)
  | @classObject d _ hd hx hx' =>
      refine .read_ok (find_of_at? hx) (find_of_at? hx') ?_
      refine .read hT (mapM_apply_of_reads (fun o => valueOf_apply o h) _)
        (mapM_apply_of_reads (fun o => valueOf_apply o h') _) (hT.peeks hos) fun hvs => ?_
      refine .read hT (mapM_apply_of_reads (keyword_apply h) _)
        (mapM_apply_of_reads (keyword_apply h') _) (hT.peekEntries hks) fun hws => ?_
      refine .read hT (lift_apply _ h) (lift_apply _ h')
        (hd.instantiate (Linked.correspondence base h h') hvs hws) fun has => ?_
      exact hT.makeInstance hd has

/-- Twin hosts call a method in step: the results are passed one by one. -/
theorem Twin.callMethod {os os' : List ForeignObject} (hT : Twin base h h')
    (ho : Passed base h h' o o') (name : String) (hos : List.Forall₂ (Passed base h h') os os') :
    (Coupling.hosts base).InStep (fun h h' => List.Forall₂ (Passed base h h'))
      (Host.callMethod o name os) (Host.callMethod o' name os') h h' := by
  rw [Host.callMethod, Host.callMethod, ho.typeName_eq]
  refine .read hT (find_apply o h) (find_apply o' h') (hT.look ho) fun {x x'} hx => ?_
  have halike := hx.alike
  cases halike with
  | @instanceOf c as as' hc has =>
      simp only []
      cases hmethod : Entries.lookup name c.methods with
      | none => exact .throw hT _
      | some method =>
          simp only []
          refine .read hT (mapM_apply_of_reads (fun o => valueOf_apply o h) _)
            (mapM_apply_of_reads (fun o => valueOf_apply o h') _) (hT.peeks hos)
            fun {vs vs'} hvs => ?_
          obtain ⟨hresults, hbs⟩ :=
            hc.methods name method hmethod (Linked.correspondence base h h') has hvs
          have hlinked := (hx.linked nofun).1
          have hput : (Coupling.hosts base).InStep (fun _ _ => Eq)
              (modify fun h => h.put o (.instanceOf c (method as vs).2) : HostAction Unit)
              (modify fun h => h.put o' (.instanceOf c (method as' vs').2)) h h' :=
            .of_ok (modify_apply _ h) (modify_apply _ h')
              (hT.put hlinked hx.left hx.right hc hbs) ⟨.put hx.left, .put hx.right⟩ rfl
          refine hput.bind fun hT₁ hgrows₁ _ => ?_
          refine .read hT₁ (lift_apply _ _) (lift_apply _ _) hresults fun hws => ?_
          exact .mapM alike_stable passed_stable (fun hT hv => hT.storeResult hv) hT₁
            (alike_stable.forall₂ hgrows₁ hws)
  | _ => exact .throw hT _

/-- An importer is called with the name of a module. -/
theorem Twin.callImporter {os os' : List ForeignObject} (hT : Twin base h h') (ho : Imports h o)
    (ho' : Imports h' o') (hos : List.Forall₂ (Passed base h h') os os') :
    (Coupling.hosts base).InStep (Found base) (Host.call o ⟨os, []⟩) (Host.call o' ⟨os', []⟩) h
      h' := by
  rw [Host.call, Host.call]
  exact .read_ok (find_of_at? ho) (find_of_at? ho') (hT.importModule hos)

/-- A request is counted before it is granted. -/
theorem Twin.perform {r r' : Request} {V : Host → Host → r.Answer → r'.Answer → Prop}
    (hT : Twin base h h')
    (hgrant : ∀ {h₁ h₁'}, Twin base h₁ h₁' → (Coupling.hosts base).grows h h' h₁ h₁' →
      (Coupling.hosts base).InStep V (grant r) (grant r') h₁ h₁') :
    (Coupling.hosts base).InStep V (Host.perform r) (Host.perform r') h h' :=
  hT.touch.bind fun hT₁ hgrows₁ _ => hgrant hT₁ hgrows₁

end Host

end ObjectBridge
