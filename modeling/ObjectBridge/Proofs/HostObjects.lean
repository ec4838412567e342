import ObjectBridge.Proofs.Outcomes
import ObjectBridge.Proofs.TwinSessions

/-!
# Objects of a host over time

A host makes objects and may change the attributes of one instance at a time; every
other object stays what it is.  So a value that was given to a host counts as the
same value at any later time, and one that the host can keep is taken back as it was
given.

Main results:

- Definition `Host.Later`: a host at a later time, at which one instance at most has
  other attributes.
- Definition `Host.counted`: the value that a value counts as when it is given to a
  host.
- Theorem `Host.peeks_of_given`: arguments reach a method or a constructor as the
  values they count as.
- Theorem `Host.Keeps.storeResult`: what a host can keep is taken back unchanged.
-/

namespace ObjectBridge

/-! ## Kinds of objects -/

namespace HostObject

/-- Whether an object wraps data. -/
def isData : HostObject → Bool
  | data _ => true
  | _ => false

/-- Whether an object is found by its name. -/
def isSymbol : HostObject → Bool
  | module _ | classObject _ => true
  | _ => false

/-- Whether an object wraps neither another object nor a number that is not finite. -/
def isSound : HostObject → Bool
  | data (.object _) => false
  | data (.float x) => x.isFinite
  | _ => true

/-- What an object is seen as: the data it wraps, or itself. -/
def seen (o : ForeignObject) : HostObject → Value
  | data v => v
  | _ => .object o

end HostObject

namespace Host

variable {changed : Option Nat} {n : Nat} {h h₁ h₂ : Host} {o : ForeignObject} {x : HostObject}
  {v w : Value}

/-- A host all of whose objects are sound. -/
def Orderly (h : Host) : Prop :=
  ∀ n x, h.at? n = some x → x.isSound = true

/-- A module or a class. -/
def Symbol (h : Host) (o : ForeignObject) : Prop :=
  ∃ x, h.at? o.handle = some x ∧ x.isSymbol = true

/-- A value that the host can keep: an object is one of its own that wraps no data, and a number is
finite. -/
def Keeps (h : Host) : Value → Prop
  | .object o => ∃ x, h.at? o.handle = some x ∧ x.isData = false
  | .float x => x.isFinite = true
  | _ => True

/-- The value that a value counts as: an object that wraps data counts as the data. -/
def counted (h : Host) : Value → Value
  | .object o =>
    match h.at? o.handle with
    | some (.data v) => v
    | _ => .object o
  | v => v

/-- An object stands for a value that was given to the host. -/
inductive Given (h : Host) : Value → ForeignObject → Prop where
  | object (o : ForeignObject) : Given h (.object o) o
  | data {v : Value} {o : ForeignObject} (plain : v.asObject = none)
      (found : h.at? o.handle = some (.data v)) : Given h v o

/-! ## Later hosts -/

/-- A host at a later time: modules are as they were, all objects are still there, and none but
one instance has changed. -/
structure Later (changed : Option Nat) (h h₁ : Host) : Prop where
  modules : h₁.modules = h.modules
  size : h.objects.size ≤ h₁.objects.size
  kept : ∀ {n x}, h.at? n = some x → changed ≠ some n ∨ x.isInstance = false → h₁.at? n = some x
  instances : ∀ {n c as}, h.at? n = some (.instanceOf c as) →
    ∃ bs, h₁.at? n = some (.instanceOf c bs)
  orderly : h.Orderly → h₁.Orderly

instance : IsPreorder Host (Later changed) where
  refl _ := ⟨rfl, Nat.le_refl _, fun hx _ => hx, fun hx => ⟨_, hx⟩, id⟩
  trans _ _ _ h₁₂ h₂₃ :=
    { modules := h₂₃.modules.trans h₁₂.modules
      size := Nat.le_trans h₁₂.size h₂₃.size
      kept := fun hx hn => h₂₃.kept (h₁₂.kept hx hn) hn
      instances := fun hx =>
        let ⟨_, hy⟩ := h₁₂.instances hx
        h₂₃.instances hy
      orderly := fun ho => h₂₃.orderly (h₁₂.orderly ho) }

namespace Later

/-- A host with the same modules and objects is a later one. -/
theorem of_eq (hmodules : h₁.modules = h.modules) (hobjects : h₁.objects = h.objects) :
    h.Later changed h₁ := by
  have hat {n : Nat} : h₁.at? n = h.at? n := by rw [at?, at?, hobjects]
  refine ⟨hmodules, Nat.le_of_eq (hobjects ▸ rfl), fun hx _ => hat.trans hx,
    fun hx => ⟨_, hat.trans hx⟩, fun ho n x hx => ?_⟩
  exact ho n x (hat.symm.trans hx)

/-- A request that is counted makes a host later. -/
theorem touched (h : Host) : h.Later changed h.touched :=
  .of_eq rfl rfl

/-- A new object makes a host later. -/
theorem pushed (hx : x.isSound = true) : h.Later changed (h.pushed x) where
  modules := rfl
  size := Array.size_push _ ▸ Nat.le_succ _
  kept hy _ := (at?_pushed_of_lt (lt_size hy)).trans hy
  instances hy := ⟨_, (at?_pushed_of_lt (lt_size hy)).trans hy⟩
  orderly ho := forall_pushed ho hx

/-- Other attributes of the instance that may change. -/
theorem put {c : HostClass} {as : Attributes} (bs : Attributes)
    (hx : h.at? o.handle = some (.instanceOf c as)) :
    h.Later (some o.handle) (h.put o (.instanceOf c bs)) := by
  have hlt := lt_size hx
  refine ⟨rfl, Nat.le_of_eq size_put.symm, fun {n y} hy hn => ?_, fun {n d ds} hy => ?_,
    fun ho => forall_put hlt ho rfl⟩
  · rw [at?_put hlt, if_neg, hy]
    rintro rfl
    rcases hn with hne | hinstance
    · exact hne rfl
    · cases hx.symm.trans hy
      cases hinstance
  · rw [at?_put hlt]
    split
    · rename_i hn
      subst hn
      cases hx.symm.trans hy
      exact ⟨bs, rfl⟩
    · exact ⟨ds, hy⟩

/-- If no instance has changed, then none has but any given one. -/
theorem any (hl : h.Later none h₁) : h.Later changed h₁ :=
  ⟨hl.modules, hl.size, fun hx _ => hl.kept hx (.inl nofun), hl.instances, hl.orderly⟩

/-- An object is seen as what it was seen as before. -/
theorem seen (hl : h.Later changed h₁) (hx : h.at? n = some x) :
    ∃ y, h₁.at? n = some y ∧ y.isData = x.isData ∧ ∀ o, y.seen o = x.seen o := by
  cases x with
  | instanceOf c as =>
      obtain ⟨bs, hy⟩ := hl.instances hx
      exact ⟨_, hy, rfl, fun _ => rfl⟩
  | _ => exact ⟨_, hl.kept hx (.inr rfl), rfl, fun _ => rfl⟩

/-- A symbol is still one later. -/
theorem symbol (hl : h.Later changed h₁) (ho : h.Symbol o) : h₁.Symbol o := by
  obtain ⟨x, hx, hsymbol⟩ := ho
  refine ⟨x, hl.kept hx (.inr ?_), hsymbol⟩
  cases x with
  | instanceOf c as => cases hsymbol
  | _ => rfl

/-- An importer is still one later. -/
theorem imports (hl : h.Later changed h₁) (ho : h.Imports o) : h₁.Imports o :=
  hl.kept ho (.inr rfl)

/-- A value whose objects are kept has them kept later. -/
theorem keeps (hl : h.Later changed h₁) (hv : h.Keeps v) : h₁.Keeps v := by
  cases v with
  | object o =>
      obtain ⟨x, hx, hdata⟩ := hv
      obtain ⟨y, hy, heq, -⟩ := hl.seen hx
      exact ⟨y, hy, heq.trans hdata⟩
  | _ => exact hv

/-- An object that was given for a value is still given for it later. -/
theorem given (hl : h.Later changed h₁) (ho : h.Given v o) : h₁.Given v o := by
  cases ho with
  | object o => exact .object o
  | data hplain hfound => exact .data hplain (hl.kept hfound (.inr rfl))

/-- The classes of a module are the same later. -/
theorem class?_eq (hl : h.Later changed h₁) (module name : String) :
    h₁.class? module name = h.class? module name := by
  rw [class?, class?, hl.modules]

end Later

/-! ## Values taken from a host -/

/-- An object that is seen stands behind its handle. -/
theorem at?_of_look (hx : h.look o = .ok x) : h.at? o.handle = some x := by
  rw [look] at hx
  cases hat : h.at? o.handle with
  | some y =>
      rw [hat] at hx
      exact congrArg some (Except.ok.inj hx)
  | none =>
      rw [hat] at hx
      cases hx

/-- The value of an object is what is seen of what stands behind its handle. -/
theorem peek_eq_ok_iff : h.peek o = .ok v ↔ ∃ x, h.at? o.handle = some x ∧ x.seen o = v := by
  rw [peek, look]
  cases h.at? o.handle with
  | none =>
      constructor
      · intro hv
        cases hv
      · rintro ⟨x, hx, -⟩
        cases hx
  | some x =>
      constructor
      · intro hv
        refine ⟨x, rfl, ?_⟩
        cases x <;> exact Except.ok.inj hv
      · rintro ⟨y, hy, rfl⟩
        cases hy
        cases x <;> rfl

/-- A value that can be read can be read later. -/
theorem Later.peek (hl : h.Later changed h₁) (hv : h.peek o = .ok v) : h₁.peek o = .ok v := by
  obtain ⟨x, hx, rfl⟩ := peek_eq_ok_iff.mp hv
  obtain ⟨y, hy, -, hseen⟩ := hl.seen hx
  exact peek_eq_ok_iff.mpr ⟨y, hy, hseen o⟩

/-- What is seen of an orderly host, it can keep. -/
theorem keeps_of_peek (ho : h.Orderly) (hv : h.peek o = .ok v) : h.Keeps v := by
  obtain ⟨x, hx, rfl⟩ := peek_eq_ok_iff.mp hv
  have hsound := ho _ x hx
  cases x with
  | data v =>
      cases v with
      | object o' => cases hsound
      | float y => exact hsound
      | _ => trivial
  | _ => exact ⟨_, hx, rfl⟩

/-- An object counts as what is seen of it. -/
theorem counted_object (h : Host) (hx : h.at? o.handle = some x) :
    h.counted (.object o) = x.seen o := by
  rw [counted, hx]
  cases x <;> rfl

/-- What is seen of an object that stands for a value is what the value counts as, then and at any
later time. -/
theorem Given.counted_eq (ho : h.Given v o) (hw : h.peek o = .ok w) (hl : h.Later changed h₁) :
    h₁.counted v = w := by
  obtain ⟨x, hx, rfl⟩ := peek_eq_ok_iff.mp hw
  cases ho with
  | object o =>
      obtain ⟨y, hy, -, hseen⟩ := hl.seen hx
      rw [counted_object h₁ hy, hseen]
  | data hplain hfound =>
      cases hfound.symm.trans hx
      cases v with
      | object o' => cases hplain
      | _ => rfl

/-- Arguments are seen as what they count as, and can be kept. -/
theorem peeks_of_given {vs ws : List Value} {os : List ForeignObject}
    (hos : List.Forall₂ h.Given vs os) (hws : os.mapM h.peek = .ok ws) (hl : h.Later changed h₁) :
    ws = vs.map h₁.counted ∧ (h.Orderly → ∀ v ∈ vs, h₁.Keeps (h₁.counted v)) := by
  have hseen := forall₂_of_mapM_eq_ok hws
  clear hws
  induction hos generalizing ws with
  | nil =>
      cases hseen
      exact ⟨rfl, fun _ => nofun⟩
  | @cons v o vs os ho _ ih =>
      obtain _ | ⟨hw, hrest⟩ := hseen
      obtain ⟨rfl, hkeeps⟩ := ih hrest
      obtain rfl := ho.counted_eq hw hl
      refine ⟨rfl, fun hh => List.forall_mem_cons.mpr ⟨?_, hkeeps hh⟩⟩
      exact hl.keeps (keeps_of_peek hh hw)

/-- So are arguments that are given by name. -/
theorem peekEntries_of_given {ks ws : List (String × Value)} {os : List (String × ForeignObject)}
    (hos : Entries.Alike h.Given ks os)
    (hws : (os.mapM fun k => (h.peek k.2).map (k.1, ·)) = .ok ws) (hl : h.Later changed h₁) :
    ws = ks.map (fun k => (k.1, h₁.counted k.2)) ∧
      (h.Orderly → ∀ k ∈ ks, h₁.Keeps (h₁.counted k.2)) := by
  have hseen := forall₂_of_mapM_eq_ok hws
  clear hws
  induction hos generalizing ws with
  | nil =>
      cases hseen
      exact ⟨rfl, fun _ => nofun⟩
  | @cons k o ks os ho _ ih =>
      obtain _ | ⟨hw, hrest⟩ := hseen
      obtain ⟨rfl, hkeeps⟩ := ih hrest
      cases hpeek : h.peek o.2 with
      | error e =>
          rw [hpeek] at hw
          cases hw
      | ok w =>
          rw [hpeek] at hw
          cases hw
          obtain rfl := ho.2.counted_eq hpeek hl
          refine ⟨by rw [List.map_cons, ho.1], fun hh => ?_⟩
          exact List.forall_mem_cons.mpr ⟨hl.keeps (keeps_of_peek hh hpeek), hkeeps hh⟩

/-! ## What requests lead to -/

namespace Later

/-- Making an object leads to a later host that has it. -/
theorem make (hx : x.isSound = true) :
    Leads (Later changed) (fun o h₁ => h₁.at? o.handle = some x ∧ h.objects.size ≤ o.handle)
      (Host.make x) h :=
  .of_ok (make_apply x h) (.pushed hx) ⟨at?_made, Nat.le_refl _⟩

/-- Storing a value leads to a later host that is given it. -/
theorem store (v : Value) :
    Leads (Later changed) (fun o h₁ => h₁.Given v o) (Host.store v) h := by
  cases v with
  | object o => exact .pure (.object o)
  | float x =>
      rw [Host.store]
      split
      · rename_i hfinite
        have hsound : (HostObject.data (.float x)).isSound = true := hfinite
        exact (make hsound).mono fun o h₁ _ ho => .data rfl ho.1
      · exact .throw _
  | _ => exact (make rfl).mono fun o h₁ _ ho => .data rfl ho.1

/-- The importer returns the first package of a module. -/
theorem callImporter {a : ForeignObject} {name : String} (ho : h.Imports o)
    (ha : h.at? a.handle = some (.data (.str name))) :
    Leads (Later changed)
      (fun m h₁ => h₁.at? m.handle = some (.module ((Text.textSegments '.' name).headD name)))
      (Host.call o ⟨[a], []⟩) h := by
  have hargument : ([a].head?.mapM Host.valueOf) h = (.ok (some (.str name)), h) := by
    rw [head_apply, List.head?_cons, Option.mapM_some, peek_eq_ok_iff.mpr ⟨_, ha, rfl⟩]
    rfl
  rw [Host.call]
  refine .read (find_of_at? ho) fun x hx => ?_
  cases hx
  rw [importModule]
  refine .read hargument fun y hy => ?_
  cases hy
  refine .read (get_apply h) fun h' hh' => ?_
  cases hh'
  split
  · exact (make rfl).mono fun _ _ _ hm => hm.1
  · exact .throw _

/-- An attribute of a module or a class is a module or a class again. -/
theorem getAttribute (ho : h.Symbol o) (name : String) :
    Leads (Later changed) (fun o' h₁ => h₁.Symbol o' ∧
        ∀ module c, h.at? o.handle = some (.module module) → h.class? module name = some c →
          h₁.at? o'.handle = some (.classObject c))
      (Host.getAttribute o name) h := by
  obtain ⟨x, hx, hsymbol⟩ := ho
  rw [Host.getAttribute]
  refine .read (find_of_at? hx) fun y hy => ?_
  cases hy
  cases x with
  | module module =>
      refine .read (get_apply h) fun h' hh' => ?_
      cases hh'
      simp only []
      split
      · rename_i c hc
        refine (make rfl).mono fun o' h₁ _ hmade => ⟨⟨_, hmade.1, rfl⟩, fun module' c' hm hc' => ?_⟩
        cases hx.symm.trans hm
        cases hc.symm.trans hc'
        exact hmade.1
      · rename_i hnone
        split
        · refine (make rfl).mono fun o' h₁ _ hmade => ⟨⟨_, hmade.1, rfl⟩, fun _ _ hm hc' => ?_⟩
          cases hx.symm.trans hm
          cases hnone.symm.trans hc'
        · exact .throw _
  | classObject c => exact .throw _
  | _ => cases hsymbol

/-- A call of a class makes an instance, which is new. -/
theorem call (ho : h.Symbol o) (arguments : Arguments) :
    Leads (Later changed) (fun made h₁ => h.objects.size ≤ made.handle ∧
        ∀ c, h.at? o.handle = some (.classObject c) →
          ∃ vs ws as, arguments.positional.mapM h.peek = .ok vs ∧
            (arguments.keywords.mapM fun k => (h.peek k.2).map (k.1, ·)) = .ok ws ∧
            c.instantiate vs ws = .ok as ∧ h₁.at? made.handle = some (.instanceOf c as))
      (Host.call o arguments) h := by
  obtain ⟨x, hx, hsymbol⟩ := ho
  rw [Host.call]
  refine .read (find_of_at? hx) fun y hy => ?_
  cases hy
  cases x with
  | classObject c =>
      simp only []
      refine .read (mapM_apply_of_reads (fun o => valueOf_apply o h) _) fun vs hvs => ?_
      refine .read (mapM_apply_of_reads (keyword_apply h) _) fun ws hws => ?_
      refine .read (lift_apply _ h) fun as has => ?_
      refine (make rfl).mono fun made h₁ _ hmade => ⟨hmade.2, fun c' hc' => ?_⟩
      cases hx.symm.trans hc'
      exact ⟨vs, ws, as, hvs, hws, has, hmade.1⟩
  | module module => exact .throw _
  | _ => cases hsymbol

/-- Reading a value leads nowhere else. -/
theorem valueOf (o : ForeignObject) :
    Leads (Later changed) (fun v _ => h.peek o = .ok v) (Host.valueOf o) h := by
  cases hv : h.peek o with
  | ok v => exact .of_ok (by rw [valueOf_apply, hv]) (refl_of _ h) rfl
  | error e => exact .of_error (by rw [valueOf_apply, hv]) (refl_of _ h)

/-- Coercing an object leads to a later host. -/
theorem coerce (o : ForeignObject) :
    Leads (Later changed) (fun _ _ => True) (Host.coerce o) h := by
  rw [Host.coerce]
  refine .read (find_apply o h) fun x _ => ?_
  cases x with
  | data v => exact .pure trivial
  | instanceOf c as => exact .pure trivial
  | _ => exact .throw _

/-- Making a state leads to a later host. -/
theorem createState : Leads (Later changed) (fun _ _ => True) Host.createState h := by
  rw [Host.createState]
  refine .read (get_apply h) fun h' hh' => ?_
  cases hh'
  simp only []
  split
  · exact .bind (Q := fun _ _ => True) (.throw _) fun _ _ _ _ =>
      .of_ok rfl (.of_eq rfl rfl) trivial
  · exact .of_ok rfl (.of_eq rfl rfl) trivial

/-- Storing a result leads to a later host that is given it. -/
theorem storeResult (v : Value) :
    Leads (Later changed) (fun o h₁ => h₁.Given v o) (Host.storeResult v) h :=
  Leads.bind (Q := fun _ _ => True) (.of_ok (modify_apply _ h) (touched h) trivial)
    fun _ _ _ _ => store v

/-- A method may change the instance it is called on, and nothing else. -/
theorem callMethod (o : ForeignObject) (name : String) (os : List ForeignObject) :
    Leads (Later (some o.handle)) (fun _ _ => True) (Host.callMethod o name os) h := by
  rw [Host.callMethod]
  refine .read (find_apply o h) fun x hx => ?_
  cases x with
  | instanceOf c as =>
      simp only []
      split
      · exact .throw _
      · refine .read (mapM_apply_of_reads (fun o => valueOf_apply o h) _) fun vs _ => ?_
        refine Leads.bind (Q := fun _ _ => True) (.of_ok (modify_apply _ h)
          (put _ (at?_of_look hx)) trivial) fun _ h₁ _ _ => ?_
        refine .read (lift_apply _ h₁) fun results _ => ?_
        refine (Leads.mapM (V := fun _ _ _ => True) (fun v _ h₂ _ => ?_)
          fun _ _ _ _ _ _ => trivial).mono fun _ _ _ _ => trivial
        exact (storeResult v).mono fun _ _ _ _ => trivial
  | _ => exact .throw _

end Later

/-- A method of an instance is called with the values of its arguments, if there is such a method
and all of them have values.  What it leaves is there before its results are stored, and stays when
it fails. -/
theorem callMethod_apply {c : HostClass} {as : Attributes}
    (hx : h.at? o.handle = some (.instanceOf c as)) (name : String) (os : List ForeignObject) :
    Host.callMethod o name os h =
      match Entries.lookup name c.methods, os.mapM h.peek with
      | none, _ => (.error (.missingAttribute c.name name), h)
      | some _, .error err => (.error err, h)
      | some method, .ok vs =>
        (do (← (method as vs).1).mapM Host.storeResult : HostAction (List ForeignObject))
          (h.put o (.instanceOf c (method as vs).2)) := by
  rw [Host.callMethod, bind_apply_ok (find_of_at? hx)]
  cases hmethod : Entries.lookup name c.methods with
  | none =>
      simp only [hmethod]
      rfl
  | some method =>
      have hvalues := mapM_apply_of_reads (fun o => valueOf_apply o h) os
      simp only [hmethod]
      cases hvs : os.mapM h.peek with
      | error err => rw [bind_apply_error (hvalues.trans (by rw [hvs]))]
      | ok vs =>
          rw [bind_apply_ok (hvalues.trans (by rw [hvs])), bind_apply_ok (modify_apply _ h)]

/-- What a host can keep is stored without fail and seen as it was given. -/
theorem Keeps.storeResult (hv : h.Keeps v) :
    Ends (fun o h₁ => h.Later changed h₁ ∧ h₁.peek o = .ok v) (fun _ _ => False)
      (Host.storeResult v) h := by
  have hmake (hsound : (HostObject.data v).isSound = true) :
      Ends (fun o h₁ => h.Later changed h₁ ∧ h₁.peek o = .ok v) (fun (_ : ForeignError) _ => False)
        (Host.make (.data v)) h.touched :=
    .of_ok (make_apply _ _) ⟨trans_of _ (.touched h) (.pushed hsound),
      peek_eq_ok_iff.mpr ⟨_, at?_made, rfl⟩⟩
  refine Ends.bind (Q := fun _ h₁ => h₁ = h.touched) (.of_ok (modify_apply _ h) rfl)
    fun _ h₁ hh₁ => ?_
  subst hh₁
  cases v with
  | object o =>
      obtain ⟨x, hx, hdata⟩ := hv
      refine .pure ⟨.touched h, peek_eq_ok_iff.mpr ⟨x, hx, ?_⟩⟩
      cases x with
      | data v => cases hdata
      | _ => rfl
  | float x =>
      have hfinite : x.isFinite = true := hv
      rw [store, if_pos hfinite]
      exact hmake hfinite
  | _ => exact hmake rfl

/-- So are several values, one after another. -/
theorem storeResults {vs : List Value} (hvs : ∀ v ∈ vs, h.Keeps v) :
    Ends (fun os h₁ => h.Later none h₁ ∧ List.Forall₂ (fun v o => h₁.peek o = .ok v) vs os)
      (fun _ _ => False) (vs.mapM Host.storeResult) h :=
  Ends.mapM (R := Later none) (V := fun v o h₁ => h₁.peek o = .ok v)
    (fun v hv _ hl => (hl.keeps (hvs v hv)).storeResult) fun _ _ _ _ hl ho => hl.peek ho

end Host

end ObjectBridge
