import Mathlib.Data.List.Nodup
import Mathlib.Data.List.Infix
import ObjectBridge.Proofs.Uniform

/-!
# Twin hosts

Two hosts that were the same once have made objects in different places since.
They are twins when they have made the same number of instances, and the instances
that were made at the same time are alike.  What else was made, for the use of the
bridge, plays no part in this.

Main results:

- Definition `Host.Linked`: handles that were there before, or of instances that
  were made at the same time.
- Definition `Host.Twin`: two hosts are twins.
- Theorems `Host.Twin.make`, `Host.Twin.put` and `Host.Twin.aside`: new objects and
  changed instances leave twins, and so does whatever only one of them makes for its
  own use.
-/

namespace ObjectBridge

/-- Whether an object is an instance of a class. -/
def HostObject.isInstance : HostObject → Bool
  | instanceOf .. => true
  | _ => false

/-- Of two alike objects both are instances or neither is. -/
theorem HostObject.Alike.isInstance_eq {base : Nat} {N : Nat → Nat → Prop} {x x' : HostObject}
    (h : x.Alike base N x') : x.isInstance = x'.isInstance := by
  cases h <;> rfl

namespace Host

/-! ## Objects by their numbers -/

/-- Whether the object behind a handle is an instance. -/
def holdsInstance (h : Host) (n : Nat) : Bool :=
  (h.at? n).any HostObject.isInstance

/-- The handles of the instances that were made since a number of handles was given out, in the
order of their making. -/
def instances (base : Nat) (h : Host) : List Nat :=
  (List.range h.objects.size).filter fun n => base ≤ n && h.holdsInstance n

/-- The host with one more object. -/
def pushed (h : Host) (x : HostObject) : Host :=
  { h with objects := h.objects.push (some x) }

variable {base n n' : Nat} {h h' h₁ h₂ h₁' : Host} {x x' : HostObject}

/-- A new object gets the next handle. -/
theorem make_apply (x : HostObject) (h : Host) :
    make x h = (.ok ⟨h.objects.size, x.typeName⟩, h.pushed x) :=
  rfl

/-- A handle behind which an object stands has been given out. -/
theorem lt_size (hx : h.at? n = some x) : n < h.objects.size := by
  by_contra hn
  rw [at?, Array.getElem?_eq_none (Nat.le_of_not_lt hn)] at hx
  cases hx

/-- A new object stands behind the next handle, and nothing else has changed. -/
theorem at?_pushed : (h.pushed x).at? n = if n = h.objects.size then some x else h.at? n := by
  rw [at?, pushed, Array.getElem?_push]
  split <;> rfl

/-- Behind the handles that were given out nothing has changed. -/
theorem at?_pushed_of_lt (hn : n < h.objects.size) : (h.pushed x).at? n = h.at? n := by
  rw [at?_pushed, if_neg (Nat.ne_of_lt hn)]

/-- An object that is changed stands behind its own handle only. -/
theorem at?_put {o : ForeignObject} (ho : o.handle < h.objects.size) :
    (h.put o x).at? n = if n = o.handle then some x else h.at? n := by
  rw [at?, put, Array.getElem?_setIfInBounds]
  by_cases hn : n = o.handle
  · rw [if_pos hn, if_pos hn.symm, if_pos (hn ▸ ho)]
    rfl
  · rw [if_neg hn, if_neg (Ne.symm hn)]
    rfl

/-- What is so of all objects of a host stays so if it is so of a new one. -/
theorem forall_pushed {P : HostObject → Prop} (hh : ∀ n y, h.at? n = some y → P y) (hx : P x) :
    ∀ n y, (h.pushed x).at? n = some y → P y := by
  intro n y hy
  rw [at?_pushed] at hy
  split at hy
  · exact Option.some.inj hy ▸ hx
  · exact hh n y hy

/-- Or if it is so of the object that takes the place of another one. -/
theorem forall_put {P : HostObject → Prop} {o : ForeignObject} (ho : o.handle < h.objects.size)
    (hh : ∀ n y, h.at? n = some y → P y) (hx : P x) : ∀ n y, (h.put o x).at? n = some y → P y := by
  intro n y hy
  rw [at?_put ho] at hy
  split at hy
  · exact Option.some.inj hy ▸ hx
  · exact hh n y hy

/-- The instances of interest are those behind handles that were given out since. -/
theorem mem_instances :
    n ∈ h.instances base ↔ base ≤ n ∧ h.holdsInstance n = true := by
  rw [instances, List.mem_filter, List.mem_range, Bool.and_eq_true, decide_eq_true_iff]
  refine ⟨And.right, fun hn => ⟨?_, hn⟩⟩
  obtain ⟨x, hx, _⟩ := (Option.any_eq_true _ _).mp hn.2
  exact lt_size hx

/-- No instance is listed twice. -/
theorem instances_nodup : (h.instances base).Nodup :=
  List.nodup_range.filter _

/-- Which instances there are is a matter of the handles and of what is an instance. -/
theorem instances_congr (hsize : h₁.objects.size = h.objects.size)
    (hsame : ∀ n, h₁.holdsInstance n = h.holdsInstance n) :
    h₁.instances base = h.instances base := by
  simp only [instances, hsize, hsame]

/-- A new object is listed last, if it is an instance. -/
theorem instances_pushed (hbase : base ≤ h.objects.size) :
    (h.pushed x).instances base =
      h.instances base ++ if x.isInstance then [h.objects.size] else [] := by
  have hsize : (h.pushed x).objects.size = h.objects.size + 1 := Array.size_push _
  rw [instances, hsize, List.range_succ, List.filter_append]
  congr 1
  · refine List.filter_congr fun n hn => ?_
    rw [holdsInstance, at?_pushed_of_lt (List.mem_range.mp hn), holdsInstance]
  · rw [List.filter_singleton, holdsInstance, at?_pushed, if_pos rfl, Option.any_some,
      decide_eq_true hbase, Bool.true_and]
    cases x.isInstance <;> rfl

/-- A change of an object gives out no handle. -/
theorem size_put {o : ForeignObject} : (h.put o x).objects.size = h.objects.size :=
  Array.size_setIfInBounds

/-- Other attributes of an instance leave the instances as they are. -/
theorem instances_put {o : ForeignObject} {c : HostClass} {as : Attributes} (base : Nat)
    (bs : Attributes) (hx : h.at? o.handle = some (.instanceOf c as)) :
    (h.put o (.instanceOf c bs)).instances base = h.instances base := by
  refine instances_congr size_put fun n => ?_
  rw [holdsInstance, at?_put (lt_size hx), holdsInstance]
  split
  · rename_i hn
    rw [hn, hx]
    rfl
  · rfl

/-! ## How a host grows -/

/-- A host that has made more objects and may have changed its instances. -/
structure Grows (base : Nat) (h h₁ : Host) : Prop where
  instances : h.instances base <+: h₁.instances base
  kept : ∀ {n x}, h.at? n = some x → x.isInstance = false → h₁.at? n = some x

namespace Grows

/-- A host has grown from itself. -/
theorem refl (h : Host) : Grows base h h :=
  ⟨List.prefix_rfl, fun hx _ => hx⟩

/-- What has grown twice has grown. -/
theorem trans (h₁₂ : Grows base h h₁) (h₂₃ : Grows base h₁ h₂) : Grows base h h₂ :=
  ⟨h₁₂.instances.trans h₂₃.instances, fun hx hinst => h₂₃.kept (h₁₂.kept hx hinst) hinst⟩

/-- A host grows by a new object. -/
theorem pushed (hbase : base ≤ h.objects.size) (x : HostObject) : Grows base h (h.pushed x) where
  instances := instances_pushed hbase ▸ List.prefix_append _ _
  kept hx _ := (at?_pushed_of_lt (lt_size hx)).trans hx

/-- A host counts as grown when an instance has changed its attributes. -/
theorem put {o : ForeignObject} {c : HostClass} {as bs : Attributes}
    (hx : h.at? o.handle = some (.instanceOf c as)) :
    Grows base h (h.put o (.instanceOf c bs)) where
  instances := instances_put base bs hx ▸ List.prefix_rfl
  kept {n y} hy hinst := by
    rw [at?_put (lt_size hx), if_neg, hy]
    rintro rfl
    cases hx.symm.trans hy
    cases hinst

end Grows

/-- A host that may have made objects for the use of the bridge, and nothing else that is of
interest. -/
structure Aside (base : Nat) (h h₁ : Host) : Prop where
  modules : h₁.modules = h.modules
  refusing : h₁.refusing = h.refusing
  size : h.objects.size ≤ h₁.objects.size
  instances : h₁.instances base = h.instances base
  kept : ∀ {n}, n < h.objects.size → h₁.at? n = h.at? n

namespace Aside

/-- A host that has the same objects, and the same modules, and refuses as before. -/
theorem of_eq (hmodules : h₁.modules = h.modules) (hrefusing : h₁.refusing = h.refusing)
    (hobjects : h₁.objects = h.objects) : Aside base h h₁ where
  modules := hmodules
  refusing := hrefusing
  size := Nat.le_of_eq (hobjects ▸ rfl)
  instances := instances_congr (hobjects ▸ rfl) fun n => by rw [holdsInstance, at?, hobjects]; rfl
  kept _ := by rw [at?, at?, hobjects]

/-- A host stands aside from itself. -/
theorem refl (h : Host) : Aside base h h :=
  of_eq rfl rfl rfl

/-- Standing aside carries over. -/
theorem trans (h₁₂ : Aside base h h₁) (h₂₃ : Aside base h₁ h₂) : Aside base h h₂ where
  modules := h₂₃.modules.trans h₁₂.modules
  refusing := h₂₃.refusing.trans h₁₂.refusing
  size := Nat.le_trans h₁₂.size h₂₃.size
  instances := h₂₃.instances.trans h₁₂.instances
  kept hn := (h₂₃.kept (Nat.lt_of_lt_of_le hn h₁₂.size)).trans (h₁₂.kept hn)

/-- An object that is no instance can be made aside. -/
theorem pushed (hbase : base ≤ h.objects.size) (hx : x.isInstance = false) :
    Aside base h (h.pushed x) where
  modules := rfl
  refusing := rfl
  size := Array.size_push _ ▸ Nat.le_succ _
  instances := by simp [instances_pushed hbase, hx]
  kept hn := at?_pushed_of_lt hn

/-- A host that stands aside has grown. -/
theorem grows (ha : Aside base h h₁) : Grows base h h₁ where
  instances := ha.instances ▸ List.prefix_rfl
  kept hx _ := (ha.kept (lt_size hx)).trans hx

end Aside

/-! ## Linked handles -/

/-- Handles of one object that was there before, or of instances that were made at the same time. -/
inductive Linked (base : Nat) (h h' : Host) : Nat → Nat → Prop where
  | before {n : Nat} (below : n < base) : Linked base h h' n n
  | made {n n' : Nat} (i : Nat) (left : (h.instances base)[i]? = some n)
      (right : (h'.instances base)[i]? = some n') : Linked base h h' n n'

/-- An instance keeps its place in the list while its host grows. -/
theorem Grows.index {i : Nat} (hgrows : Grows base h h₁)
    (hi : (h.instances base)[i]? = some n) : (h₁.instances base)[i]? = some n := by
  obtain ⟨rest, hrest⟩ := hgrows.instances
  rw [← hrest, List.getElem?_append_left (List.getElem?_eq_some_iff.mp hi).1, hi]

namespace Linked

/-- Linked handles stay linked while both hosts grow. -/
theorem mono (hgrows : Grows base h h₁) (hgrows' : Grows base h' h₁')
    (hn : Linked base h h' n n') : Linked base h₁ h₁' n n' := by
  cases hn with
  | before hn => exact .before hn
  | made i hi hi' => exact .made i (hgrows.index hi) (hgrows'.index hi')

/-- Links go both ways. -/
theorem symm (hn : Linked base h h' n n') : Linked base h' h n' n := by
  cases hn with
  | before hn => exact .before hn
  | made i hi hi' => exact .made i hi' hi

/-- Links are a matter of the lists of instances. -/
theorem congr (heq : h₁.instances base = h.instances base)
    (heq' : h₁'.instances base = h'.instances base) :
    Linked base h₁ h₁' n n' ↔ Linked base h h' n n' := by
  constructor
  · intro hn
    cases hn with
    | before hn => exact .before hn
    | made i hi hi' => exact .made i (heq ▸ hi) (heq' ▸ hi')
  · intro hn
    cases hn with
    | before hn => exact .before hn
    | made i hi hi' => exact .made i (heq ▸ hi) (heq' ▸ hi')

/-- A linked handle has been given out. -/
theorem lt_size (hbase : base ≤ h.objects.size) (hn : Linked base h h' n n') :
    n < h.objects.size := by
  cases hn with
  | before hn => exact Nat.lt_of_lt_of_le hn hbase
  | made i hi _ =>
      obtain ⟨x, hx, _⟩ :=
        (Option.any_eq_true _ _).mp (mem_instances.mp (List.mem_of_getElem? hi)).2
      exact Host.lt_size hx

/-- Links are one to one. -/
theorem correspondence (base : Nat) (h h' : Host) : Correspondence base (Linked base h h') where
  fixed n hn := .before hn
  unique {n n' m m'} hn hm := by
    have hbelow {k : Host} {i p : Nat} (hi : (k.instances base)[i]? = some p) : base ≤ p :=
      (mem_instances.mp (List.mem_of_getElem? hi)).1
    have hindex {k : Host} {i j p : Nat} (hi : (k.instances base)[i]? = some p)
        (hj : (k.instances base)[j]? = some p) : i = j := by
      refine (List.getElem?_inj (List.getElem?_eq_some_iff.mp hi).1 instances_nodup).mp ?_
      rw [hi, hj]
    cases hn with
    | before hn =>
        cases hm with
        | before hm => exact Iff.rfl
        | made j hj hj' =>
            have hle := hbelow hj
            have hle' := hbelow hj'
            omega
    | made i hi hi' =>
        cases hm with
        | before hm =>
            have hle := hbelow hi
            have hle' := hbelow hi'
            omega
        | made j hj hj' =>
            constructor
            · rintro rfl
              cases hindex hi hj
              exact Option.some.inj (hi'.symm.trans hj')
            · rintro rfl
              cases hindex hi' hj'
              exact Option.some.inj (hi.symm.trans hj)

end Linked

/-! ## Twins -/

/-- Two hosts with the same modules and the same number of instances made since, in which linked
handles stand for alike objects.  Neither refuses to make states. -/
structure Twin (base : Nat) (h h' : Host) : Prop where
  modules : h.modules = h'.modules
  classes : ∀ {module name c}, h.class? module name = some c → c.Uniform base
  willing : h.refusing = false
  willing' : h'.refusing = false
  base_le : base ≤ h.objects.size
  base_le' : base ≤ h'.objects.size
  length : (h.instances base).length = (h'.instances base).length
  objects : ∀ {n n'}, Linked base h h' n n' →
    Option.Rel (HostObject.Alike base (Linked base h h')) (h.at? n) (h'.at? n')

namespace Twin

/-- A host is a twin of itself when it has made nothing yet. -/
theorem self (huniform : h.Uniform) (hwilling : h.refusing = false) :
    Twin h.objects.size h h where
  modules := rfl
  classes := huniform.classes _ _ _
  willing := hwilling
  willing' := hwilling
  base_le := Nat.le_refl _
  base_le' := Nat.le_refl _
  length := rfl
  objects {n n'} hn := by
    cases hn with
    | before hn =>
        cases hx : h.at? n with
        | none => exact .none
        | some x =>
            refine .some ((huniform.objects n x hx).mono fun hm => ?_)
            obtain ⟨rfl, hm⟩ := hm
            exact .before hm
    | made i hi hi' =>
        have hlt := (Linked.made i hi hi').lt_size (Nat.le_refl _)
        exact absurd (mem_instances.mp (List.mem_of_getElem? hi)).1 (Nat.not_le_of_lt hlt)

/-- A link between hosts with one more object each was there before, or is that of the two
objects. -/
theorem linked_pushed (hT : Twin base h h')
    (hn : Linked base (h.pushed x) (h'.pushed x') n n') :
    Linked base h h' n n' ∨ n = h.objects.size ∧ n' = h'.objects.size := by
  cases hn with
  | before hn => exact .inl (.before hn)
  | made i hi hi' =>
      rw [instances_pushed hT.base_le] at hi
      rw [instances_pushed hT.base_le'] at hi'
      by_cases hlt : i < (h.instances base).length
      · rw [List.getElem?_append_left hlt] at hi
        rw [List.getElem?_append_left (hT.length ▸ hlt)] at hi'
        exact .inl (.made i hi hi')
      · -- Behind the old instances there is at most the new object, in both hosts.
        have hle : (h.instances base).length ≤ i := Nat.le_of_not_lt hlt
        rw [List.getElem?_append_right hle] at hi
        rw [List.getElem?_append_right (hT.length ▸ hle)] at hi'
        have hlast {y : HostObject} {k m j : Nat}
            (hm : (if y.isInstance then [k] else [])[j]? = some m) : m = k := by
          split at hm
          · exact List.mem_singleton.mp (List.mem_of_getElem? hm)
          · cases hm
        exact .inr ⟨hlast hi, hlast hi'⟩

/-- Alike objects that are made by both leave twins. -/
theorem pushed (hT : Twin base h h') (hx : x.Alike base (Linked base h h') x') :
    Twin base (h.pushed x) (h'.pushed x') := by
  have hmono {m m' : Nat} (hm : Linked base h h' m m') :
      Linked base (h.pushed x) (h'.pushed x') m m' :=
    hm.mono (.pushed hT.base_le x) (.pushed hT.base_le' x')
  refine ⟨hT.modules, hT.classes, hT.willing, hT.willing', ?_, ?_, ?_, fun {n n'} hn => ?_⟩
  · exact Nat.le_trans hT.base_le (Array.size_push _ ▸ Nat.le_succ _)
  · exact Nat.le_trans hT.base_le' (Array.size_push _ ▸ Nat.le_succ _)
  · rw [instances_pushed hT.base_le, instances_pushed hT.base_le', List.length_append,
      List.length_append, hT.length, hx.isInstance_eq]
    split <;> rfl
  · rcases hT.linked_pushed hn with hold | ⟨rfl, rfl⟩
    · rw [at?_pushed_of_lt (hold.lt_size hT.base_le),
        at?_pushed_of_lt (hold.symm.lt_size hT.base_le')]
      exact rel_mono (fun hy => hy.mono hmono) (hT.objects hold)
    · rw [at?_pushed, at?_pushed, if_pos rfl, if_pos rfl]
      exact .some (hx.mono hmono)

/-- Linked instances whose attributes are changed alike leave twins. -/
theorem put {o o' : ForeignObject} {c : HostClass} {as as' bs bs' : Attributes}
    (hT : Twin base h h') (ho : Linked base h h' o.handle o'.handle)
    (hx : h.at? o.handle = some (.instanceOf c as))
    (hx' : h'.at? o'.handle = some (.instanceOf c as')) (huniform : c.Uniform base)
    (hbs : Entries.Alike (Value.Alike (Linked base h h')) bs bs') :
    Twin base (h.put o (.instanceOf c bs)) (h'.put o' (.instanceOf c bs')) := by
  have hlt := Host.lt_size hx
  have hlt' := Host.lt_size hx'
  have hlinked {m m' : Nat} :
      Linked base (h.put o (.instanceOf c bs)) (h'.put o' (.instanceOf c bs')) m m' ↔
        Linked base h h' m m' :=
    Linked.congr (instances_put base bs hx) (instances_put base bs' hx')
  refine ⟨hT.modules, hT.classes, hT.willing, hT.willing', ?_, ?_, ?_, fun {n n'} hn => ?_⟩
  · exact size_put.symm ▸ hT.base_le
  · exact size_put.symm ▸ hT.base_le'
  · rw [instances_put base bs hx, instances_put base bs' hx', hT.length]
  · have hold := hlinked.mp hn
    have hsame := (Linked.correspondence base h h').unique hold ho
    rw [at?_put hlt, at?_put hlt']
    by_cases hn : n = o.handle
    · rw [if_pos hn, if_pos (hsame.mp hn)]
      refine .some (.instanceOf huniform (hbs.imp fun _ _ hv => ⟨hv.1, hv.2.mono hlinked.mpr⟩))
    · rw [if_neg hn, if_neg (mt hsame.mpr hn)]
      exact rel_mono (fun hy => hy.mono hlinked.mpr) (hT.objects hold)

/-- Whatever both hosts do for the use of the bridge leaves twins. -/
theorem aside (hT : Twin base h h') (ha : Aside base h h₁) (ha' : Aside base h' h₁') :
    Twin base h₁ h₁' := by
  have hlinked {m m' : Nat} : Linked base h₁ h₁' m m' ↔ Linked base h h' m m' :=
    Linked.congr ha.instances ha'.instances
  refine ⟨?_, fun {module name c} hc => ?_, ?_, ?_, ?_, ?_, ?_, fun {n n'} hn => ?_⟩
  · rw [ha.modules, ha'.modules, hT.modules]
  · rw [class?, ha.modules] at hc
    exact hT.classes hc
  · rw [ha.refusing, hT.willing]
  · rw [ha'.refusing, hT.willing']
  · exact Nat.le_trans hT.base_le ha.size
  · exact Nat.le_trans hT.base_le' ha'.size
  · rw [ha.instances, ha'.instances, hT.length]
  · have hold := hlinked.mp hn
    rw [ha.kept (hold.lt_size hT.base_le), ha'.kept (hold.symm.lt_size hT.base_le')]
    exact rel_mono (fun hy => hy.mono hlinked.mpr) (hT.objects hold)

end Twin

end Host

end ObjectBridge
