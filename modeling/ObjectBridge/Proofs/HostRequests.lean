import ObjectBridge.Proofs.HostObjects

/-!
# What requests change on the scripted host

Whatever is asked of the host, it does one of a few things: it counts a request,
makes an object, changes the attributes of an instance, makes a state or extends a
search path.  A relation between hosts that these respect is respected by every
answer to a request.

Main results:

- Definitions `Host.Making`, `Host.Lasting`, `Host.Enduring`: relations that making an
  object, all steps with objects and all steps of the host respect.
- Theorems `Host.Lasting.perform`, `Host.Enduring.perform`: so do the answers to
  requests.
- Theorem `Host.interactions_lt`: every request is counted.
-/

namespace ObjectBridge

/-- Whether an object wraps another object as if it were data.  The host makes no such object. -/
def HostObject.wrapsObject : HostObject → Bool
  | data v => v.asObject.isSome
  | _ => false

namespace Host

/-! ## Relations that requests respect -/

/-- A relation between hosts that making an object does not leave. -/
structure Making (R : Host → Host → Prop) : Prop where
  preorder : IsPreorder Host R
  pushed : ∀ (h : Host) (x : HostObject), x.wrapsObject = false → R h (h.pushed x)

/-- A relation between hosts that no step with objects leaves. -/
structure Lasting (R : Host → Host → Prop) : Prop extends Making R where
  touched : ∀ h, R h h.touched
  put : ∀ {h : Host} {o : ForeignObject} {c : HostClass} {attributes : Attributes},
    h.at? o.handle = some (.instanceOf c attributes) →
      ∀ others, R h (h.put o (.instanceOf c others))

/-- A relation between hosts that none of the host's own steps leaves. -/
structure Enduring (R : Host → Host → Prop) : Prop extends Lasting R where
  stateMade : ∀ h, R h { h with searchPaths := h.searchPaths.push [] }
  pathsExtended : ∀ h s entries, R h (extendSearchPath s entries h).2

namespace Making

variable {R : Host → Host → Prop}

/-- Finding an object makes nothing. -/
theorem find (h : Making R) (o : ForeignObject) : Within R (Host.find o) := by
  have := h.preorder
  intro s
  rw [find_apply]
  exact refl_of R s

/-- Reading a value makes nothing. -/
theorem valueOf (h : Making R) (o : ForeignObject) : Within R (Host.valueOf o) := by
  have := h.preorder
  intro s
  rw [valueOf_apply]
  exact refl_of R s

/-- Storing a value makes one object at most. -/
theorem store (h : Making R) (v : Value) : Within R (Host.store v) := by
  have := h.preorder
  cases v with
  | object o => exact .pure o
  | float x =>
      rw [Host.store]
      split
      · exact (h.pushed · _ rfl)
      · exact .throw _
  | _ => exact (h.pushed · _ rfl)

/-- Asking for a builtin function makes one object at most. -/
theorem builtin (h : Making R) (name : String) : Within R (Host.builtin name) := by
  have := h.preorder
  rw [Host.builtin]
  split
  · exact (h.pushed · _ rfl)
  · exact .throw _

/-- Importing makes one object at most, the module. -/
theorem importModule (h : Making R) (positional : List ForeignObject) :
    Within R (Host.importModule positional) := by
  have := h.preorder
  have hhead : Within R (positional.head?.mapM Host.valueOf) := by
    intro s
    rw [head_apply]
    exact refl_of R s
  refine .bind hhead fun argument => ?_
  split
  · refine .bind .get fun host => ?_
    split
    · exact (h.pushed · _ rfl)
    · exact .throw _
  · exact .throw _

/-- A call of a class or of the importer stays within what making objects does not leave. -/
theorem call (h : Making R) (callable : ForeignObject) (arguments : Arguments) :
    Within R (Host.call callable arguments) := by
  have := h.preorder
  have hkeyword (entry : String × ForeignObject) :
      Within R (do return (entry.1, ← Host.valueOf entry.2)) :=
    .bind (h.valueOf entry.2) fun _ => .pure _
  refine .bind (h.find callable) fun x => ?_
  cases x with
  | importer => exact h.importModule arguments.positional
  | classObject c =>
      refine .bind (.mapM h.valueOf arguments.positional) fun positional => ?_
      refine .bind (.mapM hkeyword arguments.keywords) fun keywords => ?_
      exact .bind (.lift (c.instantiate positional keywords)) fun _ => (h.pushed · _ rfl)
  | _ => exact .throw _

/-- Getting an attribute makes one object at most. -/
theorem getAttribute (h : Making R) (o : ForeignObject) (name : String) :
    Within R (Host.getAttribute o name) := by
  have := h.preorder
  refine .bind (h.find o) fun x => ?_
  cases x with
  | module module =>
      refine .bind .get fun host => ?_
      dsimp only
      split
      · exact (h.pushed · _ rfl)
      · split
        · exact (h.pushed · _ rfl)
        · exact .throw _
  | instanceOf c attributes =>
      dsimp only
      split
      · exact .pure _
      · -- An attribute that is an object is returned as it is; this one is no object.
        rename_i v hobject _
        refine (h.pushed · _ ?_)
        cases v with
        | object inner => exact absurd rfl (hobject inner)
        | _ => rfl
      · exact .throw _
  | _ => exact .throw _

/-- Coercing an object makes nothing. -/
theorem coerce (h : Making R) (o : ForeignObject) : Within R (Host.coerce o) := by
  have := h.preorder
  refine .bind (h.find o) fun x => ?_
  cases x with
  | data v => exact .pure v
  | instanceOf c attributes => exact .pure _
  | _ => exact .throw _

/-- So do the answers to requests for which nothing but an object is made. -/
theorem grant (h : Making R) {r : Request} (hway : r.isOnTheWay = true)
    (hmethod : r.primitive ≠ .callMethod) : Within R (Host.grant r) := by
  cases r with
  | builtin s name => exact h.builtin name
  | call s callable arguments => exact h.call callable arguments
  | getAttribute s o name => exact h.getAttribute o name
  | callMethod s o name positional => exact absurd rfl hmethod
  | toForeign s v => exact h.store v
  | toNative s o => exact h.valueOf o
  | coerce s o => exact h.coerce o
  | _ => cases hway

end Making

namespace Lasting

variable {R : Host → Host → Prop}

/-- Storing a result is a step of its own. -/
theorem storeResult (h : Lasting R) (v : Value) : Within R (Host.storeResult v) := by
  have := h.preorder
  exact .bind h.touched fun _ => h.store v

/-- A call of a method changes an object and stores its results. -/
theorem callMethod (h : Lasting R) (o : ForeignObject) (name : String)
    (positional : List ForeignObject) : Within R (Host.callMethod o name positional) := by
  have := h.preorder
  intro s
  refine Leads.rel (Q := fun _ _ => True) ?_
  rw [Host.callMethod]
  refine .read (find_apply o s) fun x hx => ?_
  cases x with
  | instanceOf c attributes =>
      dsimp only
      split
      · exact .throw _
      · refine .read (mapM_apply_of_reads (fun o => valueOf_apply o s) _) fun arguments _ => ?_
        refine Leads.bind (Q := fun _ _ => True) (.of_ok (modify_apply _ s)
          (h.put (at?_of_look hx) _) trivial) fun _ t _ _ => ?_
        exact .of_rel ((Within.bind (.lift _) fun results => .mapM h.storeResult results) t)
  | _ => exact .throw _

/-- Requests that are not about states stay within the relation. -/
theorem grant (h : Lasting R) {r : Request} (hway : r.isOnTheWay = true) :
    Within R (Host.grant r) := by
  cases r with
  | callMethod s o name positional => exact h.callMethod o name positional
  | _ => exact h.toMaking.grant hway nofun

/-- No request with objects leaves a lasting relation. -/
theorem perform (h : Lasting R) {r : Request} (hway : r.isOnTheWay = true) :
    Within R (Host.perform r) := by
  have := h.preorder
  exact .bind h.touched fun _ => h.grant hway

end Lasting

namespace Enduring

variable {R : Host → Host → Prop}

/-- Making a state does not leave an enduring relation. -/
theorem createState (h : Enduring R) : Within R Host.createState := by
  have := h.preorder
  refine .bind .get fun host => ?_
  split
  · exact .bind (.throw _) fun _ => h.stateMade
  · exact h.stateMade

/-- No request leaves it once it has been counted. -/
theorem grant (h : Enduring R) (r : Request) : Within R (Host.grant r) := by
  have := h.preorder
  cases r with
  | createState => exact h.createState
  | extendSearchPath s entries => exact (h.pathsExtended · s entries)
  | searchPath s => exact .bind .get fun _ => .pure _
  | _ => exact h.toLasting.grant rfl

/-- No request leaves it at all. -/
theorem perform (h : Enduring R) (r : Request) : Within R (Host.perform r) := by
  have := h.preorder
  exact .bind h.touched fun _ => h.grant r

end Enduring

/-! ## Requests for states and importers -/

/-- A state is made unless the host refuses to make any. -/
theorem perform_createState (h : Host) :
    perform .createState h =
      if h.refusing then (.error ⟨"SystemError", "state creation refused"⟩, h.touched)
      else (.ok ⟨h.searchPaths.size⟩, { h.touched with searchPaths := h.searchPaths.push [] }) := by
  rw [perform_apply]
  change createState h.touched = _
  rw [createState, bind_apply, get_apply]
  by_cases hr : h.refusing = true
  · have hrefusing : h.touched.refusing = true := hr
    simp only [if_pos hr, if_pos hrefusing]
    rfl
  · have hrefusing : ¬h.touched.refusing = true := hr
    simp only [if_neg hr, if_neg hrefusing]
    rfl

/-- The importer is known by its name, and a new object each time. -/
theorem perform_builtin (token : StateToken) (h : Host) :
    perform (.builtin token Bridge.importerName) h =
      (.ok ⟨h.objects.size, HostObject.importer.typeName⟩, h.touched.pushed .importer) := by
  have hname : Bridge.importerName = importerName := rfl
  rw [perform_apply]
  change builtin Bridge.importerName h.touched = _
  rw [builtin, if_pos hname]
  rfl

/-! ## The number of requests -/

/-- Two hosts of which the second has counted at least as many requests. -/
def NoFewer (h h' : Host) : Prop :=
  h.interactions ≤ h'.interactions

/-- No step of a host makes it count less. -/
theorem enduring_noFewer : Enduring NoFewer where
  preorder :=
    { refl := fun h => Nat.le_refl h.interactions
      trans := fun _ _ _ => Nat.le_trans }
  touched h := Nat.le_succ h.interactions
  pushed h _ _ := Nat.le_refl h.interactions
  put _ _ := Nat.le_refl _
  stateMade h := Nat.le_refl h.interactions
  pathsExtended h _ _ := Nat.le_refl h.interactions

/-- Every request is counted, whatever the answer is. -/
theorem interactions_lt (r : Request) (h : Host) :
    h.interactions < (perform r h).2.interactions := by
  have hgrant : h.touched.interactions ≤ (grant r h.touched).2.interactions :=
    enduring_noFewer.grant r h.touched
  rw [perform_apply]
  exact Nat.lt_of_succ_le hgrant

end Host

end ObjectBridge
