import ObjectBridge.Declaration.Expansion
import ObjectBridge.Proofs.Accounting
import ObjectBridge.Proofs.Decoding
import ObjectBridge.Proofs.Outcomes
import ObjectBridge.Proofs.Tables

/-!
# What a declaration is expanded into

The metadata and the bodies of the proxy come from the same methods on different ways.  Here both
are compared with what the declaration says of each method: its markers, its arguments and its
name.  A body asks for its operation by the name that the dispatch table knows, with as many values
as the table expects.

Main results:

- Theorem `takeForward_eq_ok`: what the markers of a method say about forwarding.
- Theorem `Method.expand_eq_ok`: both outputs of one method.
- Theorem `Declaration.expand_eq_ok`: both outputs of all methods, in their order.
- Theorem `Bridge.callThrough_ends`: a routed call of a body is never turned away by the table.
- Theorem `Declaration.outputs_agree`: the three together.
-/

namespace ObjectBridge

variable {ε σ α β : Type}

/-! ## The names in markers -/

namespace Clause

/-- The text in which a setting ends. -/
def text? (c : Clause) : Option String :=
  match c.tokens.getLast? with
  | some (.quoted text _) => some text
  | _ => none

/-- The names of a path are read off the front of the tokens. -/
theorem pathNames_suffix {isLast : Bool} {ts rest : List Token} {names : List String}
    (h : pathNames isLast ts = .ok (names, rest)) : rest <:+ ts := by
  induction ts using pathNames.induct generalizing names with
  | case1 n ts ih =>
      rw [pathNames] at h
      obtain ⟨⟨more, behind⟩, hmore, h⟩ := exists_of_bind_eq_ok h
      cases h
      exact (ih hmore).trans ((List.suffix_cons _ _).trans (List.suffix_cons _ _))
  | case2 ts hname =>
      rw [pathNames] at h
      · cases h
      · exact hname
  | case3 ts hmark hname =>
      rw [pathNames] at h
      · cases h
        exact List.suffix_refl _
      · exact hmark
      · exact hname

/-- A path is read off the front of the tokens. -/
theorem pathOf_suffix {isLast : Bool} {ts rest : List Token} {path : String}
    (h : pathOf isLast ts = .ok (path, rest)) : rest <:+ ts := by
  rw [pathOf.eq_def] at h
  split at h
  · obtain ⟨⟨names, behind⟩, hnames, h⟩ := exists_of_bind_eq_ok h
    cases h
    exact (pathNames_suffix hnames).trans (List.suffix_cons _ _)
  all_goals cases h

/-- What is read behind the path of a setting is the end of it. -/
theorem path_suffix {c : Clause} {path : String} {value : List Token}
    (h : c.path = .ok (path, value)) : value <:+ c.tokens := by
  rw [Clause.path] at h
  split at h
  · rename_i ts htokens
    obtain ⟨⟨names, behind⟩, hnames, h⟩ := exists_of_bind_eq_ok h
    cases h
    rw [htokens]
    exact (pathOf_suffix hnames).trans (List.suffix_cons _ _)
  · exact pathOf_suffix h

end Clause

/-- Nothing may be left over behind a clause. -/
theorem Clause.finish_eq_ok_iff {rest : List Token} : Clause.finish rest = .ok () ↔ rest = [] := by
  unfold Clause.finish
  split <;> simp [*]

/-- A sign of equality comes first in a value. -/
theorem afterSign_eq_ok_iff {value ts : List Token} :
    afterSign value = .ok ts ↔ value = .mark "=" :: ts := by
  unfold afterSign
  split <;> simp_all

/-- A name given as a text is not blank, and is all there is behind the sign. -/
theorem nameInText_eq_ok_iff {isLast : Bool} {value : List Token} {name : String} :
    nameInText isLast value = .ok name ↔
      Text.isBlankText name = false ∧ ∃ written, value = [.mark "=", .quoted name written] := by
  constructor
  · intro h
    obtain ⟨ts, hsign, htext⟩ := exists_of_bind_eq_ok h
    obtain rfl := afterSign_eq_ok_iff.mp hsign
    split at htext
    · rename_i text written rest
      split at htext
      · cases htext
      · rename_i hblank
        obtain ⟨⟨⟩, hfinish, hname⟩ := exists_of_bind_eq_ok htext
        obtain rfl := Clause.finish_eq_ok_iff.mp hfinish
        obtain rfl := Except.ok.inj hname
        exact ⟨Bool.eq_false_iff.mpr hblank, written, rfl⟩
    · cases htext
  · rintro ⟨hname, written, rfl⟩
    simp [nameInText, afterSign, hname, Clause.finish, bind, Except.bind]

/-- A name that is given as a text is the text of its clause. -/
theorem Clause.text?_of_nameInText {c : Clause} {path name : String} {value : List Token}
    (hpath : c.path = .ok (path, value)) (hname : nameInText c.isLast value = .ok name) :
    c.text? = some name := by
  obtain ⟨-, written, rfl⟩ := nameInText_eq_ok_iff.mp hname
  obtain ⟨front, hfront⟩ := path_suffix hpath
  rw [Clause.text?, ← hfront, List.getLast?_append_of_ne_nil _ (List.cons_ne_nil _ _)]
  rfl

namespace Marker

/-- Whether a marker is the forwarding marker. -/
def isForward (m : Marker) : Bool :=
  m.path == Forward.markerPath

/-- The settings in the bracket of a marker. -/
def settings (m : Marker) : List Clause :=
  match m.behind with
  | t :: ts => if t.opens then clauses ((enclosed 0 ts).elim [] Prod.fst) else []
  | [] => []

/-- The name written in a marker; the last one counts. -/
def foreignName? (m : Marker) : Option String :=
  (m.settings.filterMap Clause.text?).getLast?

end Marker

namespace Forward

/-- The last name of a list of clauses stands. -/
theorem name_of_addAll {f g : Forward} {settings : List Clause} (h : f.addAll settings = .ok g) :
    g.name = (settings.filterMap Clause.text?).getLast?.or f.name := by
  induction settings generalizing f with
  | nil =>
      cases h
      rfl
  | cons c rest ih =>
      rw [addAll] at h
      obtain ⟨⟨path, value⟩, hpath, h⟩ := exists_of_bind_eq_ok h
      simp only at h
      split at h
      · obtain ⟨name, hname, h⟩ := exists_of_bind_eq_ok h
        rw [ih h, List.filterMap_cons_some (Clause.text?_of_nameInText hpath hname),
          List.getLast?_cons]
        cases (rest.filterMap Clause.text?).getLast? <;> rfl
      · cases h

/-- The name in a marker is the one that its method is forwarded to. -/
theorem name_of_ofMarker {m : Marker} {f : Forward} (h : ofMarker m = .ok f) :
    f.name = m.foreignName? := by
  rw [ofMarker] at h
  rw [Marker.foreignName?, Marker.settings]
  split at h
  · cases h
  · rename_i hbehind
    rw [hbehind]
    simp only
    split at h
    · rename_i hopens
      rw [if_pos hopens, name_of_addAll h, Option.or_none]
    · rename_i hopens
      cases h
      rw [if_neg hopens]
      rfl
  · rename_i hbehind
    cases h
    rw [hbehind]
    rfl

end Forward

/-- Behind a forwarding marker there is no other one. -/
theorem takeForward_some_eq_ok {f : Forward} {markers kept : List Marker} {found : Option Forward}
    (h : takeForward (some f) markers = .ok (found, kept)) :
    found = some f ∧ kept = markers.filter fun m => !m.isForward := by
  induction markers generalizing kept with
  | nil =>
      cases h
      exact ⟨rfl, rfl⟩
  | cons m rest ih =>
      rw [takeForward] at h
      split at h
      · cases h
      · rename_i hpath
        obtain ⟨⟨more, others⟩, hmore, h⟩ := exists_of_bind_eq_ok h
        cases h
        obtain ⟨hfound, hothers⟩ := ih hmore
        have hm : (!m.isForward) = true := by simp [Marker.isForward, hpath]
        refine ⟨hfound, ?_⟩
        rw [hothers]
        exact (List.filter_cons_of_pos (p := fun m : Marker => !m.isForward) hm).symm

/-- The forwarding marker says whether a method is forwarded and under which name, and the other
markers stay. -/
theorem takeForward_eq_ok {markers kept : List Marker} {found : Option Forward}
    (h : takeForward none markers = .ok (found, kept)) :
    found.isSome = markers.any Marker.isForward ∧
      found.bind Forward.name = (markers.find? Marker.isForward).bind Marker.foreignName? ∧
      kept = markers.filter fun m => !m.isForward := by
  induction markers generalizing kept with
  | nil =>
      cases h
      exact ⟨rfl, rfl, rfl⟩
  | cons m rest ih =>
      rw [takeForward] at h
      split at h
      · rename_i hpath
        have hm : m.isForward = true := by simp [Marker.isForward, hpath]
        rw [Option.isSome_none, if_neg Bool.false_ne_true] at h
        obtain ⟨f, hf, h⟩ := exists_of_bind_eq_ok h
        obtain ⟨rfl, hkept⟩ := takeForward_some_eq_ok h
        refine ⟨?_, ?_, ?_⟩
        · rw [List.any_cons, hm]
          rfl
        · rw [List.find?_cons_of_pos hm]
          exact Forward.name_of_ofMarker hf
        · rw [List.filter_cons_of_neg (by simp [hm]), hkept]
      · rename_i hpath
        have hm : m.isForward = false := by simp [Marker.isForward, hpath]
        obtain ⟨⟨more, others⟩, hmore, h⟩ := exists_of_bind_eq_ok h
        cases h
        obtain ⟨hsome, hname, hothers⟩ := ih hmore
        refine ⟨?_, ?_, ?_⟩
        · rw [List.any_cons, hm, hsome, Bool.false_or]
        · rw [List.find?_cons_of_neg (by simp [hm]), hname]
        · rw [List.filter_cons_of_pos (by simp [hm]), hothers]

/-! ## What a declaration says of its methods -/

namespace Method

/-- Whether a method has the forwarding marker. -/
def isForwarded (m : Method) : Bool :=
  m.markers.any Marker.isForward

/-- The name on the object's side that is written in the forwarding marker. -/
def foreignName? (m : Method) : Option String :=
  (m.markers.find? Marker.isForward).bind Marker.foreignName?

/-- The arguments besides the object itself. -/
def typedArguments (m : Method) : List Argument :=
  m.arguments.filter fun a => !a.isReceiver

/-- The operation that a method declares. -/
def declared (m : Method) : Operation :=
  ⟨plainName m.identifier, m.foreignName?, m.typedArguments.length, m.isForwarded⟩

/-- A body of the proxy that carries out a method: it has the name of the method, asks for its
operation and passes on its arguments in their order. -/
structure CarriedOutBy (m : Method) (f : Forwarding) : Prop where
  name : f.name = m.identifier
  operation : f.operation = plainName m.identifier
  okType : m.result.bind ResultType.okType? = some f.okType
  arguments : m.typedArguments.map Argument.name? = f.arguments.map some

/-- As many arguments are passed as are declared. -/
theorem CarriedOutBy.length_arguments {m : Method} {f : Forwarding} (h : m.CarriedOutBy f) :
    f.arguments.length = m.typedArguments.length := by
  have hlength := congrArg List.length h.arguments
  rw [List.length_map, List.length_map] at hlength
  exact hlength.symm

/-- The names of the arguments are those of their patterns. -/
theorem argumentNames_eq_ok {m : Method} {names : List String} (h : m.argumentNames = .ok names) :
    m.typedArguments.map Argument.name? = names.map some := by
  have hnames := forall₂_of_mapM_eq_ok h
  clear h
  rw [← typedArguments] at hnames
  generalize m.typedArguments = arguments at hnames ⊢
  induction hnames with
  | nil => rfl
  | @cons a name arguments names ha _ ih =>
      have hname : a.name? = some name := by
        cases hname : a.name? with
        | none =>
            rw [hname] at ha
            cases ha
        | some other =>
            rw [hname] at ha
            cases ha
            rfl
      rw [List.map_cons, List.map_cons, hname, ih]

/-- The type of success of a method is that of its declared result. -/
theorem okType_eq_ok {m : Method} {type : String} (h : m.okType = .ok type) :
    m.result.bind ResultType.okType? = some type := by
  rw [okType] at h
  split at h
  · cases h
  · rename_i result hresult
    rw [hresult]
    split at h
    · rename_i other hother
      cases h
      exact hother
    · cases h

/-- A method that is forwarded is carried out by its forwarding. -/
theorem forwarding_eq_ok {m : Method} {names : List String} {f : Forwarding}
    (hnames : m.argumentNames = .ok names) (h : m.forwarding names = .ok f) : m.CarriedOutBy f := by
  rw [forwarding] at h
  split at h
  · cases h
  split at h
  · cases h
  split at h
  · cases h
  split at h
  · cases h
  obtain ⟨type, htype, h⟩ := exists_of_bind_eq_ok h
  cases h
  exact ⟨rfl, rfl, okType_eq_ok htype, argumentNames_eq_ok hnames⟩

/-- A method that is expanded declares its operation, and has a body exactly if it is forwarded. -/
theorem expand_eq_ok {m : Method} {x : ExpandedItem} (h : m.expand = .ok x) :
    x.operation = some m.declared ∧
      if m.isForwarded then ∃ f, x.forwarding = some f ∧ m.CarriedOutBy f
      else x.forwarding = none := by
  obtain ⟨⟨found, kept⟩, hfound, h⟩ := exists_of_bind_eq_ok h
  obtain ⟨names, hnames, h⟩ := exists_of_bind_eq_ok h
  obtain ⟨hsome, hname, -⟩ := takeForward_eq_ok hfound
  have hlength := congrArg List.length (argumentNames_eq_ok hnames)
  rw [List.length_map, List.length_map] at hlength
  have hoperation : m.operation found names.length = m.declared := by
    rw [operation, declared, foreignName?, isForwarded, ← hsome, ← hname, hlength]
  rw [isForwarded, ← hsome]
  simp only at h
  split at h
  · rename_i hforward
    rw [if_pos hforward]
    obtain ⟨forwarding, hforwarding, h⟩ := exists_of_bind_eq_ok h
    cases h
    cases hbody : m.forwarding names with
    | error e =>
        rw [hbody] at hforwarding
        cases hforwarding
    | ok f =>
        rw [hbody] at hforwarding
        cases hforwarding
        exact ⟨congrArg some hoperation, f, rfl, forwarding_eq_ok hnames hbody⟩
  · rename_i hforward
    rw [if_neg hforward]
    split at h
    · cases h
      exact ⟨congrArg some hoperation, rfl⟩
    · cases h

end Method

/-! ## Declarations -/

/-- The method an item is, if it is one. -/
def Item.method? : Item → Option Method
  | .method m => some m
  | _ => none

/-- The methods of a declaration in order. -/
def Declaration.methods (d : Declaration) : List Method :=
  d.items.filterMap Item.method?

/-- An item that is no method gives neither an operation nor a body. -/
theorem Item.expand_of_no_method {item : Item} {x : ExpandedItem} (hitem : item.method? = none)
    (h : item.expand = .ok x) : x.operation = none ∧ x.forwarding = none := by
  cases item with
  | method m => cases hitem
  | constant name hasDefault markers =>
      cases hasDefault with
      | true =>
          cases h
          exact ⟨rfl, rfl⟩
      | false => cases h
  | associatedType name => cases h

/-- Items that are expanded declare their methods, and carry out those that are forwarded. -/
theorem Item.expand_all {items : List Item} {xs : List ExpandedItem}
    (h : List.Forall₂ (fun item x => item.expand = .ok x) items xs) :
    xs.filterMap ExpandedItem.operation = (items.filterMap Item.method?).map Method.declared ∧
      List.Forall₂ Method.CarriedOutBy
        ((items.filterMap Item.method?).filter Method.isForwarded)
        (xs.filterMap ExpandedItem.forwarding) := by
  induction h with
  | nil => exact ⟨rfl, .nil⟩
  | @cons item x items xs hitem _ ih =>
      obtain ⟨hoperations, hbodies⟩ := ih
      cases hmethod : item.method? with
      | none =>
          obtain ⟨hoperation, hforwarding⟩ := expand_of_no_method hmethod hitem
          rw [List.filterMap_cons_none hmethod, List.filterMap_cons_none hoperation,
            List.filterMap_cons_none hforwarding]
          exact ⟨hoperations, hbodies⟩
      | some m =>
          have hm : m.expand = .ok x := by
            cases item with
            | method other =>
                cases hmethod
                exact hitem
            | _ => cases hmethod
          obtain ⟨hoperation, hbody⟩ := Method.expand_eq_ok hm
          rw [List.filterMap_cons_some hmethod, List.filterMap_cons_some hoperation, List.map_cons,
            hoperations]
          refine ⟨rfl, ?_⟩
          split at hbody
          · rename_i hforwarded
            obtain ⟨f, hforwarding, hf⟩ := hbody
            rw [List.filter_cons_of_pos hforwarded, List.filterMap_cons_some hforwarding]
            exact .cons hf hbodies
          · rename_i hnative
            rw [List.filter_cons_of_neg hnative, List.filterMap_cons_none hbody]
            exact hbodies

/-- The metadata have the operations of all methods, and the proxy has a body for each of the
forwarded ones. -/
theorem Declaration.expand_eq_ok {d : Declaration} {settings : Settings} {x : Expansion}
    (h : d.expand settings = .ok x) :
    x.interface.operations = d.methods.map Method.declared ∧
      List.Forall₂ Method.CarriedOutBy (d.methods.filter Method.isForwarded) x.methods := by
  rw [expand] at h
  split at h
  · cases h
  · obtain ⟨items, hitems, h⟩ := exists_of_bind_eq_ok h
    cases h
    exact Item.expand_all (forall₂_of_mapM_eq_ok hitems)

/-! ## Bodies and tables -/

/-- A body asks for an operation that the table of its interface knows, with the same number of
arguments. -/
theorem Method.CarriedOutBy.lookup {m : Method} {f : Forwarding} (hf : m.CarriedOutBy f)
    (hm : m.isForwarded = true) {key : InterfaceKey} {i : Interface} {t : ProxyType}
    (hbuild : ProxyType.build key i = .ok t) (hdeclared : m.declared ∈ i.operations) :
    t.lookup f.operation = some ⟨m.declared.foreignName, f.arguments.length⟩ := by
  have hname : f.operation = m.declared.name := hf.operation
  have hforwarded : m.declared.forwarded = true := hm
  rw [hname, ProxyType.lookup_of_build hbuild, ProxyType.operation_of_build hbuild hdeclared,
    Option.bind_some, Operation.route?, if_pos hforwarded, hf.length_arguments]
  rfl

/-- Whether a call was turned away by the dispatch table. -/
def BridgeError.isRefusal : BridgeError → Bool
  | .invocation _ _ .notForwarded => true
  | .invocation _ _ (.operationArity _ _) => true
  | _ => false

/-- A call of a body of the proxy, whose arguments are bound to values. -/
def Bridge.callThrough (b : Bridge σ) (p : Proxy) (f : Forwarding) (type : NativeType)
    (bound : String → Value) : Action σ type.Carrier :=
  b.invokeAs p type f.operation (f.arguments.map bound)

namespace Bridge

variable (b : Bridge σ)

/-- Every two sessions. -/
private instance : IsPreorder (Session σ) fun _ _ => True where
  refl _ := trivial
  trans _ _ _ _ _ := trivial

/-- A call of a method is not turned away once it is on its way. -/
theorem callObject_ends (p : Proxy) (operation foreignName : String) (arguments : List Value)
    (s : Session σ) :
    Ends (fun _ _ => True) (fun e _ => e.isRefusal = false)
      (b.callObject p operation foreignName arguments) s := by
  have hargument (v : Value) (t : Session σ) :
      Ends (fun _ _ => True ∧ True) (fun e _ => e.isRefusal = false)
        (b.toForeign p.state.token v) t :=
    .toForeign (fun _ _ => ⟨trivial, trivial⟩) (fun _ _ _ _ => ⟨trivial, trivial⟩)
      fun _ _ _ _ => rfl
  have hresult (o : ForeignObject) (t : Session σ) :
      Ends (fun _ _ => True ∧ True) (fun e _ => e.isRefusal = false)
        (b.toNative p.state.token o) t :=
    .toNative (fun _ _ _ => ⟨trivial, trivial⟩) fun _ _ _ => rfl
  rw [callObject]
  refine Ends.bind (Q := fun _ _ => True) ?_ fun marshalled t _ => ?_
  · rw [marshal]
    refine (Ends.mapM (R := fun _ _ => True) (V := fun _ _ _ => True)
      (fun v _ t _ => hargument v t) fun _ _ _ _ _ _ => trivial).bind fun objects t _ => ?_
    exact .of_ok (by rfl) trivial
  · refine Ends.bind (Q := fun _ _ => True)
      (.ask (fun _ _ _ => trivial) fun _ _ _ => rfl) fun results u _ => ?_
    rw [unmarshal, toNativeEach]
    refine (Ends.mapM (R := fun _ _ => True) (V := fun _ _ _ => True)
      (fun o _ t _ => hresult o t) fun _ _ _ _ _ _ => trivial).bind fun values t _ => ?_
    exact .pure trivial

/-- A call of a body with a route is never turned away. -/
theorem callThrough_ends {p : Proxy} {f : Forwarding} {foreignName : String}
    (h : p.type.lookup f.operation = some ⟨foreignName, f.arguments.length⟩) (type : NativeType)
    (bound : String → Value) (s : Session σ) :
    Ends (fun _ _ => True) (fun e _ => e.isRefusal = false) (b.callThrough p f type bound) s := by
  have hroute : p.route f.operation (f.arguments.map bound).length =
      .ok ⟨foreignName, f.arguments.length⟩ := by
    simp only [Proxy.route, h, List.length_map, if_true]
  rw [callThrough, invokeAs, b.invoke_of_route hroute]
  refine Ends.bind (Q := fun _ _ => True) ?_ fun v t _ => ?_
  · exact .forward (b.callObject_ends ..) (fun _ _ _ _ h => h) fun _ _ _ _ h => h
  · refine .lift (fun _ _ => trivial) fun e he => ?_
    have hkind : e.kind = "conversion" := NativeType.kind_of_decode he
    cases e with
    | conversion typeName cause => rfl
    | _ => simp [BridgeError.kind] at hkind

end Bridge

/-! ## The outputs of a declaration -/

/-- The metadata of an expanded declaration list exactly its methods, each forwarded if it is
marked so; the proxy has a body for exactly the forwarded ones; and whenever the metadata have a
dispatch table, every body finds the route of its method there, so that its calls are never turned
away. -/
theorem Declaration.outputs_agree {d : Declaration} {settings : Settings} {x : Expansion}
    (h : d.expand settings = .ok x) :
    x.interface.operations = d.methods.map Method.declared ∧
      List.Forall₂ Method.CarriedOutBy (d.methods.filter Method.isForwarded) x.methods ∧
      ∀ key t, ProxyType.build key x.interface = .ok t → ∀ f ∈ x.methods,
        (∃ m ∈ d.methods, m.CarriedOutBy f ∧
          t.lookup f.operation = some ⟨m.declared.foreignName, f.arguments.length⟩) ∧
        ∀ {σ : Type} (b : Bridge σ) (p : Proxy) (type : NativeType) (bound : String → Value)
          (s : Session σ) (e : BridgeError), p.type = t →
          (b.callThrough p f type bound s).1 = .error e → e.isRefusal = false := by
  obtain ⟨hoperations, hbodies⟩ := expand_eq_ok h
  refine ⟨hoperations, hbodies, fun key t hbuild f hf => ?_⟩
  obtain ⟨m, hm, hmf⟩ : ∃ m ∈ d.methods.filter Method.isForwarded, m.CarriedOutBy f :=
    exists_of_forall₂ hbodies hf
  obtain ⟨hmethod, hforwarded⟩ := List.mem_filter.1 hm
  have hdeclared : m.declared ∈ x.interface.operations := by
    rw [hoperations]
    exact List.mem_map_of_mem hmethod
  have hlookup := hmf.lookup hforwarded hbuild hdeclared
  refine ⟨⟨m, hmethod, hmf, hlookup⟩, fun b p type bound s e hp he => ?_⟩
  rw [← hp] at hlookup
  exact (b.callThrough_ends hlookup type bound s).error he

/-- An interface with a name spelled like a keyword, a renamed method and a native one. -/
def Declaration.freight : Declaration :=
  ⟨"Freight", "pub", [], false,
    [.method ⟨"r#type", some "&self", [], some (.path ["Result"] ["String"]), [.plain "forward"],
        false, false, []⟩,
      .method ⟨"load", some "&self", [⟨"goods", "String"⟩, ⟨"mut r#in", "i64"⟩],
        some (.path ["bridge", "Result"] ["()"]),
        [.plain "inline", .withSettings "forward" [.assign "name" "loadAll"]], false, false, []⟩,
      .method ⟨"label", some "&self", [⟨"width", "u8"⟩], none, [], true, false, []⟩]⟩

/-- What it is expanded into. -/
def Expansion.freight : Expansion where
  emitted := ⟨"Freight", "pub", [], false,
    [.method ⟨"r#type", some "&self", [], some (.path ["Result"] ["String"]), [], false, false, []⟩,
      .method ⟨"load", some "&self", [⟨"goods", "String"⟩, ⟨"mut r#in", "i64"⟩],
        some (.path ["bridge", "Result"] ["()"]), [.plain "inline"], false, false, []⟩,
      .method ⟨"label", some "&self", [⟨"width", "u8"⟩], none, [], true, false, []⟩]⟩
  visibility := "pub"
  proxy := "FreightProxy"
  interface := ⟨"Freight", some ⟨"Fleet", "Freight", []⟩,
    [.forward "type" 0, (Operation.forward "load" 2).renamed "loadAll", .native "label" 1]⟩
  methods := [⟨"r#type", "type", "String", []⟩, ⟨"load", "load", "()", ["goods", "r#in"]⟩]

/-- Its dispatch table. -/
def ProxyType.freight : ProxyType :=
  ⟨.named "Freight", Expansion.freight.interface, [("load", ⟨"loadAll", 2⟩), ("type", ⟨"type", 0⟩)]⟩

/-- What the declaration of freight is expanded to. -/
theorem Declaration.expand_freight :
    freight.expand ⟨some "Fleet", some "Freight", [], none⟩ = .ok .freight := by
  decide +kernel

/-- The interface of freight has its dispatch table. -/
theorem ProxyType.build_freight :
    build (.named "Freight") Expansion.freight.interface = .ok freight := by
  decide +kernel

/-- What is declared, carried out and dispatched agrees for freight. -/
theorem Declaration.outputs_of_freight_agree :
    freight.expand ⟨some "Fleet", some "Freight", [], none⟩ = .ok .freight ∧
      ProxyType.build (.named "Freight") Expansion.freight.interface = .ok .freight ∧
      Expansion.freight.interface.operations = freight.methods.map Method.declared ∧
      ∃ m ∈ freight.methods, m.CarriedOutBy ⟨"load", "load", "()", ["goods", "r#in"]⟩ ∧
        ProxyType.freight.lookup "load" = some ⟨m.declared.foreignName, 2⟩ :=
  have h := outputs_agree expand_freight
  ⟨expand_freight, ProxyType.build_freight, h.1,
    (h.2.2 _ _ ProxyType.build_freight ⟨"load", "load", "()", ["goods", "r#in"]⟩ (by decide)).1⟩

end ObjectBridge
