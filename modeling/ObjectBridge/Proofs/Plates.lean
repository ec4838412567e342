import ObjectBridge.Proofs.HostCalls

/-!
# Plates of cars

A car has a plate from its constructor on, and another one after each call of
`setNumberPlate` that does not fail.  What is known of the plates after a run can be told
from the calls of the run and their success alone: nothing else changes a plate.  The
methods that read a plate answer what was told, through whatever proxy they are called.

Main results:

- Definition `Plates.told`: the plates after a run, by the calls of the run.
- Theorem `Host.HasCar.callMethod`: what the methods of a car do to its plate.
- Theorem `Garage.next`: every step keeps what is told of the plates true.
- Theorem `plates_of_run`: what is answered after a run, and which calls change a plate.
-/

namespace ObjectBridge

variable {changed : Option Nat}

/-! ## Methods of a class of scripts -/

/-- Every method of a class of scripts is one of the scripts. -/
theorem HostClass.script_of_lookup (className : String) (construct : Option ConstructorScript)
    {methods : List (String × MethodScript)} {name : String} {method : HostMethod}
    (h : Entries.lookup name (scripted className construct methods).methods = some method) :
    ∃ script, (name, script) ∈ methods ∧ method = script.run name := by
  rcases Entries.lookup_foldl_insert (f := id) h with ⟨entry, hentry, heq⟩ | hnil
  · obtain ⟨m, hm, rfl⟩ := List.mem_map.mp hentry
    cases heq
    exact ⟨m.2, hm, rfl⟩
  · cases hnil

/-! ## Methods of a car -/

namespace Car

/-- The new plate that a method is called with. -/
def handed? (name : String) : List Value → Option Value
  | [plate] => if name = "setNumberPlate" then some plate else none
  | _ => none

/-- What a method reads from a car with a plate, as the results of a call. -/
def readings (plate : Value) (name : String) : List Value :=
  if name = "getNumberPlate" then [plate]
  else if name = "getSpecs" then [.int 4, plate]
  else []

/-- What is handed to a car is handed on through every reading of the arguments. -/
theorem handed?_map (name : String) (f : Value → Value) (arguments : List Value) :
    handed? name (arguments.map f) = (handed? name arguments).map f := by
  unfold handed?
  match arguments with
  | [] => rfl
  | [plate] =>
      dsimp only [List.map]
      split <;> rfl
  | _ :: _ :: _ => rfl

/-- A plate is handed over by one method only. -/
theorem handed?_of_ne {name : String} (h : name ≠ "setNumberPlate") (arguments : List Value) :
    handed? name arguments = none := by
  unfold handed?
  split
  · exact if_neg h
  · rfl

/-- A plate is handed over as the one argument of that method. -/
theorem handed?_eq_some_iff {name : String} {arguments : List Value} {plate : Value} :
    handed? name arguments = some plate ↔ name = "setNumberPlate" ∧ arguments = [plate] := by
  unfold handed?
  split
  · simp
  · rename_i hother
    exact ⟨nofun, fun h => absurd h.2 (hother plate)⟩

/-- The attributes of a car with a plate. -/
structure Attributed (as : Attributes) (plate : Value) : Prop where
  plate : Entries.lookup "numberPlate" as = some plate
  wheels : Entries.lookup "wheels" as = some (.int 4)

/-- A method changes the plate of a car if it is handed another one, and then it does not fail.  It
returns what it reads. -/
theorem method_spec {name : String} {method : HostMethod} {as : Attributes} {plate : Value}
    (hmethod : Entries.lookup name hostClass.methods = some method) (has : Attributed as plate)
    (vs : List Value) :
    Attributed (method as vs).2 ((handed? name vs).getD plate) ∧
      match (method as vs).1 with
      | .ok results => results = readings plate name
      | .error _ => handed? name vs = none ∧ readings plate name = [] := by
  obtain ⟨script, hscript, rfl⟩ := HostClass.script_of_lookup "Car" none hmethod
  simp only [List.mem_cons, Prod.mk.injEq, List.not_mem_nil, or_false] at hscript
  obtain ⟨rfl, rfl⟩ | ⟨rfl, rfl⟩ | ⟨rfl, rfl⟩ | ⟨rfl, rfl⟩ := hscript
  · rw [handed?_of_ne (by decide)]
    refine ⟨has, ?_⟩
    simp [MethodScript.run, MethodScript.valueOf, has.plate, readings]
  · rcases vs with _ | ⟨v, _ | ⟨_, _⟩⟩
    · exact ⟨has, rfl, rfl⟩
    · refine ⟨⟨?_, ?_⟩, rfl⟩
      · simp [MethodScript.run, Entries.lookup_insert, handed?]
      · simp [MethodScript.run, Entries.lookup_insert, has.wheels]
    · exact ⟨has, rfl, rfl⟩
  · rw [handed?_of_ne (by decide)]
    refine ⟨has, ?_⟩
    simp [MethodScript.run, MethodScript.valueOf, has.plate, has.wheels, readings]
  · rw [handed?_of_ne (by decide)]
    exact ⟨has, rfl, rfl⟩

/-- The methods that read a plate are there. -/
theorem lookup_of_readings {name : String} {plate : Value} (h : readings plate name ≠ []) :
    (Entries.lookup name hostClass.methods).isSome = true := by
  unfold readings at h
  split at h
  · rename_i hname
    subst hname
    rfl
  · split at h
    · rename_i hname
      subst hname
      rfl
    · exact absurd rfl h

/-- What is read from a car can be kept if its plate can. -/
theorem keeps_readings {h : Host} {plate : Value} (hplate : h.Keeps plate) (name : String) :
    ∀ v ∈ readings plate name, h.Keeps v := by
  intro v hv
  unfold readings at hv
  split at hv
  · exact List.mem_singleton.mp hv ▸ hplate
  · split at hv
    · rcases List.mem_cons.mp hv with rfl | hv
      · trivial
      · exact List.mem_singleton.mp hv ▸ hplate
    · cases hv

end Car

/-! ## Cars on a host -/

namespace Host

/-- There is a car behind a handle, and its plate can be kept. -/
def HasCar (h : Host) (n : Nat) (plate : Value) : Prop :=
  ∃ as, h.at? n = some (.instanceOf Car.hostClass as) ∧ Car.Attributed as plate ∧ h.Keeps plate

namespace HasCar

variable {h h₁ : Host} {n : Nat} {o : ForeignObject} {plate : Value}

/-- A car keeps its plate if only another object may change. -/
theorem later (hc : h.HasCar n plate) (hl : h.Later changed h₁) (hn : changed ≠ some n) :
    h₁.HasCar n plate := by
  obtain ⟨as, hx, has, hkeeps⟩ := hc
  exact ⟨as, hl.kept hx (.inl hn), has, hl.keeps hkeeps⟩

/-- A car keeps its plate if no object may change. -/
theorem stays (hc : h.HasCar n plate) (hl : h.Later none h₁) : h₁.HasCar n plate :=
  hc.later hl (Option.some_ne_none n).symm

/-- A car that is written with the plate it was handed, or else with its own, has that plate. -/
theorem put {as bs : Attributes} {name : String} {os : List ForeignObject} {vs : List Value}
    (hx : h.at? o.handle = some (.instanceOf Car.hostClass as)) (hkeeps : h.Keeps plate)
    (hh : h.Orderly) (hvs : os.mapM h.peek = .ok vs)
    (hbs : Car.Attributed bs ((Car.handed? name vs).getD plate)) :
    (h.put o (.instanceOf Car.hostClass bs)).HasCar o.handle
      ((Car.handed? name vs).getD plate) := by
  have hput : h.Later (some o.handle) (h.put o (.instanceOf Car.hostClass bs)) := .put _ hx
  refine ⟨_, by rw [at?_put (lt_size hx), if_pos rfl], hbs, hput.keeps ?_⟩
  cases hhanded : Car.handed? name vs with
  | none => exact hkeeps
  | some v =>
      obtain ⟨-, rfl⟩ := Car.handed?_eq_some_iff.mp hhanded
      obtain ⟨a, -, ha⟩ := exists_of_forall₂ (forall₂_of_mapM_eq_ok hvs) (.head _)
      exact keeps_of_peek hh ha

/-- A method of a car leaves it with the plate it was handed, or else with the old one, and its
results are seen as what it reads.  With no arguments, a method that reads does not fail. -/
theorem callMethod (hc : h.HasCar o.handle plate) (hh : h.Orderly) (name : String)
    (os : List ForeignObject) :
    Ends
      (fun rs h₁ => ∃ vs, os.mapM h.peek = .ok vs ∧
        h₁.HasCar o.handle ((Car.handed? name vs).getD plate) ∧
        List.Forall₂ (fun v r => h₁.peek r = .ok v) (Car.readings plate name) rs)
      (fun _ h₁ => h₁.HasCar o.handle plate ∧ (os = [] → Car.readings plate name = []))
      (Host.callMethod o name os) h := by
  obtain ⟨as, hx, has, hkeeps⟩ := hc
  have hsame : h.HasCar o.handle plate := ⟨as, hx, has, hkeeps⟩
  rw [Ends, callMethod_apply hx]
  cases hmethod : Entries.lookup name Car.hostClass.methods with
  | none =>
      refine ⟨hsame, fun _ => ?_⟩
      by_contra hreads
      have hthere := Car.lookup_of_readings hreads
      rw [hmethod] at hthere
      cases hthere
  | some method =>
      cases hvs : os.mapM h.peek with
      | error err =>
          refine ⟨hsame, ?_⟩
          rintro rfl
          cases hvs
      | ok vs =>
          obtain ⟨hbs, hresults⟩ := Car.method_spec hmethod has vs
          have hput : h.Later (some o.handle)
              (h.put o (.instanceOf Car.hostClass (method as vs).2)) := .put _ hx
          have hnew : (h.put o (.instanceOf Car.hostClass (method as vs).2)).HasCar o.handle
              ((Car.handed? name vs).getD plate) := .put hx hkeeps hh hvs hbs
          dsimp only
          generalize h.put o _ = h' at hnew hput
          cases houtcome : (method as vs).1 with
          | error err =>
              rw [houtcome] at hresults
              rw [hresults.1] at hnew
              exact ⟨hnew, fun _ => hresults.2⟩
          | ok results =>
              rw [houtcome] at hresults
              subst hresults
              have hstored := storeResults (Car.keeps_readings (hput.keeps hkeeps) name)
              exact hstored.mono (fun rs h₁ hrs => ⟨vs, rfl, hnew.stays hrs.1, hrs.2⟩)
                fun _ _ => False.elim

end HasCar

end Host

/-! ## Calls on a car -/

namespace Bridge

variable (c : Configuration) (e : Environment) {s : Session Host} {p : Proxy} {plate : Value}

/-- A call on a car returns what it reads and leaves the car with the plate it was handed, or else
with the old one.  With no arguments, one that reads does not fail. -/
theorem callObject_car (hc : s.world.HasCar p.object.handle plate) (hh : s.world.Orderly)
    (operation name : String) (arguments : List Value) :
    Ends
      (fun v t => v = collapse (Car.readings plate name) ∧ t.world.HasCar p.object.handle
        (((Car.handed? name arguments).map t.world.counted).getD plate))
      (fun _ t => t.world.HasCar p.object.handle plate ∧
        (arguments = [] → Car.readings plate name = []))
      ((onHost c e).callObject p operation name arguments) s := by
  have hmarshal : Ends
      (fun a t => s.Later none t ∧ List.Forall₂ t.world.Given arguments a.positional)
      (fun _ t => t.world.HasCar p.object.handle plate ∧
        (arguments = [] → Car.readings plate name = []))
      ((onHost c e).marshal p.state.token arguments []) s := by
    cases arguments with
    | nil => exact .of_ok rfl ⟨refl_of _ s, .nil⟩
    | cons v vs =>
        refine Ends.mono (marshal_later c e p.state.token (v :: vs) [])
          (fun a t ht => ⟨ht.1, ht.2.1⟩) fun _ t hl => ⟨hc.stays hl.world, ?_⟩
        exact fun hnil => absurd hnil (List.cons_ne_nil v vs)
  rw [callObject]
  refine hmarshal.bind fun marshalled t hmarshalled => ?_
  obtain ⟨hl, hgiven⟩ := hmarshalled
  have hcar : t.world.HasCar p.object.handle plate := hc.stays hl.world
  have hcall := (Host.HasCar.callMethod (h := t.world.touched) hcar (hl.world.orderly hh) name
    marshalled.positional).with_rel
    (Host.Later.callMethod p.object name marshalled.positional).rel
  refine Ends.bind (Ends.mono (Ends.askHost
    (.callMethod p.state.token p.object name marshalled.positional) hcall) (fun _ _ h => h.2)
    fun _ u hu => ⟨hu.2.1, fun hnil => hu.2.2 ?_⟩)
    fun rs u hcalled => ?_
  · rw [hnil] at hgiven
    exact List.forall₂_nil_left_iff.mp hgiven
  · obtain ⟨hl', vs, hvs, hnew, hresults⟩ := hcalled
    rw [unmarshal]
    refine Ends.bind (Q := fun ws v => u.Later none v ∧ ws = Car.readings plate name)
      ((toNativeEach_seen c e p.state.token hresults).mono (fun _ _ h => h) fun _ _ => False.elim)
      fun ws v hread => ?_
    obtain ⟨hl'', hws⟩ := hread
    have hlast : t.world.Later (some p.object.handle) v.world :=
      trans_of _ (.touched _) (trans_of _ hl' hl''.world.any)
    obtain ⟨rfl, -⟩ := Host.peeks_of_given hgiven hvs hlast
    rw [Car.handed?_map] at hnew
    exact .pure ⟨by rw [hws], hnew.stays hl''.world⟩

/-- A call that is forwarded to a car answers with its readings and leaves it with the plate handed
over. -/
theorem forward_car (hc : s.world.HasCar p.object.handle plate) (hh : s.world.Orderly)
    (operation name : String) (arguments : List Value) :
    Ends
      (fun v t => v = collapse (Car.readings plate name) ∧ t.world.HasCar p.object.handle
        (((Car.handed? name arguments).map t.world.counted).getD plate))
      (fun _ t => t.world.HasCar p.object.handle plate ∧
        (arguments = [] → Car.readings plate name = []))
      ((onHost c e).forward p operation name arguments) s :=
  .forward (callObject_car c e (s := (s.entered
    (.opened ⟨p.interfaceName, operation, name, p.state.id⟩)).entered .entered) hc hh operation name
    arguments) (fun _ _ _ _ h => h) fun _ _ _ _ h => h

end Bridge

/-! ## Answers -/

/-- A method without arguments answers with a value, whether it is called by its name or as an
operation that is routed to it; a typed result is the value decoded. -/
structure Bridge.Answers {σ : Type} (b : Bridge σ) (s : Session σ) (p : Proxy) (name : String)
    (answer : Value) : Prop where
  method : (b.invokeMethod p name [] s).1 = .ok answer
  operation : ∀ {operation route}, p.route operation 0 = .ok route → route.foreignName = name →
    (b.invoke p operation [] s).1 = .ok answer
  typed : ∀ (type : NativeType) {operation route}, p.route operation 0 = .ok route →
    route.foreignName = name → (b.invokeAs p type operation [] s).1 = type.decode answer

/-- What a forwarded call answers is the answer of every way to call. -/
theorem Bridge.Answers.of_forward {σ : Type} {b : Bridge σ} {s : Session σ} {p : Proxy}
    {name : String} {answer : Value}
    (h : ∀ operation, (b.forward p operation name [] s).1 = .ok answer) :
    b.Answers s p name answer := by
  have hinvoke {operation : String} {route : Route} (hroute : p.route operation 0 = .ok route)
      (hname : route.foreignName = name) : (b.invoke p operation [] s).1 = .ok answer := by
    rw [b.invoke_of_route hroute, hname]
    exact h operation
  refine ⟨h name, hinvoke, fun type operation route hroute hname => ?_⟩
  have hok := hinvoke hroute hname
  rw [invokeAs, bind_apply]
  generalize b.invoke p operation [] s = ended at hok ⊢
  obtain ⟨r, t⟩ := ended
  cases hok
  exact congrArg Prod.fst (lift_apply _ t)

/-- A call that is passed on fails there if the method fails, or what comes before or after it. -/
theorem Bridge.failedToCall_of_dispatched {σ : Type} (b : Bridge σ) (s : Session σ) {call : Call}
    {d : Dispatch} (hd : call.dispatch? = some d) :
    b.failedToCall (b.step s call) =
      !(b.forward d.proxy d.operation d.foreignName d.arguments s).1.isOk := by
  have hdispatch : (b.step s call).call.dispatch? = some d := hd
  rw [failedToCall, hdispatch, forward_outcome]
  rfl

/-- A call that is passed on and does not fail there succeeds, if its result is not to be
decoded. -/
theorem Bridge.succeeds_or_typed {σ : Type} (b : Bridge σ) {s : Session σ} {call : Call}
    {d : Dispatch} (hd : call.dispatch? = some d) (hok : b.failedToCall (b.step s call) = false) :
    (b.step s call).outcome.isOk = true ∨
      ∃ p type operation arguments, call = .invokeAs p type operation arguments := by
  have hforward : (b.forward d.proxy d.operation d.foreignName d.arguments s).1.isOk = true := by
    rw [b.failedToCall_of_dispatched s hd] at hok
    exact Bool.not_eq_eq_eq_not.mp hok
  cases call with
  | invokeAs p type operation arguments => exact .inr ⟨p, type, operation, arguments, rfl⟩
  | invoke p operation arguments =>
      rw [Command.dispatch?] at hd
      cases hroute : p.route operation arguments.length with
      | error err =>
          rw [hroute] at hd
          cases hd
      | ok route =>
          rw [hroute] at hd
          cases hd
          refine .inl ?_
          rw [← b.invoke_of_route hroute] at hforward
          exact hforward
  | invokeMethod p name arguments =>
      cases hd
      exact .inl hforward
  | _ => cases hd

/-! ## What is told of plates -/

/-- What is known of plates: the plate of a car by the handle of the car. -/
abbrev Plates := Nat → Option Value

/-- The plate that the constructor of a car is given; none without arguments. -/
def Car.ordered? : List Value → List (String × Value) → Option Value
  | [], [] => some .none
  | [plate], [] => some plate
  | [], [("number_plate", plate)] => some plate
  | _, _ => none

/-- Whether the interface of a proxy is bound to the class of cars. -/
def Proxy.isCar (p : Proxy) : Bool :=
  p.type.interface.binding.any fun binding =>
    binding.moduleName == "Car" && binding.className == "Car"

/-- The plate that a car behind a handle is made with in a step, if it is made for a proxy. -/
def Step.newCar? (st : Step Host) (n : Nat) : Option Value :=
  match st.call.supplied?, st.proxy? with
  | some (arguments, keywords), some p =>
    if p.isCar = true ∧ p.object.handle = n then
      (Car.ordered? arguments keywords).map st.after.world.counted
    else none
  | _, _ => none

/-- The plate that is handed to the object behind a handle in a step, if the call of the method does
not fail. -/
def Bridge.newPlate? (b : Bridge Host) (st : Step Host) (n : Nat) : Option Value :=
  match st.call.dispatch? with
  | some d =>
    if d.proxy.object.handle = n ∧ b.failedToCall st = false then
      (Car.handed? d.foreignName d.arguments).map st.after.world.counted
    else none
  | none => none

/-- A step makes a car when it hands out a proxy for one and was given a plate. -/
theorem Step.newCar?_eq_some_iff {st : Step Host} {n : Nat} {new : Value} :
    st.newCar? n = some new ↔
      ∃ arguments keywords p plate, st.call.supplied? = some (arguments, keywords) ∧
        st.proxy? = some p ∧ p.isCar = true ∧ p.object.handle = n ∧
        Car.ordered? arguments keywords = some plate ∧ st.after.world.counted plate = new := by
  rw [newCar?]
  cases st.call.supplied? with
  | none => simp
  | some supplied =>
      cases st.proxy? with
      | none => simp
      | some p =>
          obtain ⟨arguments, keywords⟩ := supplied
          simp [and_assoc]

/-- A step gives a car a new plate when it hands one over and the call is not refused. -/
theorem Bridge.newPlate?_eq_some_iff {b : Bridge Host} {st : Step Host} {n : Nat} {new : Value} :
    b.newPlate? st n = some new ↔
      ∃ d plate, st.call.dispatch? = some d ∧ d.proxy.object.handle = n ∧
        Car.handed? d.foreignName d.arguments = some plate ∧ b.failedToCall st = false ∧
        st.after.world.counted plate = new := by
  rw [newPlate?]
  cases st.call.dispatch? with
  | none => simp
  | some d => cases b.failedToCall st <;> simp

namespace Plates

/-- The plates after a step: a new car has the plate it was made with, and a car has the last one it
was handed. -/
def next (b : Bridge Host) (plates : Plates) (st : Step Host) : Plates := fun n =>
  (st.newCar? n).or ((plates n).map fun old => (b.newPlate? st n).getD old)

/-- The plates after all steps of a run. -/
def told (b : Bridge Host) (plates : Plates) (steps : List (Step Host)) : Plates :=
  steps.foldl (next b) plates

end Plates

/-- Cars can be made, and what is told of plates is true. -/
structure Garage (s : Session Host) (plates : Plates) : Prop where
  imported : s.Imported
  coherent : s.ledger.Coherent
  orderly : s.world.Orderly
  cars : s.world.class? "Car" "Car" = some Car.hostClass
  plates : ∀ n plate, plates n = some plate → s.world.HasCar n plate

/-! ## Steps -/

/-- A car that is made has the plate that its constructor was given. -/
theorem Car.attributed_of_instantiate {f : Value → Value} (hf : f .none = .none)
    {arguments : List Value} {keywords : List (String × Value)} {as : Attributes}
    (h : hostClass.instantiate (arguments.map f) (keywords.map fun k => (k.1, f k.2)) = .ok as) :
    ∃ plate, ordered? arguments keywords = some plate ∧ Attributed as (f plate) ∧
      (plate = .none ∨ plate ∈ arguments ∨ ∃ k ∈ keywords, k.2 = plate) := by
  have hconstruct : construct (arguments.map f) (keywords.map fun k => (k.1, f k.2)) = .ok as := h
  rw [construct.eq_def] at hconstruct
  split at hconstruct
  · rename_i harguments hkeywords
    cases List.map_eq_nil_iff.mp harguments
    cases List.map_eq_nil_iff.mp hkeywords
    cases hconstruct
    exact ⟨.none, rfl, ⟨congrArg some hf.symm, rfl⟩, .inl rfl⟩
  · rename_i harguments hkeywords
    obtain ⟨plate, rfl, rfl⟩ := List.map_eq_singleton_iff.mp harguments
    cases List.map_eq_nil_iff.mp hkeywords
    cases hconstruct
    exact ⟨plate, rfl, ⟨rfl, rfl⟩, .inr (.inl (.head _))⟩
  · rename_i harguments hkeywords
    cases List.map_eq_nil_iff.mp harguments
    obtain ⟨⟨key, plate⟩, rfl, hkey⟩ := List.map_eq_singleton_iff.mp hkeywords
    cases hkey
    cases hconstruct
    exact ⟨plate, rfl, ⟨rfl, rfl⟩, .inr (.inr ⟨_, .head _, rfl⟩)⟩
  · cases hconstruct

namespace Garage

variable {c : Configuration} {e : Environment} {s : Session Host} {plates : Plates}

/-- The garage holds the cars that the host has at the start. -/
theorem start {h : Host} (b : Bridge Host) (horderly : h.Orderly)
    (hcars : h.class? "Car" "Car" = some Car.hostClass)
    (hplates : ∀ n plate, plates n = some plate → h.HasCar n plate) :
    Garage (b.start h) plates where
  imported _ _ hfound := by cases hfound
  coherent := .new
  orderly := horderly
  cars := hcars
  plates := hplates

/-- A car that is made for a proxy is new and has the plate that its constructor was given. -/
theorem newCar (hg : Garage s plates) {call : Call} {p : Proxy} {arguments : List Value}
    {keywords : List (String × Value)} (hsupplied : call.supplied? = some (arguments, keywords))
    (hp : ((Bridge.onHost c e).step s call).proxy? = some p) (hcar : p.isCar = true) :
    let w := ((Bridge.onHost c e).step s call).after.world
    s.world.at? p.object.handle = none ∧ ∃ plate, Car.ordered? arguments keywords = some plate ∧
      w.HasCar p.object.handle (w.counted plate) := by
  intro w
  obtain ⟨binding, hbinding, hmade⟩ := Bridge.step_made c e hg.imported hg.coherent hsupplied hp
  rw [Proxy.isCar, hbinding] at hcar
  simp only [Option.any_some, Bool.and_eq_true, beq_iff_eq] at hcar
  obtain ⟨hmodule, hclass⟩ := hcar
  have hsegments : binding.moduleSegments = [binding.moduleName] := by
    rw [Binding.moduleSegments, hmodule]
    decide
  have hfound : s.world.class? binding.moduleName binding.className = some Car.hostClass := by
    rw [hmodule, hclass]
    exact hg.cars
  obtain ⟨as, has, hobject, hkeeps⟩ := hmade.object _ hsegments hfound
  obtain ⟨hpositional, hnamed⟩ := hkeeps hg.orderly
  obtain ⟨plate, hordered, hattributed, hfrom⟩ := Car.attributed_of_instantiate rfl has
  refine ⟨?_, plate, hordered, as, hobject, hattributed, ?_⟩
  · cases hx : s.world.at? p.object.handle with
    | none => rfl
    | some x => exact absurd (Host.lt_size hx) (Nat.not_lt_of_le hmade.size)
  · obtain rfl | hmem | ⟨k, hk, rfl⟩ := hfrom
    · trivial
    · exact hpositional plate hmem
    · exact hnamed k hk

/-- A car that is there keeps its plate, unless it is handed another one in the step. -/
theorem oldCar (hg : Garage s plates) {n : Nat} {plate : Value} (hn : plates n = some plate)
    (call : Call) :
    let st := (Bridge.onHost c e).step s call
    st.after.world.HasCar n (((Bridge.onHost c e).newPlate? st n).getD plate) := by
  intro st
  have hcar := hg.plates n plate hn
  by_cases hreceiver : call.receiver? = some n
  · obtain ⟨d, hd, rfl⟩ := Option.map_eq_some_iff.mp hreceiver
    have hends := Bridge.forward_car c e hcar hg.orderly d.operation d.foreignName d.arguments
    have hafter : st.after = _ := Bridge.step_of_dispatched _ s hd
    have hfailed : (Bridge.onHost c e).failedToCall st = _ :=
      Bridge.failedToCall_of_dispatched _ s hd
    have hdispatch : st.call.dispatch? = some d := hd
    rw [Bridge.newPlate?, hdispatch]
    cases houtcome : ((Bridge.onHost c e).forward d.proxy d.operation d.foreignName d.arguments
        s).1 with
    | ok v =>
        have hnew := (hends.ok houtcome).2
        rw [houtcome] at hfailed
        rw [← hafter] at hnew
        dsimp only
        rw [if_pos ⟨rfl, hfailed⟩]
        exact hnew
    | error err =>
        have hold := (hends.error houtcome).1
        rw [houtcome] at hfailed
        rw [← hafter] at hold
        have hkept : ¬(Bridge.onHost c e).failedToCall st = false := by
          rw [hfailed]
          nofun
        dsimp only
        rw [if_neg fun h => hkept h.2]
        exact hold
  · have hnone : (Bridge.onHost c e).newPlate? st n = none := by
      refine Option.eq_none_iff_forall_ne_some.mpr fun new hnew => ?_
      obtain ⟨d, plate', hd, hself, -⟩ := Bridge.newPlate?_eq_some_iff.mp hnew
      exact hreceiver (Option.map_eq_some_iff.mpr ⟨d, hd, hself⟩)
    rw [hnone]
    exact hcar.later (Bridge.step_later c e hg.imported call).world hreceiver

/-- Every step keeps what is told of the plates true. -/
theorem next (hg : Garage s plates) (call : Call) :
    let st := (Bridge.onHost c e).step s call
    Garage st.after (plates.next (Bridge.onHost c e) st) := by
  intro st
  have hlater := Bridge.step_later c e hg.imported call
  refine ⟨hlater.imported hg.imported, Bridge.step_coherent call hg.coherent,
    hlater.world.orderly hg.orderly, (hlater.world.class?_eq _ _).trans hg.cars,
    fun n plate hn => ?_⟩
  rcases Option.or_eq_some_iff.mp hn with hmade | ⟨-, hold⟩
  · obtain ⟨arguments, keywords, p, plate', hsupplied, hp, hcar, rfl, hordered, rfl⟩ :=
      Step.newCar?_eq_some_iff.mp hmade
    obtain ⟨-, plate'', hordered', hnew⟩ := hg.newCar hsupplied hp hcar
    cases hordered.symm.trans hordered'
    exact hnew
  · obtain ⟨old, hknown, rfl⟩ := Option.map_eq_some_iff.mp hold
    exact hg.oldCar hknown call

/-- What is told of a run is true when it ends. -/
theorem finish (hg : Garage s plates) (calls : List Call) :
    let b := Bridge.onHost c e
    Garage (b.finish s calls) (plates.told b (b.run s calls)) := by
  intro b
  induction calls generalizing s plates with
  | nil => exact hg
  | cons call calls ih => exact ih (hg.next call)

/-- A method that reads a plate answers what is told of it. -/
theorem answers (hg : Garage s plates) {p : Proxy} {plate : Value}
    (hp : plates p.object.handle = some plate) {name : String}
    (hreads : Car.readings plate name ≠ []) :
    (Bridge.onHost c e).Answers s p name (collapse (Car.readings plate name)) := by
  refine .of_forward fun operation => ?_
  have hends := Bridge.forward_car c e (hg.plates _ _ hp) hg.orderly operation name []
  cases houtcome : ((Bridge.onHost c e).forward p operation name [] s).1 with
  | ok v => rw [(hends.ok houtcome).1]
  | error err => exact absurd ((hends.error houtcome).2 rfl) hreads

/-- A plate that is known changes only when the car is handed another one. -/
theorem handed_of_changed (hg : Garage s plates) {call : Call} {n : Nat} {plate : Value}
    (hn : plates n = some plate) :
    let b := Bridge.onHost c e
    let st := b.step s call
    plates.next b st n ≠ some plate →
      ∃ d new, call.dispatch? = some d ∧ d.proxy.object.handle = n ∧
        d.foreignName = "setNumberPlate" ∧ d.arguments = [new] ∧ b.failedToCall st = false ∧
        plates.next b st n = some (st.after.world.counted new) := by
  intro b st hchanged
  have hmade : st.newCar? n = none := by
    refine Option.eq_none_iff_forall_ne_some.mpr fun new hnew => ?_
    obtain ⟨arguments, keywords, p, -, hsupplied, hp, hcar, rfl, -⟩ :=
      Step.newCar?_eq_some_iff.mp hnew
    -- There is no object yet behind the handle of a new car.
    obtain ⟨as, hold, -⟩ := hg.plates _ _ hn
    exact nomatch (hg.newCar hsupplied hp hcar).1.symm.trans hold
  have hnext : plates.next b st n = some ((b.newPlate? st n).getD plate) := by
    rw [Plates.next, hmade, hn, Option.none_or, Option.map_some]
  rw [hnext] at hchanged ⊢
  cases hpainted : b.newPlate? st n with
  | none =>
      rw [hpainted] at hchanged
      exact absurd rfl hchanged
  | some new =>
      obtain ⟨d, v, hd, hself, hhanded, hok, rfl⟩ := Bridge.newPlate?_eq_some_iff.mp hpainted
      obtain ⟨hname, harguments⟩ := Car.handed?_eq_some_iff.mp hhanded
      exact ⟨d, v, hd, hself, hname, harguments, hok, rfl⟩

end Garage

/-! ## Runs -/

/-- After any run over a host with cars, the methods that read a plate answer what is told of the
run, through any proxy of the car.  The next call changes a plate only if it is passed on to the
car itself as `setNumberPlate` and does not fail there, whatever becomes of its result.  A car that
is made for a proxy is new. -/
theorem plates_of_run (c : Configuration) (e : Environment) {h : Host} (known : Plates)
    (hcars : h.class? "Car" "Car" = some Car.hostClass) (horderly : h.Orderly)
    (hknown : ∀ n plate, known n = some plate → h.HasCar n plate) (calls : List Call) :
    let b := Bridge.onHost c e
    let s := b.finish (b.start h) calls
    let plates := known.told b (b.run (b.start h) calls)
    (∀ (p : Proxy) (plate : Value), plates p.object.handle = some plate →
        b.Answers s p "getNumberPlate" plate ∧ b.Answers s p "getSpecs" (.list [.int 4, plate])) ∧
      ∀ call : Call,
        let st := b.step s call
        (∀ n plate, plates n = some plate → plates.next b st n ≠ some plate →
          ∃ d new, call.dispatch? = some d ∧ d.proxy.object.handle = n ∧
            d.foreignName = "setNumberPlate" ∧ d.arguments = [new] ∧ b.failedToCall st = false ∧
            plates.next b st n = some (st.after.world.counted new) ∧
            (st.outcome.isOk = true ∨
              ∃ p type operation arguments, call = .invokeAs p type operation arguments)) ∧
        ∀ p arguments keywords, st.proxy? = some p → call.supplied? = some (arguments, keywords) →
          p.isCar = true →
          s.world.at? p.object.handle = none ∧ plates p.object.handle = none ∧
            ∃ plate, Car.ordered? arguments keywords = some plate ∧
              plates.next b st p.object.handle = some (st.after.world.counted plate) := by
  intro b s plates
  have hg : Garage s plates := (Garage.start b horderly hcars hknown).finish calls
  refine ⟨fun p plate hp => ⟨?_, ?_⟩, fun call => ⟨fun n plate hn hchanged => ?_, ?_⟩⟩
  · exact hg.answers hp (List.cons_ne_nil _ _)
  · exact hg.answers hp (List.cons_ne_nil _ _)
  · obtain ⟨d, new, hd, hself, hname, harguments, hok, hnext⟩ := hg.handed_of_changed hn hchanged
    exact ⟨d, new, hd, hself, hname, harguments, hok, hnext, b.succeeds_or_typed hd hok⟩
  · intro p arguments keywords hp hsupplied hcar
    obtain ⟨hnew, plate, hordered, -⟩ := hg.newCar hsupplied hp hcar
    refine ⟨hnew, ?_, plate, hordered, ?_⟩
    · cases hplate : plates p.object.handle with
      | none => rfl
      | some old =>
          obtain ⟨as, hold, -⟩ := hg.plates _ _ hplate
          exact nomatch hnew.symm.trans hold
    · have hmade := Step.newCar?_eq_some_iff.mpr
        ⟨arguments, keywords, p, plate, hsupplied, hp, hcar, rfl, hordered, rfl⟩
      rw [Plates.next, hmade, Option.some_or]

/-- The proxy of the first car that is made on the sample host. -/
def Car.first : Proxy where
  type := ⟨.type Car.interface.type, Car.interface.interface,
    [("get_number_plate", ⟨"getNumberPlate", 0⟩), ("honk", ⟨"honk", 0⟩),
      ("set_number_plate", ⟨"setNumberPlate", 1⟩), ("specs", ⟨"getSpecs", 0⟩)]⟩
  object := ⟨5, "Car"⟩
  state := ⟨.first, .type Car.interface.type, ⟨0⟩, []⟩

/-- A car that is given another plate has it after a call that fails. -/
theorem Car.plate_of_first :
    let b := Bridge.onHost .isolated ⟨none, fun _ => none⟩
    let calls : List Call := [.createProxy Car.interface [.str "A"] [],
      .invoke first "set_number_plate" [.str "B"], .invoke first "honk" []]
    let s := b.finish (b.start Host.fixtures) calls
    b.Answers s first "getNumberPlate" (.str "B") ∧
      b.Answers s first "getSpecs" (.list [.int 4, .str "B"]) := by
  intro b calls s
  have horderly : Host.fixtures.Orderly := nofun
  let known : Plates := fun _ => none
  have htold : (known.told b (b.run (b.start Host.fixtures) calls) first.object.handle).bind
      Value.asStr = some "B" := by decide +kernel
  have hanswers : ∀ plate, known.told b (b.run (b.start Host.fixtures) calls)
      first.object.handle = some plate → b.Answers s first "getNumberPlate" plate ∧
        b.Answers s first "getSpecs" (.list [.int 4, plate]) :=
    (plates_of_run .isolated ⟨none, fun _ => none⟩ known rfl horderly nofun calls).1 first
  -- Nothing is to be computed here, so the values are put out of sight.
  clear_value known s calls b
  obtain ⟨plate, hplate, hstr⟩ := Option.bind_eq_some_iff.mp htold
  cases plate with
  | str text =>
    cases hstr
    exact hanswers _ hplate
  | _ => cases hstr

/-- A typed call whose result is not of the type fails, and has changed the plate all the same. -/
theorem Car.plate_set_by_failed_call :
    let b := Bridge.onHost .isolated ⟨none, fun _ => none⟩
    let made := b.createProxy interface [.str "A"] [] (b.start Host.fixtures)
    let painted := b.invokeAs first (.int .int64) "set_number_plate" [.str "B"] made.2
    made.1.toOption = some first ∧
      (b.invoke first "get_number_plate" [] made.2).1.toOption.bind Value.asStr = some "A" ∧
      painted.1.isOk = false ∧
      (b.invoke first "get_number_plate" [] painted.2).1.toOption.bind Value.asStr = some "B" := by
  decide +kernel

end ObjectBridge
