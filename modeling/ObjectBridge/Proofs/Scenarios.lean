import ObjectBridge.Proofs.Run
import ObjectBridge.Proofs.TwinSessions

/-!
# Scenarios

A scenario is a session as its user writes it down before it takes place.  A proxy
is referred to by its number in the order in which proxies were returned, an object
by its number in the order in which instances were made.  So one scenario can be
played by bridges in different modes, and with or without shutdowns in between.

Main results:

- Definitions `Scene.answers` and `Scene.finish`: what the calls of a scenario
  return, and how it ends.
- Theorem `Bridge.answers_of_scenario`: nobody can tell the modes of two bridges, and
  the shutdowns they were told, from the answers and the instances at the end.
-/

namespace ObjectBridge

variable {σ π ς : Type}

/-! ## Calls with references -/

/-- A sequence of calls that refer to proxies and objects by their numbers. -/
abbrev Scenario := List (Command Nat Nat)

/-- The handle meant by a number: that of an object that was there before, or of an instance by the
order in which they were made. -/
def Host.locate (base : Nat) (h : Host) (n : Nat) : Option Nat :=
  if n < base then some n else (h.instances base)[n - base]?

namespace Command

/-- Whether a call lets go of all states. -/
def isShutdown : Command π ς → Bool
  | shutdown => true
  | _ => false

/-- The action of a call whose references are looked up, if all of them are found.  The state of a
wrapped object is that of a proxy. -/
def enact (b : Bridge σ) (locate : Nat → Option Nat) (proxies : List Proxy) :
    (c : Command Nat Nat) → Option (Action σ c.Result)
  | createInstance target moduleName className arguments => do
    let arguments ← Value.relocateItems locate arguments
    some (b.createInstance target moduleName className arguments)
  | createProxy i arguments keywords => do
    let arguments ← Value.relocateItems locate arguments
    let keywords ← Value.relocateEntries locate keywords
    some (b.createProxy i arguments keywords)
  | createDynamicProxy i arguments => do
    let arguments ← Value.relocateItems locate arguments
    some (b.createDynamicProxy i arguments)
  | wrap i object state => do
    let handle ← locate object.handle
    let p ← proxies[state]?
    some (b.wrap i ⟨handle, object.typeName⟩ p.state)
  | invoke proxy operation arguments => do
    let p ← proxies[proxy]?
    let arguments ← Value.relocateItems locate arguments
    some (b.invoke p operation arguments)
  | invokeAs proxy type operation arguments => do
    let p ← proxies[proxy]?
    let arguments ← Value.relocateItems locate arguments
    some (b.invokeAs p type operation arguments)
  | invokeMethod proxy name arguments => do
    let p ← proxies[proxy]?
    let arguments ← Value.relocateItems locate arguments
    some (b.invokeMethod p name arguments)
  | shutdown => some b.shutdown

/-- The proxy that a call has returned, if it has returned one. -/
def returned : (c : Command π ς) → Except BridgeError c.Result → List Proxy
  | createProxy .., .ok p | createDynamicProxy .., .ok p | wrap .., .ok p => [p]
  | _, _ => []

end Command

/-! ## Scenes -/

/-- A session together with the proxies that were returned in it. -/
structure Scene where
  session : Session Host
  proxies : List Proxy

/-- What a call of a scenario returned, or nothing if it refers to what is not there and was not
made. -/
structure Answer : Type 1 where
  command : Command Nat Nat
  outcome : Option (Except BridgeError command.Result)

namespace Scene

/-- The scene before the first call. -/
def start (b : Bridge Host) (h : Host) : Scene :=
  ⟨b.start h, []⟩

/-- One call, with the scene after it. -/
def step (b : Bridge Host) (base : Nat) (s : Scene) (c : Command Nat Nat) :
    Option (Except BridgeError c.Result) × Scene :=
  match c.enact b (s.session.world.locate base) s.proxies with
  | none => (none, s)
  | some action =>
    let (outcome, session) := action s.session
    (some outcome, ⟨session, s.proxies ++ c.returned outcome⟩)

/-- What the calls of a scenario return. -/
def answers (b : Bridge Host) (base : Nat) : Scene → Scenario → List Answer
  | _, [] => []
  | s, c :: rest => ⟨c, (s.step b base c).1⟩ :: answers b base (s.step b base c).2 rest

/-- The scene after all calls of a scenario. -/
def finish (b : Bridge Host) (base : Nat) : Scene → Scenario → Scene
  | s, [] => s
  | s, c :: rest => finish b base (s.step b base c).2 rest

end Scene

/-! ## Answers up to handles -/

/-- Proxies with the same dispatch table for objects that are alike.  Their states may differ. -/
structure Proxy.Alike (N : Nat → Nat → Prop) (p p' : Proxy) : Prop where
  type : p.type = p'.type
  object : p.object.Alike N p'.object

/-- Results of a call that are alike up to a relation of handles. -/
def Command.Alike (N : Nat → Nat → Prop) : (c : Command π ς) → c.Result → c.Result → Prop
  | createInstance .., x, x' => x = x'
  | createProxy .., p, p' | createDynamicProxy .., p, p' | wrap .., p, p' => Proxy.Alike N p p'
  | invoke .., v, v' | invokeMethod .., v, v' => Value.Alike N v v'
  | invokeAs _ type .., x, x' => type.Alike N x x'
  | shutdown, _, _ => True

/-- Two answers to one call: it was not made, or it ended with the same error or with alike
results. -/
inductive Answer.Alike (N : Nat → Nat → Prop) : Answer → Answer → Prop where
  | of {c : Command Nat Nat} {r r' : Option (Except BridgeError c.Result)}
      (alike : Option.Rel (Agree (c.Alike N)) r r') : Alike N ⟨c, r⟩ ⟨c, r'⟩

/-! ## One call in two twin sessions -/

section

variable {base : Nat} {c c' : Configuration} {e e' : Environment}

/-- Instances with one place are linked. -/
theorem Host.Twin.locate {h h' : Host} (hT : h.Twin base h') (n : Nat) :
    Option.Rel (Host.Linked base h h') (h.locate base n) (h'.locate base n) := by
  rw [Host.locate, Host.locate]
  split
  · rename_i hn
    exact .some (.before hn)
  · by_cases hlt : n - base < (h.instances base).length
    · have hlt' := hT.length ▸ hlt
      rw [List.getElem?_eq_getElem hlt, List.getElem?_eq_getElem hlt']
      exact .some (.made (n - base) (List.getElem?_eq_getElem hlt) (List.getElem?_eq_getElem hlt'))
    · have hle := Nat.le_of_not_lt hlt
      rw [List.getElem?_eq_none hle, List.getElem?_eq_none (hT.length ▸ hle)]
      exact .none

/-- Related lists have related items at each place. -/
theorem getElem?_alike {α β : Type} {V : α → β → Prop} {xs : List α} {ys : List β}
    (h : List.Forall₂ V xs ys) (i : Nat) : Option.Rel V xs[i]? ys[i]? := by
  induction h generalizing i with
  | nil => exact .none
  | cons hxy _ ih =>
      cases i with
      | zero => exact .some hxy
      | succ i => exact ih i

variable (e e') in
/-- Related references are to alike actions: a call that is made in one of two twin sessions is made
in the other, and both keep in step. -/
theorem Command.enact_alike {s t : Session Host} {ps ps' : List Proxy}
    (hcheck : c.checkArity = c'.checkArity) (hT : s.Twin base t)
    (hps : List.Forall₂ (Proxy.Alike (Host.Linked base s.world t.world)) ps ps')
    {k : Command Nat Nat} (hk : k.isShutdown = false) :
    Option.Rel
      (fun a a' => (Coupling.sessions base).InStep
        (fun s t => k.Alike (Host.Linked base s.world t.world)) a a' s t)
      (k.enact (.onHost c e) (s.world.locate base) ps)
      (k.enact (.onHost c' e') (t.world.locate base) ps') := by
  have hn := hT.world.locate
  cases k with
  | createInstance target moduleName className vs =>
      refine rel_bind (Value.Alike.relocateItems hn vs) fun hvs => .some ?_
      exact (Lockstep.twins base c c' e e' hcheck).createInstance target moduleName className hT hvs
  | createProxy i vs ks =>
      refine rel_bind (Value.Alike.relocateItems hn vs) fun hvs => ?_
      refine rel_bind (Value.Alike.relocateEntries hn ks) fun hks => .some ?_
      have hstep := (Lockstep.twins base c c' e e' hcheck).createProxy i hT hvs hks
      exact hstep.mono fun hp => ⟨hp.type, hp.object⟩
  | createDynamicProxy i vs =>
      refine rel_bind (Value.Alike.relocateItems hn vs) fun hvs => .some ?_
      have hstep := (Lockstep.twins base c c' e e' hcheck).createDynamicProxy i hT hvs
      exact hstep.mono fun hp => ⟨hp.type, hp.object⟩
  | wrap i object state =>
      refine rel_bind (hn object.handle) fun {n n'} hhandle => ?_
      refine rel_bind (getElem?_alike hps state) fun {p p'} _ => .some ?_
      have ho : Host.Matched base s.world t.world ⟨n, object.typeName⟩ ⟨n', object.typeName⟩ :=
        ⟨hhandle, rfl⟩
      have hm : (Lockstep.twins base c c' e e' hcheck).state s t p.state p'.state := trivial
      have hstep := (Lockstep.twins base c c' e e' hcheck).wrap i hT ho hm
      exact hstep.mono fun hp => ⟨hp.type, hp.object⟩
  | invoke proxy operation vs =>
      refine rel_bind (getElem?_alike hps proxy) fun hp => ?_
      refine rel_bind (Value.Alike.relocateItems hn vs) fun hvs => .some ?_
      exact (Lockstep.twins base c c' e e' hcheck).invoke operation hT
        ⟨hp.type, hp.object, trivial⟩ hvs
  | invokeAs proxy type operation vs =>
      refine rel_bind (getElem?_alike hps proxy) fun hp => ?_
      refine rel_bind (Value.Alike.relocateItems hn vs) fun hvs => .some ?_
      exact (Lockstep.twins base c c' e e' hcheck).invokeAs type operation hT
        ⟨hp.type, hp.object, trivial⟩ hvs
  | invokeMethod proxy name vs =>
      refine rel_bind (getElem?_alike hps proxy) fun hp => ?_
      refine rel_bind (Value.Alike.relocateItems hn vs) fun hvs => .some ?_
      exact (Lockstep.twins base c c' e e' hcheck).invokeMethod name hT
        ⟨hp.type, hp.object, trivial⟩ hvs
  | shutdown => cases hk

/-! ## Scenarios in two twin scenes -/

/-- Twin sessions in which alike proxies were returned. -/
structure Scene.Twin (base : Nat) (s t : Scene) : Prop where
  session : s.session.Twin base t.session
  proxies : List.Forall₂ (Proxy.Alike (Host.Linked base s.session.world t.session.world)) s.proxies
    t.proxies

/-- Proxies that are alike are so up to every wider relation of handles. -/
theorem Proxy.Alike.mono {N M : Nat → Nat → Prop} (hNM : ∀ {n n'}, N n n' → M n n') {p p' : Proxy}
    (h : Proxy.Alike N p p') : Proxy.Alike M p p' :=
  ⟨h.type, hNM h.object.1, h.object.2⟩

/-- Results that are alike are so up to every wider relation of handles. -/
theorem Command.Alike.mono {N M : Nat → Nat → Prop} (hNM : ∀ {n n'}, N n n' → M n n')
    {k : Command π ς} {x x' : k.Result} (h : k.Alike N x x') : k.Alike M x x' := by
  cases k with
  | createInstance => exact h
  | createProxy | createDynamicProxy | wrap => exact Proxy.Alike.mono hNM h
  | invoke | invokeMethod => exact Value.Alike.mono hNM h
  | invokeAs => exact NativeType.Alike.mono hNM h
  | shutdown => trivial

/-- Answers that are alike are so up to every wider relation of handles. -/
theorem Answer.Alike.mono {N M : Nat → Nat → Prop} (hNM : ∀ {n n'}, N n n' → M n n')
    {a a' : Answer} (h : a.Alike N a') : a.Alike M a' := by
  cases h with
  | of h => exact .of (rel_mono (fun hr => hr.mono fun hx => hx.mono hNM) h)

/-- Commands with alike results return alike proxies. -/
theorem Command.returned_alike {N : Nat → Nat → Prop} {k : Command π ς}
    {r r' : Except BridgeError k.Result} (h : Agree (k.Alike N) r r') :
    List.Forall₂ (Proxy.Alike N) (k.returned r) (k.returned r') := by
  cases h with
  | error e => cases k <;> exact .nil
  | ok hx =>
      cases k with
      | createProxy | createDynamicProxy | wrap => exact .cons hx .nil
      | _ => exact .nil

namespace Scene

variable {s t s₁ t₁ : Scene}

/-- How two scenes go on: they stay twins, and links stay. -/
structure Onward (base : Nat) (s t s₁ t₁ : Scene) : Prop where
  twin : s₁.Twin base t₁
  grows : (Coupling.hosts base).grows s.session.world t.session.world s₁.session.world
    t₁.session.world

/-- Handles that are linked stay linked in later scenes. -/
theorem Onward.linked (h : Onward base s t s₁ t₁) {n n' : Nat}
    (hn : Host.Linked base s.session.world t.session.world n n') :
    Host.Linked base s₁.session.world t₁.session.world n n' :=
  hn.mono h.grows.1 h.grows.2

/-- Scenes go on from scenes that went on. -/
theorem Onward.trans {s₂ t₂ : Scene} (h : Onward base s t s₁ t₁) (h' : Onward base s₁ t₁ s₂ t₂) :
    Onward base s t s₂ t₂ :=
  ⟨h'.twin, (Coupling.hosts base).grows_trans h.grows h'.grows⟩

variable (e e') in
/-- A call that is no shutdown has alike answers in twin scenes, and leaves twin scenes. -/
theorem Twin.step (hcheck : c.checkArity = c'.checkArity) (hT : s.Twin base t)
    {k : Command Nat Nat} (hk : k.isShutdown = false) :
    Onward base s t (s.step (.onHost c e) base k).2 (t.step (.onHost c' e') base k).2 ∧
      Answer.Alike
        (Host.Linked base (s.step (.onHost c e) base k).2.session.world
          (t.step (.onHost c' e') base k).2.session.world)
        ⟨k, (s.step (.onHost c e) base k).1⟩ ⟨k, (t.step (.onHost c' e') base k).1⟩ := by
  have henact := Command.enact_alike e e' hcheck hT.session hT.proxies hk
  rw [Scene.step, Scene.step]
  cases ha : k.enact (.onHost c e) (s.session.world.locate base) s.proxies with
  | none =>
      cases ha' : k.enact (.onHost c' e') (t.session.world.locate base) t.proxies with
      | none => exact ⟨⟨hT, (Coupling.hosts base).grows_refl _ _⟩, .of .none⟩
      | some a' =>
          rw [ha, ha'] at henact
          cases henact
  | some a =>
      cases ha' : k.enact (.onHost c' e') (t.session.world.locate base) t.proxies with
      | none =>
          rw [ha, ha'] at henact
          cases henact
      | some a' =>
          rw [ha, ha'] at henact
          cases henact with
          | some hstep =>
              obtain ⟨hrel, hgrows, hagree⟩ := hstep
              have hold := hT.proxies.imp fun _ _ hp =>
                hp.mono fun hn => hn.mono hgrows.1 hgrows.2
              refine ⟨⟨⟨hrel, ?_⟩, hgrows⟩, .of (.some hagree)⟩
              exact List.rel_append hold (Command.returned_alike hagree)

/-- Scenes that go on aside stay twins. -/
theorem Twin.aside (hT : s.Twin base t) (hs : s.session.Aside base s₁.session)
    (ht : t.session.Aside base t₁.session) (hps : s₁.proxies = s.proxies)
    (hps' : t₁.proxies = t.proxies) : Onward base s t s₁ t₁ where
  twin := by
    refine ⟨hT.session.aside hs ht, ?_⟩
    rw [hps, hps']
    exact hT.proxies.imp fun _ _ hp => hp.mono fun hn => hn.mono hs.world.grows ht.world.grows
  grows := ⟨hs.world.grows, ht.world.grows⟩

/-- A shutdown is an aside, and no proxy is lost by it. -/
theorem shutdown_aside (base : Nat) (s : Scene) (c : Configuration) (e : Environment) :
    s.session.Aside base (s.step (.onHost c e) base .shutdown).2.session ∧
      (s.step (.onHost c e) base .shutdown).2.proxies = s.proxies := by
  obtain ⟨s₁, hs₁, haside⟩ := Bridge.shutdown_aside base c e s.session
  have hstep : (s.step (.onHost c e) base .shutdown).2 = ⟨s₁, s.proxies ++ []⟩ := by
    rw [Scene.step]
    simp only [Command.enact, hs₁]
    rfl
  rw [hstep]
  exact ⟨haside, List.append_nil _⟩

end Scene

/-! ## Scenarios that differ in shutdowns -/

/-- Two scenarios that differ in nothing but the shutdowns in between. -/
inductive Scenario.SameButShutdowns : Scenario → Scenario → Prop where
  | nil : SameButShutdowns [] []
  | both (k : Command Nat Nat) {ks ls : Scenario} (counted : k.isShutdown = false)
      (rest : SameButShutdowns ks ls) : SameButShutdowns (k :: ks) (k :: ls)
  | left {ks ls : Scenario} (rest : SameButShutdowns ks ls) : SameButShutdowns (.shutdown :: ks) ls
  | right {ks ls : Scenario} (rest : SameButShutdowns ks ls) :
      SameButShutdowns ks (.shutdown :: ls)

/-- The calls of a scenario that are no shutdowns. -/
def Scenario.withoutShutdowns (ks : Scenario) : Scenario :=
  ks.filter fun k => !k.isShutdown

/-- The command that shuts down is the only one of its kind. -/
theorem Command.eq_shutdown {k : Command π ς} (h : k.isShutdown = true) : k = .shutdown := by
  cases k with
  | shutdown => rfl
  | _ => cases h

/-- Scenarios that are the same without their shutdowns differ in nothing but these. -/
theorem Scenario.sameButShutdowns_of_eq {ks ls : Scenario}
    (h : ks.withoutShutdowns = ls.withoutShutdowns) : SameButShutdowns ks ls := by
  induction ks generalizing ls with
  | nil =>
      induction ls with
      | nil => exact .nil
      | cons l ls ih =>
          cases hl : l.isShutdown with
          | true =>
              cases Command.eq_shutdown hl
              exact .right (ih h)
          | false =>
              rw [withoutShutdowns, withoutShutdowns, List.filter_cons, hl] at h
              cases h
  | cons k ks ih =>
      cases hk : k.isShutdown with
      | true =>
          cases Command.eq_shutdown hk
          exact .left (ih h)
      | false =>
          induction ls with
          | nil =>
              rw [withoutShutdowns, withoutShutdowns, List.filter_cons, hk] at h
              cases h
          | cons l ls ihls =>
              cases hl : l.isShutdown with
              | true =>
                  cases Command.eq_shutdown hl
                  exact .right (ihls h)
              | false =>
                  rw [withoutShutdowns, withoutShutdowns, List.filter_cons, List.filter_cons, hk,
                    hl] at h
                  obtain ⟨rfl, hrest⟩ := List.cons.inj h
                  exact .both k hk (ih hrest)

/-- The answers to the calls of a scenario that are no shutdowns. -/
def Scene.answersOfCalls (b : Bridge Host) (base : Nat) (s : Scene) (ks : Scenario) : List Answer :=
  (s.answers b base ks).filter fun a => !a.command.isShutdown

variable (e e') in
/-- Twin scenes stay twins through two scenarios that differ in shutdowns, and the answers to the
other calls are alike. -/
theorem Scene.Twin.play {s t : Scene} {ks ls : Scenario} (hcheck : c.checkArity = c'.checkArity)
    (hsame : Scenario.SameButShutdowns ks ls) (hT : s.Twin base t) :
    Onward base s t (s.finish (.onHost c e) base ks) (t.finish (.onHost c' e') base ls) ∧
      List.Forall₂
        (Answer.Alike
          (Host.Linked base (s.finish (.onHost c e) base ks).session.world
            (t.finish (.onHost c' e') base ls).session.world))
        (s.answersOfCalls (.onHost c e) base ks) (t.answersOfCalls (.onHost c' e') base ls) := by
  -- The induction is on how the scenarios differ.  A shutdown that only one of them has is an aside
  -- of that one, while the other stays where it is.
  induction hsame generalizing s t with
  | nil => exact ⟨⟨hT, (Coupling.hosts base).grows_refl _ _⟩, .nil⟩
  | both k hk _ ih =>
      obtain ⟨honward, hanswer⟩ := hT.step e e' hcheck hk
      obtain ⟨hrest, hanswers⟩ := ih honward.twin
      refine ⟨honward.trans hrest, ?_⟩
      rw [answersOfCalls, answers, List.filter_cons, answersOfCalls, answers, List.filter_cons, hk]
      exact .cons (hanswer.mono hrest.linked) hanswers
  | left _ ih =>
      obtain ⟨haside, hps⟩ := s.shutdown_aside base c e
      have honward := hT.aside haside (.refl t.session) hps rfl
      obtain ⟨hrest, hanswers⟩ := ih honward.twin
      exact ⟨honward.trans hrest, hanswers⟩
  | right _ ih =>
      obtain ⟨haside, hps⟩ := t.shutdown_aside base c' e'
      have honward := hT.aside (.refl s.session) haside rfl hps
      obtain ⟨hrest, hanswers⟩ := ih honward.twin
      exact ⟨honward.trans hrest, hanswers⟩

end

/-! ## Modes and shutdowns -/

/-- Two scenes that nobody can tell apart but by their states.  Instances correspond by the order
in which they were made; they are of the same class and have alike attributes. -/
structure Scene.Alike (base : Nat) (s t : Scene) : Prop where
  correspondence : Correspondence base (Host.Linked base s.session.world t.session.world)
  instances : (s.session.world.instances base).length = (t.session.world.instances base).length
  objects : ∀ n n', Host.Linked base s.session.world t.session.world n n' →
    Option.Rel (HostObject.Alike base (Host.Linked base s.session.world t.session.world))
      (s.session.world.at? n) (t.session.world.at? n')
  proxies : List.Forall₂ (Proxy.Alike (Host.Linked base s.session.world t.session.world)) s.proxies
    t.proxies
  interfaces : s.session.ledger.interfaces = t.session.ledger.interfaces
  proxyTypes : s.session.ledger.proxyTypes = t.session.ledger.proxyTypes
  counters : s.session.ledger.counters.SameButStates t.session.ledger.counters

namespace Bridge

/-- The scene after a scenario that is played on a host. -/
def ending (b : Bridge Host) (h : Host) (ks : Scenario) : Scene :=
  (Scene.start b h).finish b h.objects.size ks

/-- Two bridges play two scenarios alike on a host: they end alike, and the answers to all calls
but shutdowns are alike, up to the order in which instances were made. -/
structure PlayAlike (b b' : Bridge Host) (h : Host) (ks ls : Scenario) : Prop where
  answers : List.Forall₂
    (Answer.Alike
      (Host.Linked h.objects.size (b.ending h ks).session.world (b'.ending h ls).session.world))
    ((Scene.start b h).answersOfCalls b h.objects.size ks)
    ((Scene.start b' h).answersOfCalls b' h.objects.size ls)
  ending : (b.ending h ks).Alike h.objects.size (b'.ending h ls)

/-- On a host that never refuses to make states, and whose classes treat handles as opaque, a
scenario has alike answers and ends alike in both modes, and wherever shutdowns are inserted or
left out. -/
theorem answers_of_scenario (h : Host) (huniform : h.Uniform) (hwilling : h.refusing = false)
    (c : Configuration) (e : Environment) (mode : StateMode) (first second : Scenario)
    (hsame : first.withoutShutdowns = second.withoutShutdowns) :
    (onHost c e).PlayAlike (onHost { c with mode } e) h first second := by
  have hcheck : c.checkArity = { c with mode : Configuration }.checkArity := rfl
  have hstart : (Scene.start (onHost c e) h).Twin h.objects.size
      (Scene.start (onHost { c with mode } e) h) :=
    ⟨start_twin _ _ huniform hwilling, .nil⟩
  obtain ⟨honward, hanswers⟩ :=
    hstart.play e e hcheck (Scenario.sameButShutdowns_of_eq hsame)
  have hT := honward.twin
  exact ⟨hanswers, Host.Linked.correspondence _ _ _, hT.session.world.length,
    fun _ _ hn => hT.session.world.objects hn, hT.proxies, hT.session.interfaces,
    hT.session.proxyTypes, hT.session.counters⟩

end Bridge

/-- A car is made, and asked for its number plate after a pause. -/
def Car.errand (pause : Scenario) : Scenario :=
  .createProxy Car.interface [] [] :: (pause ++ [.invoke 0 "get_number_plate" []])

/-- An errand on the sample host, with a state for each interface, is played like one with a
shutdown in between, in shared mode. -/
theorem Car.answers_of_errand :
    (Bridge.onHost .isolated ⟨none, fun _ => none⟩).PlayAlike
      (Bridge.onHost { Configuration.isolated with mode := .shared } ⟨none, fun _ => none⟩)
      Host.fixtures (errand []) (errand [.shutdown]) :=
  Bridge.answers_of_scenario Host.fixtures Host.fixtures_uniform rfl .isolated
    ⟨none, fun _ => none⟩ .shared (errand []) (errand [.shutdown]) rfl

end ObjectBridge
