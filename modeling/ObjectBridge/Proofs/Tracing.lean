import ObjectBridge.Proofs.Accounting

/-!
# Counters and traces

What a bridge counts it also leaves a trace of, at the same places but by other
means.  A reader of the whole trace can thus do without the counters, and finds
one span for each call that was passed on, with the outcome of the call in it.

Main results:

- Definitions `Gauge.heralds` and `Reading.follow`: what a reader counts, and how
  the spans of a trace are read.
- Theorem `Bridge.step_told`: what a single call adds to the trace.
- Theorem `Bridge.trace_of_run`: the trace at the end of a run.
-/

namespace ObjectBridge

variable {σ α β : Type}

/-! ## What a reader counts -/

/-- A quantity that a bridge counts and leaves a trace of. -/
inductive Gauge where
  | states
  | instances
  | proxyTypes
  | calls
  | failures
deriving DecidableEq

namespace Gauge

/-- The counter of a quantity. -/
def read : Gauge → Counters → UInt64
  | states, c => c.statesCreated
  | instances, c => c.instancesCreated
  | proxyTypes, c => c.proxyTypesGenerated
  | calls, c => c.callsDispatched
  | failures, c => c.failures

/-- The notices each of which stands for one more of a quantity, by level and message. -/
def notices : Gauge → List (Level × String)
  | states => [(.info, "created interpreter state")]
  | instances => [(.debug, "created native instance"), (.debug, "created proxy instance")]
  | proxyTypes => [(.debug, "generated proxy type")]
  | calls => []
  | failures => [(.warn, "forwarded call failed"), (.warn, "bridge operation failed")]

/-- Whether an entry stands for one more of a quantity; calls are known by their spans. -/
def heralds (g : Gauge) : TraceEntry → Bool
  | .notice n | .elsewhere n => (n.level, n.message) ∈ g.notices
  | .opened span => g = calls ∧ span.name = "dispatch"
  | .entered | .left => false

end Gauge

/-- The quantity that an event is one more of. -/
def Tally.gauge : Tally → Gauge
  | stateCreated => .states
  | instanceCreated => .instances
  | proxyTypeGenerated => .proxyTypes
  | callDispatched _ => .calls
  | failed => .failures

/-- A gauge goes up by one with the events that it counts, and with no others. -/
theorem Gauge.read_record (g : Gauge) (c : Counters) (tally : Tally) :
    g.read (c.record tally) = g.read c + .ofNat (g == tally.gauge).toNat := by
  cases tally <;> cases g <;> simp only [read, Counters.record, Tally.gauge] <;>
    first | rfl | exact (UInt64.add_zero _).symm

/-! ## How spans are read -/

/-- Whether a notice is the outcome of a call. -/
def Notice.isOutcome : Notice → Bool
  | callReturned | callFailed .. => true
  | _ => false

/-- Whether a notice is an outcome of the call that a span is around. -/
def CallSpan.admits (span : CallSpan) : Notice → Bool
  | .callReturned => true
  | .callFailed interface operation _ => interface = span.interface ∧ operation = span.operation
  | _ => false

/-- How far a span has come. -/
inductive Progress where
  | opened
  | entered
  | answered (outcome : Notice)

/-- What a reader of a trace knows: the spans that are not left yet, the innermost one first, and
those that were left, each with its outcome. -/
structure Reading where
  unfinished : List (CallSpan × Progress)
  finished : List (CallSpan × Notice)

namespace Reading

/-- The reading before the first entry. -/
def empty : Reading := ⟨[], []⟩

/-- The reading of one more entry.  A span is entered once after it was opened, then takes one
outcome of its call and no other, and is left once after that; only the innermost span moves on. -/
def next (r : Reading) : TraceEntry → Option Reading
  | .opened span => some { r with unfinished := (span, .opened) :: r.unfinished }
  | .entered =>
    match r.unfinished with
    | (span, .opened) :: outer => some { r with unfinished := (span, .entered) :: outer }
    | _ => none
  | .notice n =>
    if n.isOutcome then
      match r.unfinished with
      | (span, .entered) :: outer =>
        if span.admits n then some { r with unfinished := (span, .answered n) :: outer } else none
      | _ => none
    else some r
  | .left =>
    match r.unfinished with
    | (span, .answered outcome) :: outer => some ⟨outer, r.finished ++ [(span, outcome)]⟩
    | _ => none
  | .elsewhere n => if n.isOutcome then none else some r

/-- The reading of a whole trace, unless its spans are out of order. -/
def follow (r : Reading) (trace : List TraceEntry) : Option Reading :=
  trace.foldlM next r

example (span : CallSpan) : empty.follow [.opened span, .entered, .left] = none := rfl

/-- A reading follows two traces one after the other. -/
theorem follow_append {r r' : Reading} {first : List TraceEntry} (second : List TraceEntry)
    (h : r.follow first = some r') : r.follow (first ++ second) = r'.follow second := by
  rw [follow] at h
  rw [follow, List.foldlM_append, h]
  rfl

/-- A reading follows a trace entry by entry. -/
theorem follow_cons {r r' : Reading} {entry : TraceEntry} (rest : List TraceEntry)
    (h : r.next entry = some r') : r.follow (entry :: rest) = r'.follow rest := by
  rw [follow, List.foldlM_cons, h]
  rfl

/-- A reading with more spans that were left. -/
def also (r : Reading) (spans : List (CallSpan × Notice)) : Reading :=
  { r with finished := r.finished ++ spans }

/-- Nothing more was read. -/
theorem also_nil (r : Reading) : r.also [] = r := by
  rw [also, List.append_nil]

/-- What was read twice is read in order. -/
theorem also_append (r : Reading) (first second : List (CallSpan × Notice)) :
    (r.also first).also second = r.also (first ++ second) := by
  simp only [also, List.append_assoc]

end Reading

/-- A log of notices none of which is the outcome of a call. -/
def Plain (log : List TraceEntry) : Prop :=
  ∀ entry ∈ log, ∃ n : Notice, entry = .notice n ∧ n.isOutcome = false

namespace Plain

variable {log log' : List TraceEntry}

/-- Nothing entered is plain. -/
theorem nil : Plain [] := by
  intro entry hentry
  cases hentry

/-- A notice that is no outcome is plain. -/
theorem single {n : Notice} (h : n.isOutcome = false) : Plain [.notice n] := by
  intro entry hentry
  exact ⟨n, List.mem_singleton.mp hentry, h⟩

/-- Plain entries one after another are plain. -/
theorem append (h : Plain log) (h' : Plain log') : Plain (log ++ log') := by
  intro entry hentry
  exact (List.mem_append.mp hentry).elim (h entry) (h' entry)

/-- A reader takes no notice of a plain log. -/
theorem follow (h : Plain log) (r : Reading) : r.follow log = some r := by
  induction log with
  | nil => rfl
  | cons entry log ih =>
      obtain ⟨n, rfl, hn⟩ := h entry List.mem_cons_self
      have hnext : r.next (.notice n) = some r := by
        rw [Reading.next, hn]
        rfl
      rw [Reading.follow_cons log hnext]
      exact ih fun entry hentry => h entry (List.mem_cons_of_mem _ hentry)

end Plain

/-! ## What is told between two sessions -/

/-- The trace has become longer by a log, and each counter has gone up as the log says. -/
structure Tells (log : List TraceEntry) (s t : Session σ) : Prop where
  trace : t.trace = s.trace ++ log
  counters : ∀ g : Gauge, g.read t.ledger.counters =
    g.read s.ledger.counters + .ofNat (log.countP g.heralds)

namespace Tells

variable {log log' : List TraceEntry} {s t u : Session σ}

/-- With the trace and the counters as they were, nothing was told. -/
theorem of_same (htrace : t.trace = s.trace) (hcounters : t.ledger.counters = s.ledger.counters) :
    Tells [] s t where
  trace := by rw [htrace, List.append_nil]
  counters g := by simp [hcounters]

/-- What is told twice is told in order. -/
theorem trans (h : Tells log s t) (h' : Tells log' t u) : Tells (log ++ log') s u where
  trace := by rw [h'.trace, h.trace, List.append_assoc]
  counters g := by
    rw [h'.counters, h.counters, List.countP_append, UInt64.ofNat_add, UInt64.add_assoc]

/-- An entry that stands for nothing. -/
theorem entered {entry : TraceEntry} (h : ∀ g : Gauge, g.heralds entry = false) (s : Session σ) :
    Tells [entry] s (s.entered entry) where
  trace := rfl
  counters g := by simp [h g]

/-- An entry beside the event that it stands for. -/
theorem recorded {tally : Tally} {entry : TraceEntry}
    (h : ∀ g : Gauge, g.heralds entry = (g == tally.gauge)) (s : Session σ) :
    Tells [entry] s ((s.counted tally).entered entry) where
  trace := rfl
  counters g := by
    rw [Session.entered_ledger, Session.counted_ledger, Gauge.read_record, List.countP_singleton,
      h g]
    cases g == tally.gauge <;> rfl

end Tells

/-- Two sessions between which notices were left, but no outcome of a call. -/
def Told (s t : Session σ) : Prop :=
  ∃ log, Plain log ∧ Tells log s t

instance : IsPreorder (Session σ) Told where
  refl _ := ⟨[], .nil, .of_same rfl rfl⟩
  trans _ _ _ h h' := by
    obtain ⟨log, hplain, h⟩ := h
    obtain ⟨log', hplain', h'⟩ := h'
    exact ⟨log ++ log', hplain.append hplain', h.trans h'⟩

namespace Told

/-- With the trace and the counters as they were, there is nothing left to tell. -/
theorem of_same {s t : Session σ} (htrace : t.trace = s.trace)
    (hcounters : t.ledger.counters = s.ledger.counters) : Told s t :=
  ⟨[], .nil, .of_same htrace hcounters⟩

/-- A notice that stands for nothing. -/
theorem entered {n : Notice} (hsilent : ∀ g : Gauge, g.heralds (.notice n) = false)
    (houtcome : n.isOutcome = false) (s : Session σ) : Told s (s.entered (.notice n)) :=
  ⟨[.notice n], .single houtcome, .entered hsilent s⟩

/-- A notice beside the event that it stands for. -/
theorem recorded {tally : Tally} {n : Notice}
    (hheralds : ∀ g : Gauge, g.heralds (.notice n) = (g == tally.gauge))
    (houtcome : n.isOutcome = false) (s : Session σ) :
    Told s ((s.counted tally).entered (.notice n)) :=
  ⟨[.notice n], .single houtcome, .recorded hheralds s⟩

end Told

/-- What a bridge does on the way to an outcome is told. -/
theorem tolerates_told (b : Bridge σ) : b.Tolerates Told where
  preorder := inferInstance
  ask _ _ _ _ := .of_same rfl rfl
  note n h := by
    refine Told.entered (fun g => ?_) ?_
    · cases n <;> cases h <;> cases g <;> rfl
    · cases n <;> cases h <;> rfl
  importers _ _ := .of_same rfl rfl

namespace Told

/-- An action that ends with an event, its notice and a result. -/
theorem ending {tally : Tally} {n : Notice} (x : α)
    (hheralds : ∀ g : Gauge, g.heralds (.notice n) = (g == tally.gauge))
    (houtcome : n.isOutcome = false) :
    Within Told (do count tally; note n; return x : Action σ α) :=
  recorded hheralds houtcome

/-- The lookup of an interface is told. -/
theorem interface (b : Bridge σ) (key : InterfaceKey) (i : Interface) :
    Within Told (b.interface key i) := by
  refine .keep (.bind (.lift _) fun _ => .bind ?_ fun _ => .pure i) fun _ _ => .of_same rfl rfl
  exact entered (fun g => by cases g <;> rfl) rfl

/-- So is that of a proxy type. -/
theorem proxyType (b : Bridge σ) (key : InterfaceKey) (i : Interface) :
    Within Told (b.proxyType key i) := by
  refine .keep ?_ fun _ _ => .of_same rfl rfl
  rw [Bridge.createProxyType]
  cases ProxyType.build key i with
  | ok type => exact ending type (fun g => by cases g <;> rfl) rfl
  | error e => exact entered (fun g => by cases g <;> rfl) rfl

/-- So is that of a state. -/
theorem state (b : Bridge σ) (key : StateKey) : Within Told (b.state key) := by
  refine .keep ?_ fun _ _ => .of_same rfl rfl
  refine .bind (fun _ => .of_same rfl rfl) fun token => ?_
  refine .bind (fun _ => .of_same rfl rfl) fun _ => ?_
  refine .bind (fun _ => .of_same rfl rfl) fun id => ?_
  exact ending _ (fun g => by cases g <;> rfl) rfl

/-- A failure is counted and told of. -/
theorem observed {a : Action σ α} (h : Within Told a) (operation subject : String) :
    Within Told (Bridge.observed operation subject a) := by
  intro s
  have hs := h s
  rw [observed_apply]
  rcases ht : a s with ⟨r, t⟩
  rw [ht] at hs
  cases r with
  | ok x => exact hs
  | error e => exact trans_of Told hs (recorded (fun g => by cases g <;> rfl) rfl t)

/-- A new instance in native form is told, or its failure is. -/
theorem createInstance (b : Bridge σ) (target : Target α) (moduleName className : String)
    (arguments : List Value) :
    Within Told (b.createInstance target moduleName className arguments) := by
  refine observed ?_ _ _
  refine .bind (.lift _) fun _ => .bind (state b _) fun m => ?_
  refine .bind ((tolerates_told b).carries.newObject m _ arguments []) fun o => ?_
  refine .bind ((tolerates_told b).carries.coerceTo _ o target) fun x => ?_
  exact ending x (fun g => by cases g <;> rfl) rfl

/-- A new instance behind a proxy is told, or its failure is. -/
theorem instantiateProxy (b : Bridge σ) (key : InterfaceKey) (own : StateKey) (i : Interface)
    (arguments : List Value) (keywords : List (String × Value)) :
    Within Told (b.instantiateProxy key own i arguments keywords) := by
  rw [Bridge.instantiateProxy_eq]
  refine .bind (.lift _) fun binding => .bind (.lift _) fun _ => ?_
  refine .bind (proxyType b key i) fun type => .bind (state b _) fun m => ?_
  refine .bind ((tolerates_told b).carries.newObject m binding arguments keywords) fun o => ?_
  exact ending _ (fun g => by cases g <;> rfl) rfl

/-- So is a proxy for a native interface. -/
theorem createProxy (b : Bridge σ) (i : NativeInterface) (arguments : List Value)
    (keywords : List (String × Value)) : Within Told (b.createProxy i arguments keywords) :=
  observed (.bind (interface b _ _) fun kept => instantiateProxy b _ _ kept _ _) _ _

/-- So is a proxy for an interface of the run. -/
theorem createDynamicProxy (b : Bridge σ) (i : Interface) (arguments : List Value) :
    Within Told (b.createDynamicProxy i arguments) :=
  observed (.bind (interface b _ _) fun kept => instantiateProxy b _ _ kept _ _) _ _

/-- An object that is wrapped is told, or the failure is. -/
theorem wrap (b : Bridge σ) (i : NativeInterface) (object : ForeignObject) (m : ManagedState) :
    Within Told (b.wrap i object m) :=
  observed (.bind (interface b _ _) fun kept => .bind (proxyType b _ kept) fun _ => .pure _) _ _

/-- The release of all states is told. -/
theorem shutdown (b : Bridge σ) : Within Told (b.shutdown) := by
  intro s
  have hreleased : Told s { s with ledger := { s.ledger with states := .empty } } :=
    .of_same rfl rfl
  exact trans_of Told hreleased (entered (fun g => by cases g <;> rfl) rfl _)

end Told

/-! ## Calls that are passed on -/

namespace Dispatch

/-- The span around a call that is passed on. -/
def span (d : Dispatch) : CallSpan :=
  ⟨d.proxy.interfaceName, d.operation, d.foreignName, d.proxy.state.id⟩

/-- The notice of how a call that is passed on ends. -/
def outcome (d : Dispatch) : Except BridgeError Value → Notice
  | .ok _ => .callReturned
  | .error e => .callFailed d.proxy.interfaceName d.operation e

end Dispatch

/-- The trace of a call: its span with what happened in it and the outcome at the end. -/
def Dispatch.log (d : Dispatch) (body : List TraceEntry) (answer : Except BridgeError Value) :
    List TraceEntry :=
  .opened d.span :: .entered :: (body ++ [.notice (d.outcome answer), .left])

/-- A reader finds the span of a call with its outcome. -/
theorem Reading.follow_log (r : Reading) (d : Dispatch) (answer : Except BridgeError Value)
    {body : List TraceEntry} (hbody : Plain body) :
    r.follow (d.log body answer) = some (r.also [(d.span, d.outcome answer)]) := by
  have hadmits : d.span.admits (d.outcome answer) = true := by
    cases answer with
    | ok v => rfl
    | error e => simp [Dispatch.outcome, CallSpan.admits, Dispatch.span]
  have houtcome : (d.outcome answer).isOutcome = true := by cases answer <;> rfl
  have hanswered : next ⟨(d.span, .entered) :: r.unfinished, r.finished⟩
      (.notice (d.outcome answer)) =
        some ⟨(d.span, .answered (d.outcome answer)) :: r.unfinished, r.finished⟩ := by
    simp [next, houtcome, hadmits]
  rw [Dispatch.log, follow_cons _ rfl, follow_cons _ rfl, follow_append _ (hbody.follow _),
    follow_cons _ hanswered]
  rfl

/-- What the trace of a call stands for: the call, what happened in its span, and its failure. -/
theorem Dispatch.countP_log (d : Dispatch) (body : List TraceEntry)
    (answer : Except BridgeError Value) (g : Gauge) :
    (d.log body answer).countP g.heralds =
      (g == .calls).toNat + body.countP g.heralds + (g == .failures && !answer.isOk).toNat := by
  have hopened : g.heralds (.opened d.span) = (g == .calls) := by cases g <;> rfl
  have hentered : g.heralds .entered = false := rfl
  have houtcome : g.heralds (.notice (d.outcome answer)) = (g == .failures && !answer.isOk) := by
    cases answer <;> cases g <;> rfl
  have hleft : g.heralds .left = false := rfl
  simp only [Dispatch.log, List.countP_cons, List.countP_append, List.countP_nil, hopened,
    hentered, houtcome, hleft]
  cases g == .calls <;> cases g == .failures && !answer.isOk <;> simp <;> omega

namespace Bridge

/-- A call that is passed on is told of in its span, and counted once. -/
theorem forward_tells (b : Bridge σ) (d : Dispatch) (s : Session σ) :
    ∃ body, Plain body ∧
      Tells (d.log body (b.callObject d.proxy d.operation d.foreignName d.arguments s).1) s
        (b.forward d.proxy d.operation d.foreignName d.arguments s).2 := by
  set u := (s.entered (.opened d.span)).entered .entered
  have hsame : (b.callObject d.proxy d.operation d.foreignName d.arguments s).1 =
      (b.callObject d.proxy d.operation d.foreignName d.arguments u).1 :=
    b.callObject_outcome _ _ _ _ rfl rfl
  obtain ⟨body, hbody, htells⟩ :=
    (tolerates_told b).carries.callObject d.proxy d.operation d.foreignName d.arguments u
  refine ⟨body, hbody, ?_⟩
  rw [hsame]
  rcases h : b.callObject d.proxy d.operation d.foreignName d.arguments u with ⟨r, t⟩
  rw [h] at htells
  have htrace : t.trace = s.trace ++ .opened d.span :: .entered :: body := by
    rw [htells.trace]
    simp [u, Session.entered]
  have hcalls (g : Gauge) : g.read (b.timed s t).ledger.counters =
      g.read s.ledger.counters + .ofNat ((g == .calls).toNat + body.countP g.heralds) := by
    rw [timed, Session.counted_ledger, Gauge.read_record, htells.counters, UInt64.ofNat_add,
      UInt64.add_assoc, UInt64.add_comm (.ofNat (body.countP _))]
    rfl
  cases r with
  | ok v =>
      rw [b.forward_ok h]
      refine ⟨?_, fun g => ?_⟩
      · simp [Session.entered, timed, Session.counted, htrace, Dispatch.log, Dispatch.outcome]
      · rw [d.countP_log, Session.entered_ledger, Session.entered_ledger, hcalls]
        cases g <;> rfl
  | error e =>
      rw [b.forward_error h]
      refine ⟨?_, fun g => ?_⟩
      · simp [Session.entered, timed, Session.counted, htrace, Dispatch.log, Dispatch.outcome]
      · rw [d.countP_log, Session.entered_ledger, Session.entered_ledger, Session.counted_ledger,
          Gauge.read_record, hcalls, UInt64.add_assoc, ← UInt64.ofNat_add]
        cases g <;> rfl

/-- The span of the call that is passed on in a step, with the outcome of the method. -/
def spanOf (b : Bridge σ) (st : Step σ) : Option (CallSpan × Notice) :=
  st.call.dispatch?.map fun d =>
    (d.span,
      d.outcome (b.callObject d.proxy d.operation d.foreignName d.arguments st.before).1)

/-- A log of what happened between two sessions, in which a reader finds some spans. -/
def TellsOf (spans : List (CallSpan × Notice)) (s t : Session σ) : Prop :=
  ∃ log, Tells log s t ∧ ∀ r : Reading, r.follow log = some (r.also spans)

/-- What was told without the outcome of a call tells of no call. -/
theorem tellsOf_of_told {s t : Session σ} (h : Told s t) : TellsOf [] s t := by
  obtain ⟨log, hplain, htells⟩ := h
  refine ⟨log, htells, fun r => ?_⟩
  rw [hplain.follow, r.also_nil]

/-- A call that is forwarded tells of itself, with its outcome. -/
theorem forward_tellsOf (b : Bridge σ) (d : Dispatch) (s : Session σ) :
    TellsOf [(d.span,
      d.outcome (b.callObject d.proxy d.operation d.foreignName d.arguments s).1)] s
      (b.forward d.proxy d.operation d.foreignName d.arguments s).2 := by
  obtain ⟨body, hbody, htells⟩ := b.forward_tells d s
  exact ⟨_, htells, fun r => r.follow_log d _ hbody⟩

/-- The call of an operation is told of if it is passed on, whatever is then done with its
result. -/
theorem invoked_told (b : Bridge σ) (s : Session σ) {c : Call} {p : Proxy} {operation : String}
    {arguments : List Value}
    (hdispatch : c.dispatch? = (Command.invoke p operation arguments : Call).dispatch?)
    (h : (c.perform b s).2 = (b.invoke p operation arguments s).2) :
    TellsOf (b.spanOf (b.step s c)).toList s (b.step s c).after := by
  change TellsOf (c.dispatch?.map _).toList s (c.perform b s).2
  rw [h, hdispatch, Command.dispatch?]
  cases hroute : p.route operation arguments.length with
  | ok route =>
      rw [b.invoke_of_route hroute]
      exact b.forward_tellsOf ⟨p, operation, route.foreignName, arguments⟩ s
  | error e =>
      rw [b.invoke_of_no_route hroute s]
      exact tellsOf_of_told (refl_of Told s)

/-- Every call is told of as it is counted; in what it adds to the trace a reader finds the span
of the call if it was passed on, and no other. -/
theorem step_told (b : Bridge σ) (s : Session σ) (c : Call) :
    TellsOf (b.spanOf (b.step s c)).toList s (b.step s c).after := by
  cases c with
  | createInstance target moduleName className arguments =>
      exact tellsOf_of_told (Told.createInstance b target moduleName className arguments s)
  | createProxy i arguments keywords =>
      exact tellsOf_of_told (Told.createProxy b i arguments keywords s)
  | createDynamicProxy i arguments =>
      exact tellsOf_of_told (Told.createDynamicProxy b i arguments s)
  | wrap i object m => exact tellsOf_of_told (Told.wrap b i object m s)
  | invoke p operation arguments => exact b.invoked_told s rfl rfl
  | invokeAs p type operation arguments =>
      exact b.invoked_told s rfl (b.invokeAs_after p type operation arguments s)
  | invokeMethod p name arguments => exact b.forward_tellsOf ⟨p, name, name, arguments⟩ s
  | shutdown => exact tellsOf_of_told (Told.shutdown b s)

/-! ## Runs -/

/-- A run tells of its calls in their order. -/
theorem finish_told (b : Bridge σ) (s : Session σ) (calls : List Call) :
    TellsOf ((b.run s calls).filterMap b.spanOf) s (b.finish s calls) := by
  induction calls generalizing s with
  | nil => exact tellsOf_of_told (refl_of Told s)
  | cons c calls ih =>
      obtain ⟨log, htells, hlog⟩ := b.step_told s c
      obtain ⟨log', htells', hlog'⟩ := ih (b.step s c).after
      have hspans : (b.run s (c :: calls)).filterMap b.spanOf = (b.spanOf (b.step s c)).toList ++
          (b.run (b.step s c).after calls).filterMap b.spanOf := by
        rw [run, List.filterMap_cons]
        cases b.spanOf (b.step s c) <;> rfl
      refine ⟨log ++ log', htells.trans htells', fun r => ?_⟩
      rw [r.follow_append log' (hlog r), hlog', r.also_append _ _, hspans]

/-- After any run each counter is the number of the entries of the trace that stand for it.  All
spans of the trace are in order, and they are those of the calls that were passed on, one for
each, with the outcome of the call. -/
theorem trace_of_run (b : Bridge σ) (world : σ) (calls : List Call) :
    let s := b.finish (b.start world) calls
    (∀ g : Gauge, g.read s.ledger.counters = .ofNat (s.trace.countP g.heralds)) ∧
      Reading.empty.follow s.trace =
        some ⟨[], (b.run (b.start world) calls).filterMap b.spanOf⟩ := by
  intro s
  obtain ⟨log, htells, hlog⟩ := b.finish_told (b.start world) calls
  have hstart : Plain (b.start world).trace := .single rfl
  refine ⟨fun g => ?_, ?_⟩
  · have hnone : (b.start world).trace.countP g.heralds = 0 := by cases g <;> rfl
    have hzero : g.read (b.start world).ledger.counters = 0 := by cases g <;> rfl
    rw [htells.trace, List.countP_append, hnone, Nat.zero_add, htells.counters, hzero,
      UInt64.zero_add]
  · rw [htells.trace, Reading.follow_append _ (hstart.follow _), hlog]
    rfl

end Bridge

end ObjectBridge
