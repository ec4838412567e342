import ObjectBridge.Proofs.Definitions
import ObjectBridge.Proofs.Recording

/-!
# Requests on the way to a class

A class is found by a chain of requests, each of which is made of the object that
the one before was answered with.  The chain breaks at the first request that is
refused, and the error names the part of the dotted name that was looked for then.

Main results:

- Definition `Follows`: the requests of a plan are made one after another.
- Theorem `Bridge.walk_traces`: the requests of a walk along names.
- Theorem `Bridge.requests_of_resolution`: the requests for a module and for a class
  in it, over any interpreter, and the names in their errors.
-/

namespace ObjectBridge

variable {σ : Type}

/-! ## Requests made one after another -/

/-- The answer to a request for an object. -/
def Exchange.objectAnswer? : Exchange → Option (Except ForeignError ForeignObject)
  | ⟨.builtin .., answer⟩ | ⟨.call .., answer⟩ | ⟨.getAttribute .., answer⟩
  | ⟨.toForeign .., answer⟩ => some answer
  | _ => none

/-- A plan of requests, each made of the object that the one before is answered with. -/
abbrev Plan := List (ForeignObject → Request)

/-- The requests of a plan are made one after another, the first of them of a given object.  The
first refusal is the end; otherwise the last answer is. -/
inductive Follows :
    ForeignObject → Plan → List Exchange → Except ForeignError ForeignObject → Prop where
  | done (o : ForeignObject) : Follows o [] [] (.ok o)
  | refused {o : ForeignObject} {request : ForeignObject → Request} {plan : Plan} {x : Exchange}
      {e : ForeignError} (asked : x.request = request o)
      (answered : x.objectAnswer? = some (.error e)) :
      Follows o (request :: plan) [x] (.error e)
  | granted {o next : ForeignObject} {request : ForeignObject → Request} {plan : Plan}
      {x : Exchange} {log : List Exchange} {answer : Except ForeignError ForeignObject}
      (asked : x.request = request o) (answered : x.objectAnswer? = some (.ok next))
      (rest : Follows next plan log answer) : Follows o (request :: plan) (x :: log) answer

/-- At least one request was made before a refusal, and no more than were planned. -/
theorem Follows.length_of_refused {o : ForeignObject} {plan : Plan} {log : List Exchange}
    {e : ForeignError} (h : Follows o plan log (.error e)) :
    0 < log.length ∧ log.length ≤ plan.length := by
  generalize hanswer : Except.error e = answer at h
  induction h with
  | done => cases hanswer
  | refused => exact ⟨Nat.zero_lt_one, Nat.le_add_left 1 _⟩
  | granted _ _ _ ih => exact ⟨Nat.succ_pos _, Nat.succ_le_succ (ih hanswer).2⟩

/-! ## Actions that follow a plan -/

namespace Bridge

/-- A watched action makes one request for an object. -/
def Asks (r : Request) (failure : ForeignError → BridgeError)
    (a : Action (Recorded σ) ForeignObject) (s : Session (Recorded σ)) : Prop :=
  ∃ x answer world, x.request = r ∧ x.objectAnswer? = some answer ∧
    a s = (answer.mapError failure, s.moved ⟨world, s.world.log ++ [x]⟩)

/-- A watched action follows a plan.  When a request is refused, the error names what is missing
after that number of requests. -/
def Traces (start : ForeignObject) (plan : Plan) (missing : Nat → String)
    (a : Action (Recorded σ) ForeignObject) (s : Session (Recorded σ)) : Prop :=
  ∃ log answer, (a s).2.world.log = s.world.log ++ log ∧ Follows start plan log answer ∧
    (a s).1 = answer.mapError (notFound (missing log.length))

variable {b : Bridge σ} {s : Session (Recorded σ)} {o : ForeignObject} {plan : Plan}
  {missing : Nat → String}

/-- A request is made before the other ones of a plan. -/
theorem Traces.cons {request : ForeignObject → Request} {a : Action (Recorded σ) ForeignObject}
    {f : ForeignObject → Action (Recorded σ) ForeignObject}
    (ha : Asks (request o) (notFound (missing 1)) a s)
    (hf : ∀ next t, Traces next plan (fun n => missing (n + 1)) (f next) t) :
    Traces o (request :: plan) missing (a >>= f) s := by
  obtain ⟨x, answer, world, hasked, hanswered, happly⟩ := ha
  cases answer with
  | error e =>
      rw [Traces, bind_apply_error happly]
      exact ⟨[x], .error e, rfl, .refused hasked hanswered, rfl⟩
  | ok next =>
      rw [Traces, bind_apply_ok happly]
      obtain ⟨log, answer, hlog, hfollows, houtcome⟩ :=
        hf next (s.moved ⟨world, s.world.log ++ [x]⟩)
      refine ⟨x :: log, answer, ?_, .granted hasked hanswered hfollows, houtcome⟩
      rw [hlog, Session.moved_world, List.append_assoc, List.singleton_append]

/-- What leaves notices only does not take part. -/
theorem Traces.noted {a : Action (Recorded σ) ForeignObject} (ha : Traces o plan missing a s)
    (notice : Notice) :
    Traces o plan missing (do let x ← a; note notice; return x) s := by
  obtain ⟨log, answer, hlog, hfollows, houtcome⟩ := ha
  rcases happly : a s with ⟨r, t⟩
  rw [happly] at hlog houtcome
  cases r with
  | ok x =>
      rw [Traces, bind_apply_ok happly]
      exact ⟨log, answer, hlog, hfollows, houtcome⟩
  | error e =>
      rw [Traces, bind_apply_error happly]
      exact ⟨log, answer, hlog, hfollows, houtcome⟩

/-- Only what is missing after some request matters. -/
theorem Traces.congr {missing' : Nat → String} {a : Action (Recorded σ) ForeignObject}
    (ha : Traces o plan missing a s) (hmissing : ∀ n, missing (n + 1) = missing' (n + 1)) :
    Traces o plan missing' a s := by
  obtain ⟨log, answer, hlog, hfollows, houtcome⟩ := ha
  refine ⟨log, answer, hlog, hfollows, houtcome.trans ?_⟩
  cases answer with
  | ok o => rfl
  | error e =>
      obtain ⟨n, hn⟩ := Nat.exists_eq_add_one.mpr hfollows.length_of_refused.1
      rw [hn, hmissing]

/-! ## The way to a class -/

/-- The requests that read names one after another. -/
def attributePlan (token : StateToken) (names : List String) : Plan :=
  names.map fun name o => .getAttribute token o name

/-- The requests for a module: its whole name becomes an object, which the importer is called with,
and then all segments but the first are read. -/
def modulePlan (token : StateToken) (importer : ForeignObject) (name : String) : Plan :=
  (fun _ => .toForeign token (.str name)) ::
    (fun argument => .call token importer ⟨[argument], []⟩) ::
    attributePlan token (Text.textSegments '.' name).tail

/-- A walk reads its names in order and misses the path up to the first that cannot be read. -/
theorem walk_traces (m : ManagedState) (names : List String) {path : List String}
    (hpath : path ≠ []) :
    Traces o (attributePlan m.token names) (fun n => dotted (path ++ names.take n))
      (b.recorded.walk m o (dotted path) names) s := by
  induction names generalizing path o s with
  | nil => exact ⟨[], .ok o, (List.append_nil _).symm, .done o, rfl⟩
  | cons name names ih =>
      rw [walk, ← dotted_concat hpath]
      refine .cons ⟨⟨_, _⟩, _, _, rfl, rfl, rfl⟩ fun next t => ?_
      refine (ih (List.concat_ne_nil name path)).congr fun n => ?_
      rw [List.take_succ_cons, List.append_assoc, List.singleton_append]

/-- What is missing after a number of requests for a module: its whole name after the first two, and
then the path up to the segment that was read. -/
def missingModule (name : String) (requests : Nat) : String :=
  if requests ≤ 2 then name else dotted ((Text.textSegments '.' name).take (requests - 1))

theorem resolveModule_traces (m : ManagedState) (importer : ForeignObject) (name : String) :
    Traces importer (modulePlan m.token importer name) (missingModule name)
      (b.recorded.resolveModule m importer name) s := by
  obtain ⟨root, names, hsegments⟩ := List.exists_cons_of_ne_nil (textSegments_ne_nil name)
  rw [resolveModule, modulePlan]
  refine .cons ⟨⟨_, _⟩, _, _, rfl, rfl, rfl⟩ fun argument t => ?_
  refine .cons ⟨⟨_, _⟩, _, _, rfl, rfl, rfl⟩ fun package u => .noted ?_ _
  have hwalk := walk_traces (b := b) (s := u) (o := package) m names (List.cons_ne_nil root [])
  rw [hsegments, List.headD_cons, List.tail_cons]
  refine hwalk.congr fun n => ?_
  simp [missingModule, hsegments]

/-- What is missing after a number of requests is the module, or what stands before one of its
dots. -/
theorem missingModule_boundary (name : String) (requests : Nat) :
    missingModule name requests = name ∨
      ∃ rest, name = missingModule name requests ++ "." ++ rest := by
  rw [missingModule]
  split
  · exact .inl rfl
  rename_i hrequests
  have hsegments := List.take_append_drop (requests - 1) (Text.textSegments '.' name)
  have hname := dotted_textSegments name
  cases hrest : (Text.textSegments '.' name).drop (requests - 1) with
  | nil =>
      rw [hrest, List.append_nil] at hsegments
      rw [hsegments]
      exact .inl hname
  | cons next rest =>
      have htake : (Text.textSegments '.' name).take (requests - 1) ≠ [] := by
        simp [List.take_eq_nil_iff, textSegments_ne_nil]
        omega
      refine .inr ⟨dotted (next :: rest), ?_⟩
      rw [← dotted_append htake (List.cons_ne_nil next rest), ← hrest, hsegments, hname]

/-- Classes found by two bridges one of which projects to the other are the same. -/
theorem projection_class {τ : Type} {b : Bridge σ} {i : Interpreter τ} {f : τ → σ}
    {k : Counters → Counters → Prop} {s : Session σ} {t : Session τ}
    (h : i.Extends b.interpreter f) (hk : Counters.Keeps k) {c c' : ResolvedClass}
    (hc : (Lockstep.projection h hk).Class s t c c') : c = c' := by
  obtain ⟨hname, hcallable⟩ := hc
  cases c
  cases c'
  cases hname
  cases hcallable
  rfl

/-- Watching changes no outcome of the way to a class. -/
theorem resolution_recorded (b : Bridge σ) (m : ManagedState) (importer : ForeignObject)
    (moduleName className : String) (s : Session σ) :
    (b.recorded.resolveModule m importer moduleName s.recorded).1 =
        (b.resolveModule m importer moduleName s).1 ∧
      (b.recorded.resolveClass m importer moduleName className s.recorded).1 =
        (b.resolveClass m importer moduleName className s).1 := by
  have hextends := b.interpreter.recorded_extends
  have hst : (Coupling.projection Recorded.world Eq).rel s s.recorded := ⟨rfl, .refl s.ledger⟩
  let L := Lockstep.projection hextends Counters.keeps_eq
  have hmodule := L.resolveModule (m := m) (o := importer) moduleName hst rfl rfl
  have hclass := L.resolveClass (m := m) (o := importer) moduleName className hst rfl rfl
  exact ⟨hmodule.agree.eq.symm,
    (hclass.agree.mono (projection_class hextends Counters.keeps_eq)).eq.symm⟩

/-- A class is found by the requests of its module, in order and each made of the answer to the one
before, up to the first that is refused, and then by one for the class.  If one is refused, the
error names the whole module when it could not be imported, the path up to the segment that could
not be read, which ends before a dot or at the end of the module, or the class in its module. -/
theorem requests_of_resolution (b : Bridge σ) (m : ManagedState) (importer : ForeignObject)
    (moduleName className : String) (s : Session σ) :
    let segments := Text.textSegments '.' moduleName
    let module := b.recorded.resolveModule m importer moduleName s.recorded
    let found := b.recorded.resolveClass m importer moduleName className s.recorded
    let log := module.2.world.log
    (module.1 = (b.resolveModule m importer moduleName s).1 ∧
      found.1 = (b.resolveClass m importer moduleName className s).1) ∧
    (∃ answer, Follows importer (modulePlan m.token importer moduleName) log answer ∧
      (∀ o, answer = .ok o → module.1 = .ok o) ∧
      ∀ cause, answer = .error cause →
        ∃ target, module.1 = .error (.lookup target (.raised cause)) ∧
        (log.length ≤ 2 → target = moduleName) ∧
        (∀ i, 0 < i → log.length = i + 2 → target = dotted (segments.take (i + 1))) ∧
        (target = moduleName ∨ ∃ rest, moduleName = target ++ "." ++ rest)) ∧
    (∀ err, module.1 = .error err → found.1 = .error err ∧ found.2.world.log = log) ∧
    ∀ o, module.1 = .ok o → ∃ x answer, found.2.world.log = log ++ [x] ∧
      x.request = .getAttribute m.token o className ∧ x.objectAnswer? = some answer ∧
      (∀ callable, answer = .ok callable →
        found.1 = .ok ⟨moduleName ++ "." ++ className, callable⟩) ∧
      ∀ cause, answer = .error cause →
        found.1 = .error (.lookup (moduleName ++ "." ++ className) (.raised cause)) := by
  intro segments module found log
  refine ⟨b.resolution_recorded m importer moduleName className s, ?_, fun err herr => ?_,
    fun o ho => ?_⟩
  · obtain ⟨made, answer, hlog, hfollows, houtcome⟩ :=
      resolveModule_traces (b := b) (s := s.recorded) m importer moduleName
    obtain rfl : log = made := hlog
    refine ⟨answer, hfollows, ?_, ?_⟩
    · rintro o rfl
      exact houtcome
    · rintro cause rfl
      refine ⟨missingModule moduleName log.length, houtcome, fun hlength => ?_,
        fun i hi hlength => ?_, missingModule_boundary _ _⟩
      · exact if_pos hlength
      · rw [missingModule, if_neg (by omega), hlength]
        rfl
  · have hstops : found = (.error err, module.2) := bind_apply_error (Prod.ext herr rfl)
    rw [hstops]
    exact ⟨rfl, rfl⟩
  · have hmodule : module = (.ok o, module.2) := Prod.ext ho rfl
    obtain ⟨x, answer, world, hasked, hanswered, happly⟩ : Asks
        (.getAttribute m.token o className) (notFound (moduleName ++ "." ++ className))
        (b.recorded.ask (.getAttribute m.token o className) _) module.2 :=
      ⟨⟨_, _⟩, _, _, rfl, rfl, rfl⟩
    cases answer with
    | ok callable =>
        have hfound : found = (.ok ⟨moduleName ++ "." ++ className, callable⟩, _) :=
          (bind_apply_ok hmodule).trans (bind_apply_ok happly)
        refine ⟨x, .ok callable, by rw [hfound]; rfl, hasked, hanswered, ?_, nofun⟩
        rintro _ ⟨⟩
        rw [hfound]
    | error cause =>
        have hfound : found = (.error (.lookup _ (.raised cause)), _) :=
          (bind_apply_ok hmodule).trans (bind_apply_error happly)
        refine ⟨x, .error cause, by rw [hfound]; rfl, hasked, hanswered, nofun, ?_⟩
        rintro _ ⟨⟩
        rw [hfound]

end Bridge

end ObjectBridge
