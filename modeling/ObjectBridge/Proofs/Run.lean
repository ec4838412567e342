import ObjectBridge.Bridge.Creation

/-!
# Runs

A user calls a bridge and the proxies it returned, one call after another.  Calls
are data; a step of a run is a call with the sessions before and after it and its
outcome.  A run goes on after a call that failed.

Main results:

- Definitions `Command.perform`, `Bridge.run` and `Bridge.finish`: what a call
  does, the steps of a sequence of calls and the session at its end.
- Theorem `Bridge.mem_run_iff`: each step of a run is taken from the session that
  the calls before it lead to.
-/

namespace ObjectBridge

variable {σ : Type}

/-! ## Calls -/

/-- A call on a bridge or on a proxy.  How a call refers to proxies and to the state of a wrapped
object is a parameter. -/
inductive Command (π ς : Type) : Type 1 where
  | createInstance {α : Type} (target : Target α) (moduleName className : String)
      (arguments : List Value)
  | createProxy (i : NativeInterface) (arguments : List Value) (keywords : List (String × Value))
  | createDynamicProxy (i : Interface) (arguments : List Value)
  | wrap (i : NativeInterface) (object : ForeignObject) (state : ς)
  | invoke (proxy : π) (operation : String) (arguments : List Value)
  | invokeAs (proxy : π) (type : NativeType) (operation : String) (arguments : List Value)
  | invokeMethod (proxy : π) (name : String) (arguments : List Value)
  | shutdown

/-- A call that holds the proxy it is made on. -/
abbrev Call := Command Proxy ManagedState

namespace Command

variable {π ς : Type}

/-- What a call returns when it succeeds. -/
def Result : Command π ς → Type
  | @createInstance _ _ α .. => α
  | createProxy .. | createDynamicProxy .. | wrap .. => Proxy
  | invoke .. | invokeMethod .. => Value
  | invokeAs _ type .. => type.Carrier
  | shutdown => Unit

/-- Whether a call makes a new object. -/
def creates : Command π ς → Bool
  | createInstance .. | createProxy .. | createDynamicProxy .. => true
  | _ => false

/-- Whether a call makes a new object or a proxy for an object that is already there. -/
def builds : Command π ς → Bool
  | wrap .. => true
  | c => c.creates

/-- The interface that is submitted by a call, with the key it is submitted under. -/
def submission? : Command π ς → Option (InterfaceKey × Interface)
  | createProxy i .. | wrap i .. => some (.type i.type, i.interface)
  | createDynamicProxy i _ => some (.named i.name, i)
  | _ => none

/-- The action of a call. -/
def perform (b : Bridge σ) : (c : Call) → Action σ c.Result
  | createInstance target moduleName className arguments =>
    b.createInstance target moduleName className arguments
  | createProxy i arguments keywords => b.createProxy i arguments keywords
  | createDynamicProxy i arguments => b.createDynamicProxy i arguments
  | wrap i object state => b.wrap i object state
  | invoke p operation arguments => b.invoke p operation arguments
  | invokeAs p type operation arguments => b.invokeAs p type operation arguments
  | invokeMethod p name arguments => b.invokeMethod p name arguments
  | shutdown => b.shutdown

end Command

/-! ## Calls that are passed on -/

/-- A call of a method that is passed on to the object of a proxy. -/
structure Dispatch where
  proxy : Proxy
  operation : String
  foreignName : String
  arguments : List Value

namespace Command

/-- The call of a method that a call is passed on as.  An operation without a route, or with
another number of arguments, is not passed on. -/
def dispatch? : Call → Option Dispatch
  | invoke p operation arguments | invokeAs p _ operation arguments =>
    match p.route operation arguments.length with
    | .ok route => some ⟨p, operation, route.foreignName, arguments⟩
    | .error _ => none
  | invokeMethod p name arguments => some ⟨p, name, name, arguments⟩
  | _ => none

/-- Whether a call is one of an operation that the dispatch table rejects. -/
def isRejected : Call → Bool
  | invoke p operation arguments | invokeAs p _ operation arguments =>
    !(p.route operation arguments.length).isOk
  | _ => false

end Command

/-! ## Steps and runs -/

/-- A step of a run. -/
structure Step (σ : Type) : Type 1 where
  call : Call
  before : Session σ
  outcome : Except BridgeError call.Result
  after : Session σ

/-- The proxy that a step returns. -/
def Step.proxy? : Step σ → Option Proxy
  | ⟨.createProxy .., _, .ok p, _⟩ | ⟨.createDynamicProxy .., _, .ok p, _⟩
  | ⟨.wrap .., _, .ok p, _⟩ => some p
  | _ => none

namespace Bridge

/-- The step of a call. -/
def step (b : Bridge σ) (s : Session σ) (c : Call) : Step σ :=
  ⟨c, s, (c.perform b s).1, (c.perform b s).2⟩

/-- The steps of a sequence of calls. -/
def run (b : Bridge σ) : Session σ → List Call → List (Step σ)
  | _, [] => []
  | s, c :: calls => b.step s c :: b.run (b.step s c).after calls

/-- The session after a sequence of calls. -/
def finish (b : Bridge σ) : Session σ → List Call → Session σ
  | s, [] => s
  | s, c :: calls => b.finish (b.step s c).after calls

theorem finish_append (b : Bridge σ) (s : Session σ) (first second : List Call) :
    b.finish s (first ++ second) = b.finish (b.finish s first) second := by
  induction first generalizing s with
  | nil => rfl
  | cons c first ih => simp only [List.cons_append, finish, ih]

/-- A step of a run is taken after the calls before it. -/
theorem mem_run_iff {b : Bridge σ} {s : Session σ} {calls : List Call} {st : Step σ} :
    st ∈ b.run s calls ↔
      ∃ first c rest, calls = first ++ c :: rest ∧ st = b.step (b.finish s first) c := by
  induction calls generalizing s with
  | nil => simp [run]
  | cons c calls ih =>
      simp only [run, List.mem_cons, ih]
      constructor
      · rintro (rfl | ⟨first, d, rest, rfl, rfl⟩)
        · exact ⟨[], c, calls, rfl, rfl⟩
        · exact ⟨c :: first, d, rest, rfl, rfl⟩
      · rintro ⟨first, d, rest, heq, rfl⟩
        cases first with
        | nil =>
            cases heq
            exact .inl rfl
        | cons c' first =>
            cases heq
            exact .inr ⟨first, d, rest, rfl, rfl⟩

/-- What every step keeps, every run keeps. -/
theorem finish_induction {b : Bridge σ} {I : Session σ → Prop}
    (hstep : ∀ s c, I s → I (b.step s c).after) (s : Session σ) (calls : List Call) (hs : I s) :
    I (b.finish s calls) := by
  induction calls generalizing s with
  | nil => exact hs
  | cons c calls ih => exact ih _ (hstep s c hs)

end Bridge

end ObjectBridge
