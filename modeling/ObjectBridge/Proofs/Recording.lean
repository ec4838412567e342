import ObjectBridge.Proofs.Projection

/-!
# Recordings of requests

An interpreter can be watched: every request is written down with its answer, and
answered as before.  A bridge over the watched interpreter does what it did, so
the record shows which requests a call makes and how each was answered.

Main results:

- Definition `Bridge.exchanges`: the requests of a call with their answers.
- Theorem `Bridge.recorded_perform`: watching changes neither the outcome of a
  call nor what it leaves.
-/

namespace ObjectBridge

variable {σ : Type}

/-- A request with its answer. -/
structure Exchange where
  request : Request
  answer : Except ForeignError request.Answer

namespace Exchange

/-- The primitive that was asked for. -/
def primitive (x : Exchange) : Primitive :=
  x.request.primitive

/-- Whether the request was granted. -/
def granted (x : Exchange) : Bool :=
  x.answer.isOk

end Exchange

/-- A world with the record of all requests made in it. -/
structure Recorded (σ : Type) where
  world : σ
  log : List Exchange

/-- The interpreter with a record of its requests. -/
def Interpreter.recorded (i : Interpreter σ) : Interpreter (Recorded σ) where
  name := i.name
  perform r w :=
    let (answer, world) := i.perform r w.world
    (answer, ⟨world, w.log ++ [⟨r, answer⟩]⟩)
  clock w := i.clock w.world

theorem Interpreter.recorded_extends (i : Interpreter σ) :
    i.recorded.Extends i Recorded.world :=
  ⟨fun _ _ => rfl, fun _ _ => rfl, fun _ => rfl⟩

/-- A session with an empty record. -/
def Session.recorded (s : Session σ) : Session (Recorded σ) :=
  ⟨⟨s.world, []⟩, s.ledger, s.trace⟩

namespace Bridge

/-- The bridge over the watched interpreter. -/
def recorded (b : Bridge σ) : Bridge (Recorded σ) :=
  b.over b.interpreter.recorded

/-- The requests of a call with their answers, in order. -/
def exchanges (b : Bridge σ) (s : Session σ) (c : Call) : List Exchange :=
  (c.perform b.recorded s.recorded).2.world.log

/-- Watching changes neither the outcome of a call nor the world and the ledger it leaves. -/
theorem recorded_perform (b : Bridge σ) (s : Session σ) (c : Call) :
    (c.perform b.recorded s.recorded).1 = (c.perform b s).1 ∧
      (c.perform b.recorded s.recorded).2.world.world = (c.perform b s).2.world ∧
      (c.perform b.recorded s.recorded).2.ledger = (c.perform b s).2.ledger := by
  have h := Lockstep.projection_perform (b := b) (s := s) (t := s.recorded)
    b.interpreter.recorded_extends Counters.keeps_eq ⟨rfl, .refl s.ledger⟩ c
  exact ⟨h.agree.eq.symm, h.rel.1.symm, h.rel.2.eq.symm⟩

end Bridge

end ObjectBridge
