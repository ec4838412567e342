/-!
# Caches

A cache keeps what was once made for a key.  Nothing in it is ever replaced; a
cache is only emptied as a whole.  A value is fetched in two steps: a lookup, and
after a miss an entry step, which looks again before it creates anything.

Main results:

- Definition `Cache.fetch`: the value of a key, made on its first use.
- Theorem `Cache.find?_add`: adding changes the value at its own key only, and
  not where there is one already.
-/

namespace ObjectBridge

/-- What was made so far, in the order of its making, under its keys. -/
structure Cache (κ α : Type) where
  entries : List (κ × α)
deriving Repr

namespace Cache

variable {κ α σ : Type} {m : Type → Type}

/-- The cache before anything is made. -/
def empty : Cache κ α := ⟨[]⟩

/-- The number of values kept. -/
def size (c : Cache κ α) : Nat :=
  c.entries.length

/-- The value kept under a key. -/
def find? [DecidableEq κ] (c : Cache κ α) (key : κ) : Option α :=
  (c.entries.find? fun entry => entry.1 = key).map Prod.snd

/-- The cache with one more value. -/
def add (c : Cache κ α) (key : κ) (value : α) : Cache κ α :=
  ⟨c.entries ++ [(key, value)]⟩

/-- Where a cache lies in a larger state. -/
structure Place (σ κ α : Type) where
  read : σ → Cache κ α
  write : Cache κ α → σ → σ

/-- The entry step: the value that is there by now, or a new one, which is kept unless making it
fails. -/
def enter [DecidableEq κ] [Monad m] [MonadStateOf σ m] (place : Place σ κ α) (key : κ)
    (create : m α) : m α := do
  match (place.read (← getThe σ)).find? key with
  | some value => pure value
  | none =>
    let value ← create
    modifyThe σ fun s => place.write ((place.read s).add key value) s
    pure value

/-- The value of a key, made on its first use. -/
def fetch [DecidableEq κ] [Monad m] [MonadStateOf σ m] (place : Place σ κ α) (key : κ)
    (create : m α) : m α := do
  match (place.read (← getThe σ)).find? key with
  | some value => pure value
  | none => enter place key create

/-- A value that is added is found under its key, unless there was one under it before. -/
theorem find?_add [DecidableEq κ] (c : Cache κ α) (key other : κ) (value : α) :
    (c.add key value).find? other =
      ((c.find? other).or (if key = other then some value else none)) := by
  simp only [find?, add, List.find?_append]
  cases c.entries.find? fun entry => entry.1 = other <;>
    by_cases h : key = other <;> simp [h]

/-- A cache grows by one with every value. -/
@[simp] theorem size_add (c : Cache κ α) (key : κ) (value : α) :
    (c.add key value).size = c.size + 1 := by
  simp [size, add]

end Cache

end ObjectBridge
