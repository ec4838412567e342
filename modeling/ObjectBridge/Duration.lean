import ObjectBridge.Number.Binary

/-!
# Durations

A span of time as whole seconds, a word of 64 bits, and the nanoseconds left
over.  Division works on the two parts and carries the rest of the seconds into
the nanoseconds.

Main results:

- Theorem `Duration.totalNanos_ofNanos`: every count of nanoseconds that a word
  holds is the total of its duration.
-/

namespace ObjectBridge

/-- The nanoseconds of one second. -/
def nanosPerSecond : Nat := 1000000000

/-- A span of time: whole seconds and the nanoseconds left over. -/
structure Duration where
  seconds : UInt64
  nanos : Nat
  nanos_lt : nanos < nanosPerSecond
deriving DecidableEq, Repr

namespace Duration

/-- The empty span. -/
def zero : Duration := ⟨0, 0, by decide⟩

/-- The span of whole seconds and further nanoseconds; full seconds among these are carried over. -/
def ofParts (seconds : UInt64) (nanos : Nat) : Duration :=
  ⟨seconds + (nanos / nanosPerSecond).toUInt64, nanos % nanosPerSecond,
    Nat.mod_lt _ (by decide)⟩

/-- The span of a number of nanoseconds. -/
def ofNanos (n : Nat) : Duration :=
  ⟨(n / nanosPerSecond).toUInt64, n % nanosPerSecond, Nat.mod_lt _ (by decide)⟩

/-- All nanoseconds of a span. -/
def totalNanos (d : Duration) : Nat :=
  d.seconds.toNat * nanosPerSecond + d.nanos

/-- The span between two moments, each given by the time since some start. -/
def since (later earlier : Duration) : Duration :=
  .ofNanos (later.totalNanos - earlier.totalNanos)

/-- One `n`-th of a span: seconds are divided first, and what they leave joins the nanoseconds. -/
def divide (d : Duration) (n : Nat) : Duration :=
  let seconds := d.seconds.toNat / n
  let carry := d.seconds.toNat % n
  ofParts seconds.toUInt64 (d.nanos / n + (carry * nanosPerSecond + d.nanos % n) / n)

/-- A unit in which spans are written: its nanoseconds and its sign. -/
structure TimeUnit where
  nanos : Nat
  sign : String

/-- The largest unit of which the span holds at least one; nanoseconds when there is none. -/
def unit (d : Duration) : TimeUnit :=
  if 0 < d.seconds.toNat then ⟨nanosPerSecond, "s"⟩
  else if 1000000 ≤ d.nanos then ⟨1000000, "ms"⟩
  else if 1000 ≤ d.nanos then ⟨1000, "µs"⟩
  else ⟨1, "ns"⟩

/-- Hundredths written with two places behind the point. -/
def hundredthsText (n : Nat) : String :=
  let fraction := toString (n % 100)
  toString (n / 100) ++ "." ++ (if fraction.length < 2 then "0" ++ fraction else fraction)

/-- A span in its unit with two places; a half goes to the even last digit, and rounding up never
changes the unit. -/
def text (d : Duration) : String :=
  let u := d.unit
  hundredthsText (roundHalfEven (d.totalNanos * 100) u.nanos) ++ u.sign

/-- As many nanoseconds as fit into a word are read back from the duration made of them. -/
theorem totalNanos_ofNanos {n : Nat} (h : n < UInt64.size) : (ofNanos n).totalNanos = n := by
  have hlt : n / nanosPerSecond < UInt64.size := Nat.lt_of_le_of_lt (Nat.div_le_self _ _) h
  simp only [totalNanos, ofNanos, Nat.toUInt64_eq]
  rw [UInt64.toNat_ofNat_of_lt' hlt, Nat.mul_comm]
  exact Nat.div_add_mod n nanosPerSecond

end Duration

end ObjectBridge
