import ObjectBridge.Duration

/-!
# Counters

The counters of a bridge are words of 64 bits that wrap around.  A snapshot of
them gives the mean time of a forwarded call and a report for a reader.

Main results:

- Definition `Snapshot.meanDispatch`: the mean, by dividing a duration when the
  count fits into 32 bits and by dividing all nanoseconds when it does not.
- Theorem `Counters.run_append`: records are taken one after another.
-/

namespace ObjectBridge

/-- The running counts of a bridge, and the nanoseconds spent in forwarded calls. -/
structure Counters where
  statesCreated : UInt64
  instancesCreated : UInt64
  proxyTypesGenerated : UInt64
  callsDispatched : UInt64
  failures : UInt64
  dispatchNanos : UInt64
deriving DecidableEq, Repr

/-- An event that is counted. -/
inductive Tally where
  | stateCreated
  | instanceCreated
  | proxyTypeGenerated
  | callDispatched (elapsed : Duration)
  | failed
deriving DecidableEq, Repr

/-- The counters at one moment, with the time the bridge has been up. -/
structure Snapshot where
  uptime : Duration
  statesCreated : UInt64
  instancesCreated : UInt64
  proxyTypesGenerated : UInt64
  callsDispatched : UInt64
  failures : UInt64
  dispatchTime : Duration
deriving DecidableEq, Repr

namespace Counters

/-- The counters of a new bridge. -/
def zero : Counters := ⟨0, 0, 0, 0, 0, 0⟩

/-- The nanoseconds of a call as they are added up: at most what a word holds. -/
def cappedNanos (elapsed : Duration) : UInt64 :=
  (min elapsed.totalNanos (UInt64.size - 1)).toUInt64

/-- The counters after one more event. -/
def record (c : Counters) : Tally → Counters
  | .stateCreated => { c with statesCreated := c.statesCreated + 1 }
  | .instanceCreated => { c with instancesCreated := c.instancesCreated + 1 }
  | .proxyTypeGenerated => { c with proxyTypesGenerated := c.proxyTypesGenerated + 1 }
  | .callDispatched elapsed =>
    { c with
      callsDispatched := c.callsDispatched + 1
      dispatchNanos := c.dispatchNanos + cappedNanos elapsed }
  | .failed => { c with failures := c.failures + 1 }

/-- The counters after a sequence of events. -/
def run (c : Counters) (events : List Tally) : Counters :=
  events.foldl record c

/-- The counters as they are read after some uptime. -/
def snapshot (c : Counters) (uptime : Duration) : Snapshot where
  uptime := uptime
  statesCreated := c.statesCreated
  instancesCreated := c.instancesCreated
  proxyTypesGenerated := c.proxyTypesGenerated
  callsDispatched := c.callsDispatched
  failures := c.failures
  dispatchTime := .ofNanos c.dispatchNanos.toNat

/-- Two runs one after the other are one run. -/
theorem run_append (c : Counters) (first second : List Tally) :
    c.run (first ++ second) = (c.run first).run second :=
  List.foldl_append

end Counters

namespace Snapshot

/-- The mean time of a forwarded call. -/
def meanDispatch (s : Snapshot) : Duration :=
  let calls := s.callsDispatched.toNat
  if calls < UInt32.size then
    if calls = 0 then .zero else s.dispatchTime.divide calls
  else
    .ofNanos (s.dispatchTime.totalNanos / calls).toUInt64.toNat

/-- The counters as a report of several lines. -/
def report (s : Snapshot) : String :=
  "\n".intercalate
    [s!"Uptime: {s.uptime.text}",
      "",
      "=== Counters ===",
      s!"states_created: {s.statesCreated.toNat}",
      s!"instances_created: {s.instancesCreated.toNat}",
      s!"proxy_types_generated: {s.proxyTypesGenerated.toNat}",
      s!"calls_dispatched: {s.callsDispatched.toNat}",
      s!"failures: {s.failures.toNat}",
      "",
      "=== Dispatch ===",
      s!"total: {s.dispatchTime.text}",
      s!"mean:  {s.meanDispatch.text}"]

end Snapshot

end ObjectBridge
