import Mathlib.Algebra.Order.BigOperators.Group.List
import Mathlib.Algebra.Order.Ring.Nat
import Mathlib.Data.List.Perm.Basic
import ObjectBridge.Counters

/-!
# Snapshots and the mean time of a call

The mean of a snapshot is the floor of all nanoseconds divided by the calls, in both of the ways
in which it is computed.  The counters add up what is recorded, so their snapshot does not depend
on the order of the records, and as long as no word wraps around its mean is the mean of the calls.

Main results:

- Theorem `Duration.totalNanos_divide`: division by parts is division of all nanoseconds.
- Theorem `Snapshot.checkedMean_eq`: the mean is computed without a division by zero and without
  a loss in the last narrowing.
- Theorem `Counters.run_perm`: the order of records does not matter.
- Theorem `Counters.snapshot_of_records`: the means of all snapshots, and the snapshots of all
  records.
- Theorem `Counters.mean_beyond_longest`: a mean longer than every call, where the count of calls
  has wrapped around.
-/

namespace ObjectBridge

/-! ## Division of durations -/

namespace Duration

variable {d d' : Duration} {n : Nat}

/-- A duration is determined by its nanoseconds. -/
theorem eq_of_totalNanos (h : d.totalNanos = d'.totalNanos) : d = d' := by
  obtain ⟨seconds, nanos, hnanos⟩ := d
  obtain ⟨seconds', nanos', hnanos'⟩ := d'
  simp only [totalNanos, nanosPerSecond] at h hnanos hnanos'
  have hseconds : seconds = seconds' := UInt64.toNat_inj.mp (by omega)
  have hrest : nanos = nanos' := by omega
  subst hseconds hrest
  rfl

/-- Where the nanoseconds are less than a second, nothing is carried over. -/
theorem totalNanos_ofParts {seconds : UInt64} {nanos : Nat} (h : nanos < nanosPerSecond) :
    (ofParts seconds nanos).totalNanos = seconds.toNat * nanosPerSecond + nanos := by
  have hcarry : (nanos / nanosPerSecond).toUInt64 = 0 := by
    rw [Nat.div_eq_of_lt h]
    rfl
  simp only [totalNanos, ofParts, hcarry, UInt64.add_zero, Nat.mod_eq_of_lt h]

/-- Dividing the two parts, with the rest of the seconds carried into the nanoseconds, divides all
nanoseconds. -/
theorem totalNanos_divide (d : Duration) (hn : 0 < n) :
    (d.divide n).totalNanos = d.totalNanos / n := by
  have hlt := d.nanos_lt
  rw [divide, totalNanos.eq_1 d]
  generalize hs : d.seconds.toNat = s
  have hword : s < UInt64.size := hs ▸ d.seconds.toNat_lt
  have hnanos : d.nanos / n + (s % n * nanosPerSecond + d.nanos % n) / n =
      (s % n * nanosPerSecond + d.nanos) / n := by
    rw [Nat.add_comm, ← Nat.add_mul_div_left _ _ hn, Nat.add_assoc, Nat.mod_add_div]
  have hless : (s % n * nanosPerSecond + d.nanos) / n < nanosPerSecond := by
    refine Nat.div_lt_of_lt_mul ?_
    calc s % n * nanosPerSecond + d.nanos
        < s % n * nanosPerSecond + nanosPerSecond := Nat.add_lt_add_left hlt _
      _ = (s % n + 1) * nanosPerSecond := (Nat.succ_mul _ _).symm
      _ ≤ n * nanosPerSecond := Nat.mul_le_mul_right _ (Nat.mod_lt s hn)
  have hquotient : (s / n).toUInt64.toNat = s / n := by
    rw [Nat.toUInt64_eq]
    exact UInt64.toNat_ofNat_of_lt' (Nat.lt_of_le_of_lt (Nat.div_le_self s n) hword)
  have hparts : s * nanosPerSecond + d.nanos =
      s % n * nanosPerSecond + d.nanos + n * (s / n * nanosPerSecond) := by
    conv => lhs; rw [← Nat.mod_add_div s n]
    rw [Nat.add_mul, Nat.mul_assoc, Nat.add_right_comm]
  rw [hnanos, totalNanos_ofParts hless, hquotient, hparts, Nat.add_mul_div_left _ _ hn,
    Nat.add_comm]

/-- A quotient that fits into a word is the same whichever way it is computed. -/
theorem divide_eq_ofNanos (hn : 0 < n) (h : d.totalNanos / n < UInt64.size) :
    d.divide n = .ofNanos (d.totalNanos / n) :=
  eq_of_totalNanos ((totalNanos_divide d hn).trans (totalNanos_ofNanos h).symm)

end Duration

/-! ## The mean of a snapshot -/

/-- A quotient, unless it is one by zero. -/
def checkedQuotient (a b : Nat) : Option Nat :=
  if b = 0 then none else some (a / b)

/-- A number as a word, if it fits. -/
def checkedWord (n : Nat) : Option UInt64 :=
  if n < UInt64.size then some n.toUInt64 else none

/-- What fits into a word passes the check. -/
theorem checkedWord_eq {n : Nat} (h : n < UInt64.size) : checkedWord n = some n.toUInt64 :=
  if_pos h

/-- One `n`-th of a span, unless `n` is zero. -/
def Duration.checkedDivide (d : Duration) (n : Nat) : Option Duration :=
  if n = 0 then none else some (d.divide n)

namespace Snapshot

/-- The mean with every step checked: there is none where a division by zero would be met, or where
the last narrowing to a word would lose a part of the quotient. -/
def checkedMean (s : Snapshot) : Option Duration :=
  let calls := s.callsDispatched.toNat
  if calls < UInt32.size then
    if calls = 0 then some .zero else s.dispatchTime.checkedDivide calls
  else do
    let quotient ← checkedQuotient s.dispatchTime.totalNanos calls
    some (.ofNanos (← checkedWord quotient).toNat)

/-- The nanoseconds of many calls, divided by their count, fit into a word. -/
theorem mean_lt {calls : Nat} (d : Duration) (h : UInt32.size ≤ calls) :
    d.totalNanos / calls < UInt64.size := by
  refine Nat.div_lt_of_lt_mul ?_
  have hseconds := d.seconds.toNat_lt
  have hnanos := d.nanos_lt
  have hcalls : UInt32.size * UInt64.size ≤ calls * UInt64.size := Nat.mul_le_mul_right _ h
  simp only [Duration.totalNanos, nanosPerSecond, UInt64.size, UInt32.size] at *
  omega

/-- Without calls the mean is zero. -/
theorem meanDispatch_zero {s : Snapshot} (h : s.callsDispatched = 0) : s.meanDispatch = .zero := by
  simp [meanDispatch, h, UInt32.size]

/-- Both ways to compute the mean divide the time of all calls by their count. -/
theorem meanDispatch_eq_divide {s : Snapshot} (h : s.callsDispatched.toNat ≠ 0) :
    s.meanDispatch = s.dispatchTime.divide s.callsDispatched.toNat := by
  rw [meanDispatch]
  split
  · rfl
  · rename_i hmany
    have hlt := mean_lt s.dispatchTime (Nat.not_lt.mp hmany)
    rw [Duration.divide_eq_ofNanos (Nat.pos_of_ne_zero h) hlt, Nat.toUInt64_eq,
      UInt64.toNat_ofNat_of_lt' hlt]

/-- The mean is the floor of all nanoseconds divided by the calls; without calls it is zero, as
such a quotient is. -/
theorem totalNanos_meanDispatch (s : Snapshot) :
    s.meanDispatch.totalNanos = s.dispatchTime.totalNanos / s.callsDispatched.toNat := by
  by_cases h : s.callsDispatched.toNat = 0
  · rw [meanDispatch_zero (UInt64.toNat_inj.mp h), h, Nat.div_zero]
    rfl
  · rw [meanDispatch_eq_divide h, Duration.totalNanos_divide _ (Nat.pos_of_ne_zero h)]

/-- The mean is computed without a division by zero and without a loss in the last narrowing. -/
theorem checkedMean_eq (s : Snapshot) : s.checkedMean = some s.meanDispatch := by
  by_cases hzero : s.callsDispatched.toNat = 0
  · simp [checkedMean, meanDispatch, hzero, UInt32.size]
  · by_cases hfew : s.callsDispatched.toNat < UInt32.size
    · have hquotient : s.dispatchTime.checkedDivide s.callsDispatched.toNat =
          some (s.dispatchTime.divide s.callsDispatched.toNat) := if_neg hzero
      rw [checkedMean, meanDispatch, if_pos hfew, if_pos hfew, if_neg hzero, if_neg hzero,
        hquotient]
    · have hquotient : checkedQuotient s.dispatchTime.totalNanos s.callsDispatched.toNat =
          some (s.dispatchTime.totalNanos / s.callsDispatched.toNat) := if_neg hzero
      have hword := checkedWord_eq (mean_lt s.dispatchTime (Nat.not_lt.mp hfew))
      rw [checkedMean, meanDispatch, if_neg hfew, if_neg hfew, hquotient, Option.bind_eq_bind,
        Option.bind_some, hword]
      rfl

end Snapshot

/-! ## The counters of a run -/

/-- The time that an event adds to the calls. -/
def Tally.elapsed? : Tally → Option Duration
  | callDispatched elapsed => some elapsed
  | _ => none

namespace Counters

variable {events events' : List Tally}

/-- The times of the calls among some events. -/
def callTimes (events : List Tally) : List Duration :=
  events.filterMap Tally.elapsed?

/-- Two events are recorded in either order. -/
theorem record_right_comm (c : Counters) (first second : Tally) :
    (c.record first).record second = (c.record second).record first := by
  cases first <;> cases second <;> simp only [record]
  ac_rfl

/-- The order of records does not matter. -/
theorem run_perm (c : Counters) (h : List.Perm events events') : c.run events = c.run events' :=
  h.foldl_eq' (fun first _ second _ c => record_right_comm c first second) c

/-- The nanoseconds of a call are capped at the greatest word. -/
theorem toNat_cappedNanos (d : Duration) :
    (cappedNanos d).toNat = min d.totalNanos (UInt64.size - 1) := by
  rw [cappedNanos, Nat.toUInt64_eq]
  refine UInt64.toNat_ofNat_of_lt' (Nat.lt_of_le_of_lt (Nat.min_le_right _ _) ?_)
  decide

/-- What is recorded adds up, in words that wrap around. -/
theorem run_sums (c : Counters) (events : List Tally) :
    (c.run events).callsDispatched.toNat =
      (c.callsDispatched.toNat + (callTimes events).length) % UInt64.size ∧
    (c.run events).dispatchNanos.toNat = (c.dispatchNanos.toNat +
      ((callTimes events).map fun d => min d.totalNanos (UInt64.size - 1)).sum) %
        UInt64.size := by
  induction events generalizing c with
  | nil =>
      exact ⟨(Nat.mod_eq_of_lt c.callsDispatched.toNat_lt).symm,
        (Nat.mod_eq_of_lt c.dispatchNanos.toNat_lt).symm⟩
  | cons event events ih =>
      obtain ⟨hcalls, hnanos⟩ := ih (c.record event)
      rw [run, List.foldl_cons, ← run, hcalls, hnanos]
      cases event with
      | callDispatched elapsed =>
          have htimes : callTimes (.callDispatched elapsed :: events) =
              elapsed :: callTimes events := rfl
          rw [htimes, List.length_cons, List.map_cons, List.sum_cons, record, UInt64.toNat_add,
            UInt64.toNat_add, toNat_cappedNanos, ← Nat.add_assoc]
          refine ⟨(Nat.mod_add_mod _ _ _).trans ?_, (Nat.mod_add_mod _ _ _).trans ?_⟩
          · rw [Nat.add_right_comm]
            rfl
          · rw [Nat.add_assoc]
      | _ => exact ⟨rfl, rfl⟩

/-- The nanoseconds of some calls. -/
def totalTime (times : List Duration) : Nat :=
  (times.map Duration.totalNanos).sum

/-- Where all nanoseconds together fit into a word, no call is capped. -/
theorem sum_capped {times : List Duration} (h : totalTime times < UInt64.size) :
    (times.map fun d => min d.totalNanos (UInt64.size - 1)).sum = totalTime times := by
  refine congrArg List.sum (List.map_congr_left fun d hd => Nat.min_eq_left ?_)
  have hle : d.totalNanos ≤ totalTime times :=
    List.single_le_sum (fun _ _ => Nat.zero_le _) _ (List.mem_map_of_mem hd)
  exact Nat.le_sub_one_of_lt (Nat.lt_of_le_of_lt hle h)

/-- The shortest call does not take longer than the mean. -/
theorem exists_le_mean {times : List Duration} (hne : times ≠ []) :
    ∃ d ∈ times, d.totalNanos ≤ totalTime times / times.length := by
  have hpos : 0 < times.length := List.length_pos_of_ne_nil hne
  have hlt : (times.map Duration.totalNanos).sum <
      (times.map fun _ => totalTime times / times.length + 1).sum := by
    rw [List.map_const', List.sum_replicate_nat]
    exact Nat.lt_mul_div_succ _ hpos
  obtain ⟨d, hd, hless⟩ := List.exists_lt_of_sum_lt _ _ hlt
  exact ⟨d, hd, Nat.le_of_lt_succ hless⟩

/-- The longest call does not take less than the mean. -/
theorem exists_mean_le {times : List Duration} (hne : times ≠ []) :
    ∃ d ∈ times, totalTime times / times.length ≤ d.totalNanos := by
  refine List.exists_le_of_sum_le hne (fun _ => totalTime times / times.length)
    Duration.totalNanos ?_
  rw [List.map_const', List.sum_replicate_nat]
  exact Nat.mul_div_le _ _

/-- A count that wraps around divides by no more than the count itself. -/
theorem div_le_div_mod {total count word : Nat} (hcount : 0 < count) (htotal : total < word) :
    total / count ≤ total / (count % word) := by
  rcases Nat.eq_zero_or_pos (count % word) with hzero | hpos
  · have hword : word ≤ count := Nat.le_of_dvd hcount (Nat.dvd_of_mod_eq_zero hzero)
    rw [Nat.div_eq_of_lt (Nat.lt_of_lt_of_le htotal hword)]
    exact Nat.zero_le _
  · exact Nat.div_le_div_left (Nat.mod_le count word) hpos

/-- The mean of the counters of a run, whose count of calls may have wrapped around. -/
theorem totalNanos_mean_of_run {times : List Duration} (uptime : Duration)
    (htimes : callTimes events = times) (h : totalTime times < UInt64.size) :
    ((zero.run events).snapshot uptime).meanDispatch.totalNanos =
      totalTime times / (times.length % UInt64.size) := by
  obtain ⟨hcalls, hnanos⟩ := run_sums zero events
  rw [Snapshot.totalNanos_meanDispatch, snapshot, hcalls, hnanos, htimes, sum_capped h]
  simp only [zero, UInt64.toNat_zero, Nat.zero_add, Nat.mod_eq_of_lt h,
    Duration.totalNanos_ofNanos h]

/-- The mean of a snapshot is the floor of its nanoseconds divided by its calls, and zero without
calls.  It is what division by parts gives, and what dividing all nanoseconds gives where the
quotient fits into a word; no step divides by zero, and the last one loses nothing.

The snapshot of a run does not depend on the order of the records.  Its time is the sum of the
nanoseconds of all calls, each capped at the largest word, in a word that wraps around.  If the
nanoseconds themselves add up to less than that, some call took at most the mean, and some call at
least.  For the latter the count of calls must not have passed the largest word: beyond it, which
takes that many calls of no time at all, the mean is the quotient by what is left of the count. -/
theorem snapshot_of_records :
    (∀ s : Snapshot,
      s.meanDispatch.totalNanos = s.dispatchTime.totalNanos / s.callsDispatched.toNat ∧
      (s.callsDispatched = 0 → s.meanDispatch = .zero) ∧
      (s.callsDispatched ≠ 0 →
        s.meanDispatch = s.dispatchTime.divide s.callsDispatched.toNat ∧
        (s.dispatchTime.totalNanos / s.callsDispatched.toNat < UInt64.size →
          s.meanDispatch =
            .ofNanos (s.dispatchTime.totalNanos / s.callsDispatched.toNat))) ∧
      s.checkedMean = some s.meanDispatch) ∧
    (∀ (events events' : List Tally) (uptime : Duration), List.Perm events events' →
      (zero.run events).snapshot uptime = (zero.run events').snapshot uptime) ∧
    (∀ (events : List Tally) (uptime : Duration),
      ((zero.run events).snapshot uptime).dispatchTime.totalNanos =
        ((callTimes events).map fun d => min d.totalNanos (UInt64.size - 1)).sum % UInt64.size) ∧
    (∀ (events : List Tally) (times : List Duration) (uptime mean : Duration),
      callTimes events = times → times ≠ [] → totalTime times < UInt64.size →
      ((zero.run events).snapshot uptime).meanDispatch = mean →
      mean.totalNanos = totalTime times / (times.length % UInt64.size) ∧
      (∃ shortest ∈ times, shortest.totalNanos ≤ mean.totalNanos) ∧
      (times.length ≤ UInt64.size → ∃ longest ∈ times, mean.totalNanos ≤ longest.totalNanos)) := by
  refine ⟨fun s => ⟨s.totalNanos_meanDispatch, Snapshot.meanDispatch_zero, fun hcalls => ?mean,
    s.checkedMean_eq⟩, fun events events' uptime hperm => ?order, fun events uptime => ?sum,
    ?bounds⟩
  case mean =>
    have hne : s.callsDispatched.toNat ≠ 0 := fun heq => hcalls (UInt64.toNat_inj.mp heq)
    have hmean := Snapshot.meanDispatch_eq_divide hne
    exact ⟨hmean, fun hfits =>
      hmean.trans (Duration.divide_eq_ofNanos (Nat.pos_of_ne_zero hne) hfits)⟩
  case order => rw [run_perm zero hperm]
  case sum =>
    have hword : ∀ n : Nat, n % UInt64.size < UInt64.size := fun n => Nat.mod_lt n (by decide)
    rw [snapshot, (run_sums zero events).2, Duration.totalNanos_ofNanos (hword _)]
    simp only [zero, UInt64.toNat_zero, Nat.zero_add]
  case bounds =>
    rintro events times uptime mean htimes hne hsum rfl
    have hmean := totalNanos_mean_of_run uptime htimes hsum
    refine ⟨hmean, ?_, fun hcount => ?_⟩
    · obtain ⟨shortest, hmem, hle⟩ := exists_le_mean hne
      refine ⟨shortest, hmem, hle.trans ?_⟩
      rw [hmean]
      exact div_le_div_mod (List.length_pos_of_ne_nil hne) hsum
    · obtain ⟨longest, hmem, hle⟩ := exists_mean_le hne
      refine ⟨longest, hmem, ?_⟩
      rw [hmean]
      rcases Nat.lt_or_eq_of_le hcount with hless | hfull
      · rwa [Nat.mod_eq_of_lt hless]
      · rw [hfull, Nat.mod_self, Nat.div_zero]
        exact Nat.zero_le _

example : ((zero.run [.callDispatched (.ofNanos 10000), .failed, .callDispatched (.ofNanos 30000)]
    ).snapshot .zero).meanDispatch = .ofNanos 20000 := by
  decide

/-- Many calls of no time at all, and two calls of a nanosecond each. -/
def idleCalls (idle : Nat) : List Duration :=
  List.replicate idle .zero ++ List.replicate 2 (.ofNanos 1)

/-- The two calls that take any time are all the time there is. -/
theorem totalTime_idleCalls (idle : Nat) : totalTime (idleCalls idle) = 2 := by
  have hidle : Duration.zero.totalNanos = 0 := rfl
  have hcall : (Duration.ofNanos 1).totalNanos = 1 := Duration.totalNanos_ofNanos (by decide)
  rw [totalTime, idleCalls, List.map_append, List.sum_append, List.map_replicate,
    List.map_replicate, List.sum_replicate_nat, List.sum_replicate_nat, hidle, hcall, Nat.mul_zero]

/-- No call among them takes longer than a nanosecond. -/
theorem totalNanos_le_of_mem_idleCalls {idle : Nat} {d : Duration} (h : d ∈ idleCalls idle) :
    d.totalNanos ≤ 1 := by
  rcases List.mem_append.mp h with hidle | hcall
  · rw [List.eq_of_mem_replicate hidle]
    decide
  · rw [List.eq_of_mem_replicate hcall, Duration.totalNanos_ofNanos (by decide)]

/-- The calls recorded are the times that are read back from the events. -/
theorem callTimes_map_callDispatched (times : List Duration) :
    callTimes (times.map .callDispatched) = times := by
  induction times with
  | nil => rfl
  | cons d times ih => exact congrArg (d :: ·) ih

/-- Where the idle calls fill the word of the count but for the two others, these wrap it around to
one, and the mean is the time of both of them. -/
theorem totalNanos_mean_of_idleCalls {idle : Nat} (hidle : idle + 1 = UInt64.size) :
    ((zero.run ((idleCalls idle).map .callDispatched)).snapshot .zero).meanDispatch.totalNanos =
      2 := by
  have hlength : (idleCalls idle).length = UInt64.size + 1 := by
    rw [idleCalls, List.length_append, List.length_replicate, List.length_replicate, ← hidle]
  have hsum := totalTime_idleCalls idle
  rw [totalNanos_mean_of_run .zero (callTimes_map_callDispatched _) (by rw [hsum]; decide), hsum,
    hlength, Nat.add_mod_left]
  rfl

/-- After so many calls that their count has wrapped around, the mean can be longer than every
call, although the nanoseconds of all calls add up to two. -/
theorem mean_beyond_longest :
    ∃ times : List Duration,
      times = List.replicate (UInt64.size - 1) .zero ++ List.replicate 2 (.ofNanos 1) ∧
      totalTime times < UInt64.size ∧
      callTimes (times.map .callDispatched) = times ∧
      ∀ longest ∈ times, longest.totalNanos <
        ((zero.run (times.map .callDispatched)).snapshot .zero).meanDispatch.totalNanos := by
  refine ⟨idleCalls (UInt64.size - 1), rfl, ?_, callTimes_map_callDispatched _,
    fun longest hmem => ?_⟩
  · rw [totalTime_idleCalls]
    decide
  · rw [totalNanos_mean_of_idleCalls (Nat.sub_add_cancel (by decide))]
    exact Nat.lt_succ_of_le (totalNanos_le_of_mem_idleCalls hmem)

end Counters

end ObjectBridge
