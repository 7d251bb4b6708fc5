import Mathlib.Tactic

/-!
# The real-time loop

The loop sleeps until its next deadline, one period after the last one, and
counts the releases which it has missed.  Times are `std::int64_t` nanoseconds:
an operation whose exact result leaves that type has no value here, since signed
overflow is undefined.
-/

namespace PolicyRuntime

/-- `std::numeric_limits<std::int64_t>::max()` -/
def int64Max : ℤ := 9223372036854775807

/-- The result of a signed operation, where `std::int64_t` represents it. -/
def int64 (value : ℤ) : Option ℤ :=
  if -int64Max - 1 ≤ value ∧ value ≤ int64Max then some value else none

def toUint64 (value : ℤ) : ℕ :=
  (value % 2 ^ 64).toNat

/-- The conversion of a `std::uint64_t` to `std::int64_t`, which wraps. -/
def ofUint64 (value : ℕ) : ℤ :=
  (value : ℤ).bmod (2 ^ 64)

/-- The sum of two `std::uint64_t`, which wraps. -/
def addUint64 (left right : ℕ) : ℕ :=
  (left + right) % 2 ^ 64

def saturatingAdd (value increment : ℤ) : Option ℤ := do
  let saturated ←
    if 0 < increment then do
      let bound ← int64 (int64Max - increment)
      some (decide (bound < value))
    else
      some false
  if saturated then some int64Max else int64 (value + increment)

/-- `time > since ? time - since : 0` -/
def elapsed (time since : ℤ) : Option ℤ :=
  if since < time then int64 (time - since) else some 0

def updateMaximum (maximum value : ℤ) : ℤ :=
  if maximum < value then value else maximum

structure CycleContext where
  sequence : ℕ
  scheduledStart : ℤ
  period : ℤ
  deriving DecidableEq

structure RealtimeWaitResult where
  context : CycleContext
  sleepError : ℤ
  deriving DecidableEq

structure RealtimeLoop where
  period : ℤ
  cycleCount : ℕ := 0
  deadlineMisses : ℕ := 0
  skippedReleases : ℕ := 0
  sleepFailures : ℕ := 0
  actualPeriodNs : ℤ := 0
  wakeLatencyNs : ℤ := 0
  maximumWakeLatencyNs : ℤ := 0
  executionTimeNs : ℤ := 0
  maximumExecutionTimeNs : ℤ := 0
  nextDeadlineNs : ℤ := 0
  previousStartNs : ℤ := 0
  currentStartNs : ℤ := 0
  scheduleStarted : Bool := false
  deriving DecidableEq

namespace RealtimeLoop

/-- The part of `wait_next` before the sleep. -/
def advanceDeadline (loop : RealtimeLoop) (now : ℤ) : Option RealtimeLoop := do
  let last := if loop.scheduleStarted then loop.nextDeadlineNs else now
  let deadline ← saturatingAdd last loop.period
  if deadline ≤ now then
    let behind ← int64 (now - deadline)
    let skipped := addUint64 (toUint64 (behind.tdiv loop.period)) 1
    let room ← int64 (int64Max - deadline)
    let maximumIncrement := room.tdiv loop.period
    let incrementPeriods := min skipped (toUint64 maximumIncrement)
    let increment ← int64 (ofUint64 incrementPeriods * loop.period)
    let caughtUp ← int64 (deadline + increment)
    some { loop with
      scheduleStarted := true
      nextDeadlineNs := caughtUp
      skippedReleases := addUint64 loop.skippedReleases skipped }
  else
    some { loop with scheduleStarted := true, nextDeadlineNs := deadline }

def actualPeriod (loop : RealtimeLoop) (started : ℤ) : Option ℤ :=
  if loop.cycleCount = 0 then some loop.actualPeriodNs
  else int64 (started - loop.previousStartNs)

/-- The part of `wait_next` after a sleep which has reached the deadline. -/
def recordStart (loop : RealtimeLoop) (started : ℤ) : Option RealtimeLoop := do
  let actualPeriod ← loop.actualPeriod started
  let wakeLatency ← elapsed started loop.nextDeadlineNs
  some { loop with
    actualPeriodNs := actualPeriod
    previousStartNs := started
    currentStartNs := started
    wakeLatencyNs := wakeLatency
    maximumWakeLatencyNs := updateMaximum loop.maximumWakeLatencyNs wakeLatency
    cycleCount := addUint64 loop.cycleCount 1 }

/-- The sleep error is that of the first sleep which no signal interrupts; the
second reading is made only after a sleep without error. -/
def waitNext (loop : RealtimeLoop) (now sleepError started : ℤ) :
    Option (RealtimeLoop × RealtimeWaitResult) := do
  let scheduled ← loop.advanceDeadline now
  let context : CycleContext :=
    { sequence := addUint64 scheduled.cycleCount 1
      scheduledStart := scheduled.nextDeadlineNs
      period := scheduled.period }
  if sleepError ≠ 0 then
    some
      ({ scheduled with
          sleepFailures := addUint64 scheduled.sleepFailures 1 },
        { context := context, sleepError := sleepError })
  else
    let released ← scheduled.recordStart started
    some
      (released,
        { context := { context with sequence := released.cycleCount }
          sleepError := 0 })

/-- The count of misses, once the cycle has finished after the next release. -/
def missesAt (loop : RealtimeLoop) (nextRelease finish : ℤ) : Option ℕ :=
  if nextRelease < finish then do
    let late ← int64 (finish - nextRelease)
    let misses := addUint64 (toUint64 (late.tdiv loop.period)) 1
    some (addUint64 loop.deadlineMisses misses)
  else
    some loop.deadlineMisses

def observeFinish (loop : RealtimeLoop) (finish : ℤ) :
    Option RealtimeLoop :=
  if loop.scheduleStarted then do
    let executionTime ← elapsed finish loop.currentStartNs
    let nextRelease ← saturatingAdd loop.nextDeadlineNs loop.period
    let deadlineMisses ← loop.missesAt nextRelease finish
    some { loop with
      executionTimeNs := executionTime
      maximumExecutionTimeNs :=
        updateMaximum loop.maximumExecutionTimeNs executionTime
      deadlineMisses := deadlineMisses }
  else
    some loop

def resetSchedule (loop : RealtimeLoop) : RealtimeLoop :=
  { loop with
    cycleCount := 0
    deadlineMisses := 0
    skippedReleases := 0
    sleepFailures := 0
    actualPeriodNs := 0
    wakeLatencyNs := 0
    maximumWakeLatencyNs := 0
    executionTimeNs := 0
    maximumExecutionTimeNs := 0
    nextDeadlineNs := 0
    previousStartNs := 0
    currentStartNs := 0
    scheduleStarted := false }

end RealtimeLoop

/-! ## The arithmetic -/

/-- A clock reading, or another time which is not negative. -/
def IsTime (value : ℤ) : Prop :=
  0 ≤ value ∧ value ≤ int64Max

instance (value : ℤ) : Decidable (IsTime value) :=
  inferInstanceAs (Decidable (0 ≤ value ∧ value ≤ int64Max))

theorem IsTime.int64 {value : ℤ} (hvalue : IsTime value) :
    int64 value = some value := by
  have hmax : 0 ≤ int64Max := hvalue.1.trans hvalue.2
  exact if_pos ⟨by have := hvalue.1; omega, hvalue.2⟩

/-- An operation in range goes on to what uses its result. -/
theorem IsTime.int64_bind {α : Type*} {value : ℤ} (hvalue : IsTime value)
    (next : ℤ → Option α) :
    (PolicyRuntime.int64 value).bind next = next value := by
  rw [hvalue.int64]
  rfl

theorem IsTime.int64_sub {left right : ℤ}
    (hleft : IsTime left) (hright : IsTime right) :
    PolicyRuntime.int64 (left - right) = some (left - right) := by
  have hlow := hleft.1
  have hhigh := hleft.2
  have hlow' := hright.1
  have hhigh' := hright.2
  exact if_pos ⟨by omega, by omega⟩

theorem IsTime.elapsed {time since : ℤ}
    (htime : IsTime time) (hsince : IsTime since) :
    ∃ duration, elapsed time since = some duration := by
  rw [PolicyRuntime.elapsed]
  split
  · exact ⟨_, htime.int64_sub hsince⟩
  · exact ⟨_, rfl⟩

theorem IsTime.toUint64 {value : ℤ} (hvalue : IsTime value) :
    toUint64 value = value.toNat := by
  have hlow := hvalue.1
  have hhigh := hvalue.2
  have hlt : value < 2 ^ 64 := by
    rw [int64Max] at hhigh
    omega
  rw [PolicyRuntime.toUint64, Int.emod_eq_of_lt hlow hlt]

theorem addUint64_of_lt {left right : ℕ} (hsum : left + right < 2 ^ 64) :
    addUint64 left right = left + right :=
  Nat.mod_eq_of_lt hsum

theorem addUint64_lt (left right : ℕ) : addUint64 left right < 2 ^ 64 :=
  Nat.mod_lt _ (by decide)

/-- The quotient of a time by a period is a time. -/
theorem IsTime.tdiv {value period : ℤ} (hvalue : IsTime value)
    (hperiod : 0 < period) :
    value.tdiv period = value / period ∧ IsTime (value / period) := by
  refine ⟨Int.tdiv_eq_ediv_of_nonneg hvalue.1, ?_, ?_⟩
  · exact Int.ediv_nonneg hvalue.1 hperiod.le
  · exact (Int.ediv_le_self period hvalue.1).trans hvalue.2

/-- `periods + 1` as the code computes it from a time. -/
theorem IsTime.periods {value period : ℤ} (hvalue : IsTime value)
    (hperiod : 0 < period) :
    addUint64 (PolicyRuntime.toUint64 (value.tdiv period)) 1 =
      (value / period).toNat + 1 := by
  obtain ⟨hquotient, htime⟩ := hvalue.tdiv hperiod
  have hhigh := htime.2
  rw [hquotient, htime.toUint64, addUint64_of_lt]
  rw [int64Max] at hhigh
  omega

theorem ofUint64_of_le {value : ℕ} (hvalue : (value : ℤ) ≤ int64Max) :
    ofUint64 value = value := by
  have hlt : (value : ℤ) < 9223372036854775808 := by
    rw [int64Max] at hvalue
    omega
  have hlow : -((2 ^ 64 : ℕ) : ℤ) ≤ (value : ℤ) * 2 := by omega
  have hhigh : (value : ℤ) * 2 < ((2 ^ 64 : ℕ) : ℤ) := by omega
  exact Int.bmod_eq_of_le_mul_two hlow hhigh

theorem saturatingAdd_eq {value increment : ℤ} (hvalue : IsTime value)
    (hincrement : IsTime increment) (hpositive : 0 < increment) :
    saturatingAdd value increment =
      some (min int64Max (value + increment)) := by
  have hbound : IsTime (int64Max - increment) := by
    have hlow := hincrement.1
    have hhigh := hincrement.2
    exact ⟨by omega, by omega⟩
  rw [saturatingAdd, if_pos hpositive, hbound.int64]
  by_cases hsaturated : int64Max - increment < value
  · rw [min_eq_left (by omega)]
    simp [hsaturated]
  · have hsum : IsTime (value + increment) := by
      have hlow := hvalue.1
      exact ⟨by omega, by omega⟩
    rw [min_eq_right hsum.2]
    simp [hsaturated, hsum.int64]

theorem IsTime.saturated {value increment : ℤ} (hvalue : IsTime value)
    (hincrement : IsTime increment) :
    IsTime (min int64Max (value + increment)) :=
  ⟨le_min (hvalue.1.trans hvalue.2) (add_nonneg hvalue.1 hincrement.1),
    min_le_left ..⟩

/-- The periods by which the deadline is moved do not carry it out of range. -/
theorem IsTime.add_periods {deadline period : ℤ} (hdeadline : IsTime deadline)
    (hperiod : 0 < period) {count : ℕ}
    (hcount : count ≤ ((int64Max - deadline) / period).toNat) :
    (count : ℤ) ≤ int64Max ∧ IsTime (count * period) ∧
      IsTime (deadline + count * period) := by
  have hlow := hdeadline.1
  have hhigh := hdeadline.2
  have hroom : 0 ≤ int64Max - deadline := by omega
  have hquotient : (count : ℤ) ≤ (int64Max - deadline) / period := by
    have hnonneg := Int.ediv_nonneg hroom hperiod.le
    omega
  have hproduct : count * period ≤ int64Max - deadline :=
    (Int.le_ediv_iff_mul_le hperiod).mp hquotient
  have hself := Int.ediv_le_self period hroom
  have hnonneg : 0 ≤ count * period :=
    mul_nonneg (Int.natCast_nonneg count) hperiod.le
  exact ⟨by omega, ⟨hnonneg, by omega⟩, ⟨by omega, by omega⟩⟩

/-! ## The operations -/

namespace RealtimeLoop

structure Bounded (loop : RealtimeLoop) : Prop where
  period_pos : 0 < loop.period
  period : IsTime loop.period
  deadline : IsTime loop.nextDeadlineNs
  previousStart : IsTime loop.previousStartNs
  currentStart : IsTime loop.currentStartNs
  skipped : loop.skippedReleases < 2 ^ 64

/-- The deadline one period after the last one, without a bound. -/
def due (loop : RealtimeLoop) (now : ℤ) : ℤ :=
  (if loop.scheduleStarted then loop.nextDeadlineNs else now) + loop.period

/-- The releases which lie at or before the reading. -/
def missed (loop : RealtimeLoop) (now : ℤ) : ℕ :=
  if loop.due now ≤ now then ((now - loop.due now) / loop.period).toNat + 1
  else 0

/-- The first release after the reading, without a bound. -/
def release (loop : RealtimeLoop) (now : ℤ) : ℤ :=
  loop.due now + loop.missed now * loop.period

/-- The release is no `std::int64_t`, so that the deadline saturates. -/
def Saturates (loop : RealtimeLoop) (now : ℤ) : Prop :=
  int64Max < loop.release now

instance (loop : RealtimeLoop) (now : ℤ) : Decidable (loop.Saturates now) :=
  inferInstanceAs (Decidable (int64Max < loop.release now))

variable {loop : RealtimeLoop} {now : ℤ}

theorem Bounded.last (hloop : loop.Bounded) (hnow : IsTime now) :
    IsTime (if loop.scheduleStarted then loop.nextDeadlineNs else now) := by
  split
  · exact hloop.deadline
  · exact hnow

theorem advanceDeadline_eq (hloop : loop.Bounded) (hnow : IsTime now) :
    loop.advanceDeadline now =
      let deadline := min int64Max (loop.due now)
      let skipped := ((now - deadline) / loop.period).toNat + 1
      let maximumIncrement := ((int64Max - deadline) / loop.period).toNat
      if deadline ≤ now then
        some { loop with
          scheduleStarted := true
          nextDeadlineNs :=
            deadline + (min skipped maximumIncrement : ℕ) * loop.period
          skippedReleases := addUint64 loop.skippedReleases skipped }
      else
        some { loop with
          scheduleStarted := true, nextDeadlineNs := deadline } := by
  have hlast := hloop.last hnow
  have hadd : saturatingAdd
      (if loop.scheduleStarted then loop.nextDeadlineNs else now)
      loop.period = some (min int64Max (loop.due now)) :=
    saturatingAdd_eq hlast hloop.period hloop.period_pos
  have hdeadline : IsTime (min int64Max (loop.due now)) :=
    hlast.saturated hloop.period
  rw [advanceDeadline]
  simp only [hadd, Option.bind_eq_bind, Option.bind_some]
  generalize min int64Max (loop.due now) = deadline at hdeadline
  split
  · next hlate =>
      have hbehind : IsTime (now - deadline) := by
        have hlow := hdeadline.1
        have hhigh := hnow.2
        exact ⟨by omega, by omega⟩
      have hroom : IsTime (int64Max - deadline) := by
        have hlow := hdeadline.1
        have hhigh := hdeadline.2
        exact ⟨by omega, by omega⟩
      obtain ⟨hquotient, hmaximum⟩ := hroom.tdiv hloop.period_pos
      obtain ⟨hcount, hincrement, hcaughtUp⟩ :=
        hdeadline.add_periods hloop.period_pos
          (min_le_right (((now - deadline) / loop.period).toNat + 1) _)
      rw [hbehind.int64_bind, hroom.int64_bind,
        hbehind.periods hloop.period_pos, hquotient, hmaximum.toUint64,
        ofUint64_of_le hcount, hincrement.int64_bind, hcaughtUp.int64_bind]
  · rfl

/-- Whatever the reading, the deadline stays a time. -/
theorem advanceDeadline_bounded (hloop : loop.Bounded) (hnow : IsTime now) :
    ∃ next, loop.advanceDeadline now = some next ∧ next.Bounded ∧
      next.period = loop.period := by
  have hdeadline : IsTime (min int64Max (loop.due now)) :=
    (hloop.last hnow).saturated hloop.period
  rw [advanceDeadline_eq hloop hnow]
  dsimp only
  split
  · refine ⟨_, rfl, { hloop with deadline := ?_, skipped := ?_ }, rfl⟩
    · exact (hdeadline.add_periods hloop.period_pos (min_le_right ..)).2.2
    · exact addUint64_lt ..
  · exact ⟨_, rfl, { hloop with deadline := hdeadline }, rfl⟩

theorem due_le_release (hloop : loop.Bounded) (now : ℤ) :
    loop.due now ≤ loop.release now :=
  le_add_of_nonneg_right
    (mul_nonneg (Int.natCast_nonneg _) hloop.period_pos.le)

/-- With room for the release, nothing cuts the deadline short. -/
theorem advanceDeadline_of_not_saturates
    (hloop : loop.Bounded) (hnow : IsTime now)
    (hroom : ¬ loop.Saturates now) :
    loop.advanceDeadline now =
      some { loop with
        scheduleStarted := true
        nextDeadlineNs := loop.release now
        skippedReleases :=
          addUint64 loop.skippedReleases (loop.missed now) } := by
  have hrelease : loop.release now ≤ int64Max := not_lt.mp hroom
  have hdue : min int64Max (loop.due now) = loop.due now :=
    min_eq_right ((due_le_release hloop now).trans hrelease)
  rw [advanceDeadline_eq hloop hnow]
  dsimp only
  rw [hdue]
  split
  · next hlate =>
      have hmissed : loop.missed now =
          ((now - loop.due now) / loop.period).toNat + 1 := if_pos hlate
      have hfits : loop.missed now ≤
          ((int64Max - loop.due now) / loop.period).toNat := by
        have hproduct : loop.missed now * loop.period ≤
            int64Max - loop.due now := by
          rw [release] at hrelease
          omega
        have hquotient :=
          (Int.le_ediv_iff_mul_le hloop.period_pos).mpr hproduct
        omega
      rw [← hmissed, min_eq_left hfits]
      rfl
  · next hearly =>
      have hmissed : loop.missed now = 0 := if_neg hearly
      have hskipped : addUint64 loop.skippedReleases 0 =
          loop.skippedReleases := addUint64_of_lt hloop.skipped
      rw [release, hmissed, hskipped]
      simp

/-- The release lies behind the reading. -/
theorem lt_release (hloop : loop.Bounded) (now : ℤ) :
    now < loop.release now := by
  rw [release, missed]
  split
  · next hlate =>
      have hquotient := Int.ediv_nonneg (sub_nonneg.mpr hlate)
        hloop.period_pos.le
      have hnext :=
        Int.lt_ediv_add_one_mul_self (now - loop.due now) hloop.period_pos
      push_cast
      rw [Int.toNat_of_nonneg hquotient]
      omega
  · next hearly =>
      simpa using hearly

/-- After missed releases, the next one is at most a period away. -/
theorem release_le (hloop : loop.Bounded) {now : ℤ}
    (hmissed : loop.missed now ≠ 0) :
    loop.release now ≤ now + loop.period := by
  have hlate : loop.due now ≤ now := by
    by_contra hearly
    exact hmissed (if_neg hearly)
  have hquotient := Int.ediv_nonneg (sub_nonneg.mpr hlate)
    hloop.period_pos.le
  have hself := Int.ediv_mul_le (now - loop.due now) hloop.period_pos.ne'
  rw [release, missed, if_pos hlate]
  push_cast
  rw [Int.toNat_of_nonneg hquotient, add_mul, one_mul]
  omega

/-- The fields which place the releases are the same. -/
structure SameSchedule (next loop : RealtimeLoop) : Prop where
  period : next.period = loop.period
  deadline : next.nextDeadlineNs = loop.nextDeadlineNs
  skipped : next.skippedReleases = loop.skippedReleases
  started : next.scheduleStarted = loop.scheduleStarted

theorem actualPeriod_ok (hloop : loop.Bounded) {started : ℤ}
    (hstarted : IsTime started) :
    ∃ actualPeriod, loop.actualPeriod started = some actualPeriod := by
  rw [actualPeriod]
  split
  · exact ⟨_, rfl⟩
  · exact ⟨_, hstarted.int64_sub hloop.previousStart⟩

theorem missesAt_ok (loop : RealtimeLoop) {nextRelease finish : ℤ}
    (hrelease : IsTime nextRelease) (hfinish : IsTime finish) :
    ∃ misses, loop.missesAt nextRelease finish = some misses := by
  rw [missesAt]
  split
  · rw [hfinish.int64_sub hrelease]
    exact ⟨_, rfl⟩
  · exact ⟨_, rfl⟩

theorem recordStart_ok (hloop : loop.Bounded) {started : ℤ}
    (hstarted : IsTime started) :
    ∃ next, loop.recordStart started = some next ∧
      next.Bounded ∧ next.SameSchedule loop := by
  obtain ⟨actualPeriod, hactual⟩ := actualPeriod_ok hloop hstarted
  obtain ⟨wakeLatency, hlatency⟩ := hstarted.elapsed hloop.deadline
  rw [recordStart, hactual, hlatency]
  exact ⟨_, rfl,
    { hloop with previousStart := hstarted, currentStart := hstarted },
    ⟨rfl, rfl, rfl, rfl⟩⟩

theorem waitNext_ok (hloop : loop.Bounded) (hnow : IsTime now)
    (sleepError : ℤ) {started : ℤ} (hstarted : IsTime started) :
    ∃ scheduled next result,
      loop.advanceDeadline now = some scheduled ∧
      scheduled.period = loop.period ∧
      loop.waitNext now sleepError started = some (next, result) ∧
      next.Bounded ∧ next.SameSchedule scheduled := by
  obtain ⟨scheduled, hscheduled, hbounded, hperiod⟩ :=
    advanceDeadline_bounded hloop hnow
  rw [waitNext, hscheduled]
  by_cases herror : sleepError = 0
  · obtain ⟨next, hnext, hkept, hsame⟩ := recordStart_ok hbounded hstarted
    refine ⟨scheduled, next, ?_⟩
    simp only [Option.bind_eq_bind, Option.bind_some, herror, ne_eq,
      not_true_eq_false, if_false, hnext]
    exact ⟨_, trivial, hperiod, rfl, hkept, hsame⟩
  · simp only [Option.bind_eq_bind, Option.bind_some, ne_eq, herror,
      not_false_eq_true, if_true]
    exact ⟨scheduled, _, _, rfl, hperiod, rfl, { hbounded with },
      ⟨rfl, rfl, rfl, rfl⟩⟩

theorem observeFinish_ok (hloop : loop.Bounded) {finish : ℤ}
    (hfinish : IsTime finish) :
    ∃ next, loop.observeFinish finish = some next ∧
      next.Bounded ∧ next.SameSchedule loop := by
  rw [observeFinish]
  split
  · obtain ⟨executionTime, hexecution⟩ :=
      hfinish.elapsed hloop.currentStart
    have hnext := saturatingAdd_eq hloop.deadline hloop.period
      hloop.period_pos
    obtain ⟨misses, hmisses⟩ := missesAt_ok loop
      (hloop.deadline.saturated hloop.period) hfinish
    simp only [hexecution, hnext, hmisses, Option.bind_eq_bind,
      Option.bind_some]
    exact ⟨_, rfl, { hloop with }, ⟨rfl, rfl, rfl, rfl⟩⟩
  · exact ⟨loop, rfl, hloop, ⟨rfl, rfl, rfl, rfl⟩⟩

end RealtimeLoop

end PolicyRuntime
