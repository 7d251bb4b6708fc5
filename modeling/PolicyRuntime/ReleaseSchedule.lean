import PolicyRuntime.Machine
import PolicyRuntime.RealtimeLoop

/-!
# The release schedule

A run of the loop waits, observes finished cycles and resets its schedule, in
any order and with any clock readings.  The deadlines since a reset lie on one
grid of periods, which starts at the first reading.
-/

namespace PolicyRuntime

/-- A call of the loop with the readings which the clock gives it. -/
inductive LoopCall
  | waitNext (now sleepError started : ℤ)
  | observeFinish (finish : ℤ)
  | resetSchedule
  deriving DecidableEq

inductive LoopAnswer
  | released (result : RealtimeWaitResult)
  | observed
  | reset
  /-- A signed operation has left `std::int64_t`. -/
  | overflow

namespace LoopCall

/-- The readings of the call are times. -/
def InRange : LoopCall → Prop
  | waitNext now _ started => IsTime now ∧ IsTime started
  | observeFinish finish => IsTime finish
  | resetSchedule => True

instance (call : LoopCall) : Decidable call.InRange :=
  match call with
  | waitNext now _ started =>
      inferInstanceAs (Decidable (IsTime now ∧ IsTime started))
  | observeFinish finish => inferInstanceAs (Decidable (IsTime finish))
  | resetSchedule => isTrue trivial

/-- The reading at the start of a wait. -/
def waitsAt : LoopCall → Option ℤ
  | waitNext now _ _ => some now
  | observeFinish _ => none
  | resetSchedule => none

end LoopCall

namespace RealtimeLoop

def call (loop : RealtimeLoop) : LoopCall → RealtimeLoop × LoopAnswer
  | .waitNext now sleepError started =>
      match loop.waitNext now sleepError started with
      | some (next, result) => (next, .released result)
      | none => (loop, .overflow)
  | .observeFinish finish =>
      match loop.observeFinish finish with
      | some next => (next, .observed)
      | none => (loop, .overflow)
  | .resetSchedule => (loop.resetSchedule, .reset)

def calls : Machine RealtimeLoop LoopCall LoopAnswer where
  step := call

variable {loop : RealtimeLoop}

theorem initial_bounded {period : ℤ} (hpositive : 0 < period)
    (hperiod : period ≤ int64Max) :
    Bounded { period := period } where
  period_pos := hpositive
  period := ⟨hpositive.le, hperiod⟩
  deadline := ⟨le_rfl, hpositive.le.trans hperiod⟩
  previousStart := ⟨le_rfl, hpositive.le.trans hperiod⟩
  currentStart := ⟨le_rfl, hpositive.le.trans hperiod⟩
  skipped := Nat.two_pow_pos 64

theorem Bounded.resetSchedule (hloop : loop.Bounded) :
    loop.resetSchedule.Bounded :=
  { initial_bounded hloop.period_pos hloop.period.2 with }

/-- A call in range has a result, which is in range. -/
theorem call_bounded (hloop : loop.Bounded) {call : LoopCall}
    (hcall : call.InRange) :
    (loop.call call).2 ≠ .overflow ∧ (loop.call call).1.Bounded ∧
      (loop.call call).1.period = loop.period := by
  cases call with
  | waitNext now sleepError started =>
      obtain ⟨scheduled, next, result, -, hperiod, hnext, hbounded, hsame⟩ :=
        waitNext_ok hloop hcall.1 sleepError hcall.2
      rw [RealtimeLoop.call, hnext]
      exact ⟨nofun, hbounded, hsame.period.trans hperiod⟩
  | observeFinish finish =>
      obtain ⟨next, hnext, hbounded, hsame⟩ := observeFinish_ok hloop hcall
      rw [RealtimeLoop.call, hnext]
      exact ⟨nofun, hbounded, hsame.period⟩
  | resetSchedule => exact ⟨nofun, hloop.resetSchedule, rfl⟩

/-- A wait whose release is representable moves the deadline there. -/
theorem call_waitNext (hloop : loop.Bounded) {now : ℤ} (hnow : IsTime now)
    (sleepError : ℤ) {started : ℤ} (hstarted : IsTime started)
    (hroom : ¬ loop.Saturates now) :
    SameSchedule (loop.call (.waitNext now sleepError started)).1
      { loop with
        scheduleStarted := true
        nextDeadlineNs := loop.release now
        skippedReleases :=
          addUint64 loop.skippedReleases (loop.missed now) } := by
  obtain ⟨scheduled, next, result, hadvance, -, hnext, -, hsame⟩ :=
    waitNext_ok hloop hnow sleepError hstarted
  rw [advanceDeadline_of_not_saturates hloop hnow hroom,
    Option.some.injEq] at hadvance
  rw [RealtimeLoop.call, hnext, hadvance]
  exact hsame

theorem call_observeFinish (hloop : loop.Bounded) {finish : ℤ}
    (hfinish : IsTime finish) :
    SameSchedule (loop.call (.observeFinish finish)).1 loop := by
  obtain ⟨next, hnext, -, hsame⟩ := observeFinish_ok hloop hfinish
  rw [RealtimeLoop.call, hnext]
  exact hsame

/-! ## The grid -/

/-- The schedule after the waits since a reset, given their readings. -/
structure OnGrid (period : ℤ) (waits : List ℤ) (loop : RealtimeLoop) :
    Prop where
  bounded : loop.Bounded
  period_eq : loop.period = period
  times : ∀ wait ∈ waits, IsTime wait
  idle : waits = [] → loop.scheduleStarted = false ∧ loop.skippedReleases = 0
  started : waits ≠ [] → loop.scheduleStarted = true
  deadline : ∀ first rest, waits = first :: rest →
    loop.nextDeadlineNs =
      first + period * (waits.length + loop.skippedReleases)

theorem onGrid_resetSchedule (hloop : loop.Bounded) :
    OnGrid loop.period [] loop.resetSchedule where
  bounded := hloop.resetSchedule
  period_eq := rfl
  times := nofun
  idle := fun _ => ⟨rfl, rfl⟩
  started := fun hne => absurd rfl hne
  deadline := nofun

theorem OnGrid.same {period : ℤ} {waits : List ℤ} {next : RealtimeLoop}
    (hloop : OnGrid period waits loop) (hbounded : next.Bounded)
    (hsame : next.SameSchedule loop) : OnGrid period waits next where
  bounded := hbounded
  period_eq := hsame.period.trans hloop.period_eq
  times := hloop.times
  idle := fun hempty => by
    rw [hsame.started, hsame.skipped]
    exact hloop.idle hempty
  started := fun hne => hsame.started.trans (hloop.started hne)
  deadline := fun first rest hwaits => by
    rw [hsame.deadline, hsame.skipped]
    exact hloop.deadline first rest hwaits

/-- The next release is one period behind the last, and one more for each
release which has been missed. -/
theorem OnGrid.release {period : ℤ} {waits : List ℤ}
    (hloop : OnGrid period waits loop) (now : ℤ) {first : ℤ} {rest : List ℤ}
    (hwaits : waits ++ [now] = first :: rest) :
    loop.release now = first + period *
      ((waits ++ [now]).length + (loop.skippedReleases + loop.missed now)) := by
  have hpositive := hloop.bounded.period_pos
  cases waits with
  | nil =>
      obtain ⟨hstarted, hskipped⟩ := hloop.idle rfl
      have hdue : loop.due now = now + loop.period := by
        rw [due, hstarted]
        rfl
      have hmissed : loop.missed now = 0 :=
        if_neg (by omega)
      obtain rfl : now = first := by simpa using congrArg List.head? hwaits
      rw [RealtimeLoop.release, hmissed, hskipped, hdue, hloop.period_eq]
      simp
  | cons head tail =>
      obtain rfl : head = first := by simpa using congrArg List.head? hwaits
      have hdue : loop.due now = loop.nextDeadlineNs + loop.period := by
        rw [due, hloop.started (List.cons_ne_nil _ _)]
        rfl
      rw [RealtimeLoop.release, hdue, hloop.deadline head tail rfl,
        hloop.period_eq]
      push_cast [List.length_append, List.length_singleton]
      ring

/-- A release in range leaves the count of missed ones exact. -/
theorem OnGrid.addUint64_missed {period : ℤ} {waits : List ℤ}
    (hloop : OnGrid period waits loop) {now : ℤ} (hnow : IsTime now)
    (hroom : ¬ loop.Saturates now) :
    addUint64 loop.skippedReleases (loop.missed now) =
      loop.skippedReleases + loop.missed now := by
  obtain ⟨first, rest, hwaits⟩ := List.exists_cons_of_ne_nil
    (List.append_ne_nil_of_right_ne_nil waits (List.cons_ne_nil now []))
  have hfirst : IsTime first := by
    have hmem : first ∈ waits ++ [now] := hwaits ▸ List.mem_cons_self ..
    rcases List.mem_append.mp hmem with hearlier | hlast
    · exact hloop.times first hearlier
    · exact List.mem_singleton.mp hlast ▸ hnow
  have hrelease := hloop.release now hwaits
  have hperiod : 1 ≤ period := hloop.period_eq ▸ hloop.bounded.period_pos
  have hcount : (loop.skippedReleases + loop.missed now : ℤ) ≤
      period * ((waits ++ [now]).length +
        (loop.skippedReleases + loop.missed now)) := by
    calc (loop.skippedReleases + loop.missed now : ℤ)
        ≤ (waits ++ [now]).length +
            (loop.skippedReleases + loop.missed now) :=
          le_add_of_nonneg_left (Int.natCast_nonneg _)
      _ ≤ period * ((waits ++ [now]).length +
            (loop.skippedReleases + loop.missed now)) :=
          le_mul_of_one_le_left (by positivity) hperiod
  have hmax : (loop.skippedReleases + loop.missed now : ℤ) ≤ int64Max := by
    have hlow := hfirst.1
    have hhigh := not_lt.mp hroom
    omega
  apply addUint64_of_lt
  rw [int64Max] at hmax
  omega

theorem OnGrid.waitNext {period : ℤ} {waits : List ℤ}
    (hloop : OnGrid period waits loop) {now sleepError started : ℤ}
    (hnow : IsTime now) (hstarted : IsTime started)
    (hroom : ¬ loop.Saturates now) :
    OnGrid period (waits ++ [now])
      (loop.call (.waitNext now sleepError started)).1 := by
  have hnext :=
    call_waitNext hloop.bounded hnow sleepError hstarted hroom
  rw [hloop.addUint64_missed hnow hroom] at hnext
  have hrange : (LoopCall.waitNext now sleepError started).InRange :=
    ⟨hnow, hstarted⟩
  obtain ⟨-, hbounded, -⟩ := call_bounded hloop.bounded hrange
  refine
    { bounded := hbounded
      period_eq := hnext.period.trans hloop.period_eq
      times := ?_
      idle := fun hempty => by simp at hempty
      started := fun _ => hnext.started
      deadline := ?_ }
  · intro wait hwait
    rcases List.mem_append.mp hwait with hearlier | hlast
    · exact hloop.times wait hearlier
    · exact List.mem_singleton.mp hlast ▸ hnow
  · intro first rest hwaits
    rw [hnext.deadline, hnext.skipped, hloop.release now hwaits]
    push_cast
    rfl

theorem OnGrid.call {period : ℤ} {waits : List ℤ}
    (hloop : OnGrid period waits loop) {call : LoopCall}
    (hcall : call.InRange) (hreset : call ≠ .resetSchedule)
    (hroom : ∀ now ∈ call.waitsAt, ¬ loop.Saturates now) :
    OnGrid period (waits ++ call.waitsAt.toList) (loop.call call).1 := by
  cases call with
  | waitNext now sleepError started =>
      exact hloop.waitNext hcall.1 hcall.2 (hroom now rfl)
  | observeFinish finish =>
      change OnGrid period (waits ++ []) _
      rw [List.append_nil]
      exact hloop.same (call_bounded hloop.bounded hcall).2.1
        (call_observeFinish hloop.bounded hcall)
  | resetSchedule => exact absurd rfl hreset

/-! ## Runs -/

theorem calls_bounded (hloop : loop.Bounded) {inputs : List LoopCall}
    (hinputs : ∀ call ∈ inputs, call.InRange) :
    (∀ t ∈ calls.trace loop inputs, t.output ≠ .overflow) ∧
      (calls.final loop inputs).Bounded ∧
      (calls.final loop inputs).period = loop.period := by
  induction inputs generalizing loop with
  | nil => exact ⟨fun t ht => absurd ht List.not_mem_nil, hloop, rfl⟩
  | cons input rest ih =>
      rw [List.forall_mem_cons] at hinputs
      obtain ⟨hanswer, hnext, hperiod⟩ := call_bounded hloop hinputs.1
      obtain ⟨hlater, hfinal, hkept⟩ := ih hnext hinputs.2
      refine ⟨?_, hfinal, hkept.trans hperiod⟩
      rw [Machine.trace_cons, List.forall_mem_cons]
      exact ⟨hanswer, hlater⟩

/-- A wait of the transition finds no room for its release. -/
def SaturatesAt (t : Transition RealtimeLoop LoopCall LoopAnswer) : Prop :=
  ∃ now ∈ t.input.waitsAt, t.before.Saturates now

instance : DecidablePred SaturatesAt := fun t =>
  inferInstanceAs (Decidable (∃ now ∈ t.input.waitsAt, _))

theorem OnGrid.final {period : ℤ} {waits : List ℤ}
    (hloop : OnGrid period waits loop) {inputs : List LoopCall}
    (hinputs : ∀ call ∈ inputs, call.InRange)
    (hreset : ∀ call ∈ inputs, call ≠ .resetSchedule)
    (hroom : ∀ t ∈ calls.trace loop inputs, ¬ SaturatesAt t) :
    OnGrid period (waits ++ inputs.filterMap LoopCall.waitsAt)
      (calls.final loop inputs) := by
  induction inputs generalizing loop waits with
  | nil =>
      rw [List.filterMap_nil, List.append_nil]
      exact hloop
  | cons input rest ih =>
      rw [List.forall_mem_cons] at hinputs hreset
      rw [Machine.trace_cons, List.forall_mem_cons] at hroom
      have hnext := hloop.call hinputs.1 hreset.1
        fun now hnow hsaturates => hroom.1 ⟨now, hnow, hsaturates⟩
      have hfinal := ih hnext hinputs.2 hreset.2 hroom.2
      rw [List.append_assoc] at hfinal
      cases hwaits : input.waitsAt with
      | none =>
          rw [hwaits] at hfinal
          rw [List.filterMap_cons_none hwaits]
          exact hfinal
      | some now =>
          rw [hwaits] at hfinal
          rw [List.filterMap_cons_some hwaits]
          exact hfinal

/-- What a wait on the grid guarantees of its deadline. -/
theorem OnGrid.deadline_near {period : ℤ} {waits : List ℤ}
    (hloop : OnGrid period waits loop) {input : LoopCall}
    (hinput : input.InRange)
    (hroom : ¬ SaturatesAt (calls.fire loop input)) {now : ℤ}
    (hwait : now ∈ input.waitsAt) :
    now < (loop.call input).1.nextDeadlineNs ∧
      ((loop.call input).1.skippedReleases ≠ loop.skippedReleases →
        (loop.call input).1.nextDeadlineNs ≤ now + period) := by
  cases input with
  | waitNext reading sleepError started =>
      obtain rfl : reading = now := Option.some.inj hwait
      have hfits : ¬ loop.Saturates reading :=
        fun hsaturates => hroom ⟨reading, rfl, hsaturates⟩
      have hnext := call_waitNext hloop.bounded hinput.1 sleepError hinput.2
        hfits
      rw [hloop.addUint64_missed hinput.1 hfits] at hnext
      rw [hnext.deadline, hnext.skipped]
      refine ⟨lt_release hloop.bounded reading, fun hskipped => ?_⟩
      rw [← hloop.period_eq]
      apply release_le hloop.bounded
      intro hmissed
      exact hskipped (by rw [hmissed]; rfl)
  | observeFinish finish => cases hwait
  | resetSchedule => cases hwait

/-- The calls since a reset place the deadlines on the grid of their first
reading, whatever came before the reset.  The readings need not be ordered. -/
theorem release_schedule {period : ℤ} (hpositive : 0 < period)
    (hperiod : period ≤ int64Max) (earlier later : List LoopCall)
    (hearlier : ∀ call ∈ earlier, call.InRange)
    (hlater : ∀ call ∈ later, call.InRange)
    (hreset : ∀ call ∈ later, call ≠ .resetSchedule) :
    let initial : RealtimeLoop := { period := period }
    let start := (calls.final initial earlier).resetSchedule
    let waits := later.filterMap LoopCall.waitsAt
    (∀ t ∈ calls.trace initial earlier ++ calls.trace start later,
      t.output ≠ .overflow) ∧
    ((∀ t ∈ calls.trace start later, ¬ SaturatesAt t) →
      (∀ first rest, waits = first :: rest →
        (calls.final start later).nextDeadlineNs =
          first + period *
            (waits.length + (calls.final start later).skippedReleases)) ∧
      ∀ t ∈ calls.trace start later, ∀ now ∈ t.input.waitsAt,
        now < t.after.nextDeadlineNs ∧
        (t.after.skippedReleases ≠ t.before.skippedReleases →
          t.after.nextDeadlineNs ≤ now + period)) := by
  intro initial start waits
  have hinitial := initial_bounded hpositive hperiod
  obtain ⟨hbefore, hbounded, hkept⟩ := calls_bounded hinitial hearlier
  have hgrid : OnGrid period [] start := by
    have hreset := onGrid_resetSchedule hbounded
    rw [hkept] at hreset
    exact hreset
  refine ⟨?_, fun hroom => ⟨?_, ?_⟩⟩
  · intro t ht
    rcases List.mem_append.mp ht with hfirst | hlast
    · exact hbefore t hfirst
    · exact (calls_bounded hbounded.resetSchedule hlater).1 t hlast
  · exact (hgrid.final hlater hreset hroom).deadline
  · intro t ht now hnow
    obtain ⟨before, input, hprefix, rfl⟩ :=
      Machine.exists_fire_of_mem_trace ht
    have hsub : ∀ call ∈ before ++ [input], call ∈ later :=
      fun call hcall => hprefix.subset hcall
    have hroomBefore : ∀ t ∈ calls.trace start before, ¬ SaturatesAt t := by
      obtain ⟨after, hinputs⟩ := hprefix
      intro t ht
      apply hroom
      rw [← hinputs, List.append_assoc, Machine.trace_append]
      exact List.mem_append_left _ ht
    have hearly : ∀ call ∈ before, call ∈ later :=
      fun call hcall => hsub call (List.mem_append_left _ hcall)
    have hinput : input ∈ later :=
      hsub input (List.mem_append_right _ (List.mem_singleton_self input))
    have hreached := hgrid.final
      (fun call hcall => hlater call (hearly call hcall))
      (fun call hcall => hreset call (hearly call hcall)) hroomBefore
    exact hreached.deadline_near (hlater input hinput) (hroom _ ht) hnow

/-- An overrun of three and a half periods skips four releases. -/
theorem release_schedule_overrun :
    let start := (calls.final { period := 10 } [.waitNext 0 0 11]).resetSchedule
    let later : List LoopCall :=
      [.waitNext 100 0 111, .observeFinish 154, .waitNext 155 0 160]
    (calls.final start later).nextDeadlineNs = 160 ∧
      (calls.final start later).nextDeadlineNs =
        100 + 10 * (2 + (calls.final start later).skippedReleases) := by
  refine ⟨by decide +kernel, ?_⟩
  have hpositive : (0 : ℤ) < 10 := by decide
  have hschedule := release_schedule hpositive (by decide)
    [.waitNext 0 0 11]
    [.waitNext 100 0 111, .observeFinish 154, .waitNext 155 0 160]
    (by decide) (by decide) (by decide)
  exact (hschedule.2 (by decide +kernel)).1 100 [155] rfl

end RealtimeLoop

end PolicyRuntime
