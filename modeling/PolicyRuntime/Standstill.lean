import PolicyRuntime.StopPath

/-!
# Standstill confirmation

The standstill counter is compared with the velocities which the evaluations
since the stop really observed.  A permitted fault reset skips the counter, so
the comparison holds as long as no reset cycle hides a moving axis behind a
count which has already begun.
-/

namespace PolicyRuntime

open SafetySupervisor

variable {D : Type}

def atRest (options : SafetyOptions) (velocity : ℤ) : Bool :=
  |velocity| ≤ options.zeroVelocityThresholdCounts

/-- The axis goes from quick stop to disabled in this step. -/
def SupervisorStep.ComesToRest (axis : Axis) (step : SupervisorStep D) :
    Prop :=
  phaseBefore axis step = .quickStop ∧ phaseAfter axis step = .disabled

instance (axis : Axis) (step : SupervisorStep D) :
    Decidable (step.ComesToRest axis) :=
  inferInstanceAs (Decidable (_ ∧ _))

/-- The stop is as old as the safe-stop timeout. -/
def SupervisorStep.StopTimedOut (options : SafetyOptions) (axis : Axis)
    (step : SupervisorStep D) : Prop :=
  ∃ bus view nowNs, step.input = .evaluate bus view nowNs ∧
    options.safeStopTimeout ≤
      nowNs - (step.before.states axis).stopStartedNs

/-- The steps up to now end with the entry into the quick stop and the steps
since then. -/
structure Braking (axis : Axis) (steps past : List (SupervisorStep D))
    (enter : SupervisorStep D) (since : List (SupervisorStep D)) : Prop where
  split : steps = past ++ enter :: since
  enters : enter.Leaves axis
  braking : ∀ step ∈ since, phaseBefore axis step = .quickStop

/-- The most recent evaluations, as many as have to confirm standstill, all
come after the entry into the quick stop and found the axis at rest. -/
def StandstillObserved (options : SafetyOptions) (axis : Axis)
    (earlier : List (SupervisorStep D)) (stop : SupervisorStep D) : Prop :=
  ∃ past enter since, Braking axis earlier past enter since ∧
    ∃ older recent,
      axisVelocities axis (since ++ [stop]) = older ++ recent ∧
      recent.length = options.zeroVelocityConfirmationCycles.toNat ∧
      ∀ velocity ∈ recent, atRest options velocity = true

/-- Every step from quick stop to disabled has timed out or observed
standstill. -/
def StandstillConfirmed (options : SafetyOptions) (axis : Axis)
    (steps : List (SupervisorStep D)) : Prop :=
  ∀ earlier stop later, steps = earlier ++ stop :: later →
    SupervisorStep.ComesToRest axis stop →
    stop.StopTimedOut options axis ∨
      StandstillObserved options axis earlier stop

variable [FloatingPoint D]

/-- A fault reset is asked for while no axis of the safety group has a stop
reason of its own or is commanded to stop. -/
structure ResetUndisturbed (state : SafetySupervisor D) (bus : SafetyBusState)
    (view : Axis → Cia402PdoView) (nowNs : ℤ) (axis : Axis) : Prop where
  drive : Cia402StateMachine.decode (view axis).statusWord = .fault
  requested : state.requested axis = .faultReset
  group : ∀ peer : Axis, peer.val < state.axisCount →
    (state.configs axis).group = (state.configs peer).group →
    state.NoOwnReason bus (state.span view) nowNs peer ∧
      state.requested peer ≠ .quickStop

/-- A fault reset passes over the standstill count of a moving axis. -/
def SupervisorStep.MasksMotion (axis : Axis) (step : SupervisorStep D) :
    Prop :=
  ∃ bus view nowNs, step.input = .evaluate bus view nowNs ∧
    phaseBefore axis step = .quickStop ∧
    0 < (step.before.states axis).zeroVelocityCycles ∧
    ResetUndisturbed step.before bus view nowNs axis ∧
    atRest step.before.options (view axis).actualVelocity = false

theorem resetUndisturbed_of_not_trigger
    {state : SafetySupervisor D} {bus : SafetyBusState}
    {view : Axis → Cia402PdoView} {nowNs : ℤ} {axis : Axis}
    (haxis : axis.val < state.axisCount)
    (hquiet : (state.groupMarks bus (state.span view) nowNs).triggers axis =
      false)
    (hdrive : Cia402StateMachine.decode (view axis).statusWord = .fault)
    (hrequested : state.requested axis = .faultReset) :
    ResetUndisturbed state bus view nowNs axis := by
  refine ⟨hdrive, hrequested, ?_⟩
  intro peer hpeer hgroup
  obtain ⟨htrigger, _⟩ := peer_quiet_of_not_trigger haxis hquiet hpeer hgroup
  obtain ⟨hnotQuick, hreasons⟩ :=
    (state.assess_trigger bus _ nowNs peer).mp htrigger
  exact ⟨(state.assess_reasons_eq_zero_iff bus _ nowNs peer).mp hreasons,
    hnotQuick⟩

/-! ## The counter never runs ahead of the observations -/

/-- The counter of a quick stop is covered by observations at rest. -/
structure CountCovered (options : SafetyOptions) (axis : Axis)
    (steps : List (SupervisorStep D)) (latch : StopLatch) : Prop where
  unconfirmed : latch.zeroCycles < options.zeroVelocityConfirmationCycles
  covered : ∃ past enter since, Braking axis steps past enter since ∧
    latch.zeroCycles.toNat ≤
      streak (atRest options) (axisVelocities axis since)

omit [FloatingPoint D] in
theorem countedCycles_covered
    {options : SafetyOptions} {inputs : AxisInputs} {latch : StopLatch}
    (hbelow : latch.zeroCycles < options.zeroVelocityConfirmationCycles)
    {observed : List ℤ}
    (hcovered : latch.zeroCycles.toNat ≤ streak (atRest options) observed) :
    (latch.countedCycles options inputs).toNat ≤
      streak (atRest options) (observed ++ [inputs.actualVelocity]) := by
  rw [streak_append_singleton]
  unfold StopLatch.countedCycles
  by_cases hrest : |inputs.actualVelocity| ≤ options.zeroVelocityThresholdCounts
  · have hlt := UInt32.lt_iff_toNat_lt.mp hbelow
    have hbound := options.zeroVelocityConfirmationCycles.toNat_lt
    simp only [hrest, if_true, atRest, decide_true, UInt32.toNat_add,
      UInt32.toNat_one]
    omega
  · simp [hrest]

omit [FloatingPoint D] in
theorem Braking.append
    {axis : Axis} {steps past since : List (SupervisorStep D)}
    {enter step : SupervisorStep D}
    (hbraking : Braking axis steps past enter since)
    (hphase : phaseBefore axis step = .quickStop) :
    Braking axis (steps ++ [step]) past enter (since ++ [step]) := by
  refine ⟨?_, hbraking.enters, ?_⟩
  · simp [hbraking.split]
  · intro other hother
    rcases List.mem_append.mp hother with hold | hnew
    · exact hbraking.braking other hold
    · rw [List.mem_singleton] at hnew
      subst hnew
      exact hphase

omit [FloatingPoint D] in
theorem axisVelocities_evaluate
    {axis : Axis} {steps : List (SupervisorStep D)} {step : SupervisorStep D}
    {bus : SafetyBusState} {view : Axis → Cia402PdoView} {nowNs : ℤ}
    (hinput : step.input = .evaluate bus view nowNs) :
    axisVelocities axis (steps ++ [step]) =
      axisVelocities axis steps ++ [(view axis).actualVelocity] := by
  rw [axisVelocities_append, axisVelocities_singleton]
  simp [SupervisorStep.velocity?, hinput]

section Step

variable {options : SafetyOptions} {axis : Axis}
  {steps : List (SupervisorStep D)} {step : SupervisorStep D}
  (hoptions : step.before.options = options)
  (haxis : axis.val < step.before.axisCount)
  (hlatch : LatchStep axis step)

include hoptions haxis hlatch

theorem CountCovered.append
    (hcount : CountCovered options axis steps
      (step.before.states axis).stopLatch)
    (hphase : phaseBefore axis step = .quickStop)
    (hnext : phaseAfter axis step = .quickStop)
    (hclear : ¬ step.MasksMotion axis) :
    CountCovered options axis (steps ++ [step])
      (step.after.states axis).stopLatch := by
  obtain ⟨hbelow, past, enter, since, hbraking, hcovered⟩ := hcount
  have hstill := hbraking.append hphase
  cases hlatch with
  | silent _ hvelocity hsame =>
      rw [hsame]
      refine ⟨hbelow, past, enter, since ++ [step], hstill, ?_⟩
      rw [axisVelocities_append, axisVelocities_singleton, hvelocity]
      simpa using hcovered
  | evaluation bus view nowNs request hinput _ _ hstep =>
      rw [hoptions] at hstep
      rcases hstep.of_quickStop hphase with
        ⟨htrigger, hdrive, hrequested, hsame, _⟩ | ⟨hcycles, _, hsame, _⟩ |
        ⟨_, hsame, _⟩
      · rw [hsame]
        refine ⟨hbelow, past, enter, since ++ [step], hstill, ?_⟩
        rw [axisVelocities_evaluate hinput, streak_append_singleton]
        by_cases hrest : atRest options (view axis).actualVelocity = true
        · rw [if_pos hrest]
          omega
        · rw [if_neg hrest]
          by_contra hcounted
          apply hclear
          refine ⟨bus, view, nowNs, hinput, hphase, ?_, ?_, ?_⟩
          · rw [UInt32.lt_iff_toNat_lt, UInt32.toNat_zero]
            exact not_le.mp hcounted
          · exact resetUndisturbed_of_not_trigger haxis htrigger hdrive
              hrequested
          · rw [hoptions]
            exact Bool.not_eq_true _ ▸ hrest
      · rw [hsame]
        refine ⟨hcycles, past, enter, since ++ [step], hstill, ?_⟩
        rw [axisVelocities_evaluate hinput]
        exact countedCycles_covered hbelow hcovered
      · have hdisabled : phaseAfter axis step = .disabled :=
          congrArg StopLatch.phase hsame
        rw [hdisabled] at hnext
        contradiction

omit haxis in
/-- Coming to rest has timed out, or the confirming evaluations were all at
rest. -/
theorem CountCovered.comesToRest
    (hcount : CountCovered options axis steps
      (step.before.states axis).stopLatch)
    (hrest : step.ComesToRest axis) :
    step.StopTimedOut options axis ∨
      StandstillObserved options axis steps step := by
  obtain ⟨hbelow, past, enter, since, hbraking, hcovered⟩ := hcount
  cases hlatch with
  | silent _ _ hsame =>
      have hphase : phaseAfter axis step = phaseBefore axis step :=
        congrArg StopLatch.phase hsame
      rw [hrest.1, hrest.2] at hphase
      contradiction
  | evaluation bus view nowNs request hinput _ _ hstep =>
      rw [hoptions] at hstep
      rcases hstep.of_quickStop hrest.1 with
        ⟨_, _, _, hsame, _⟩ | ⟨_, _, hsame, _⟩ | ⟨hconfirmed, _, _⟩
      · have hphase : phaseAfter axis step = phaseBefore axis step :=
          congrArg StopLatch.phase hsame
        rw [hrest.1, hrest.2] at hphase
        contradiction
      · have hphase : phaseAfter axis step = phaseBefore axis step :=
          congrArg StopLatch.phase hsame
        rw [hrest.1, hrest.2] at hphase
        contradiction
      · rcases hconfirmed with hcycles | htimed
        · right
          refine ⟨past, enter, since, hbraking, ?_⟩
          rw [axisVelocities_evaluate hinput]
          apply exists_good_suffix_of_le_streak
          exact (UInt32.le_iff_toNat_le.mp hcycles).trans
            (countedCycles_covered hbelow hcovered)
        · left
          exact ⟨bus, view, nowNs, hinput, htimed.2⟩

omit hoptions haxis in
/-- A quick stop is entered with an empty count, only from running. -/
theorem CountCovered.entered
    (hpositive : 0 < options.zeroVelocityConfirmationCycles)
    (hphase : phaseBefore axis step ≠ .quickStop)
    (hnext : phaseAfter axis step = .quickStop) :
    CountCovered options axis (steps ++ [step])
      (step.after.states axis).stopLatch := by
  cases hlatch with
  | silent _ _ hsame =>
      have hsamePhase : phaseAfter axis step = phaseBefore axis step :=
        congrArg StopLatch.phase hsame
      rw [hnext] at hsamePhase
      exact absurd hsamePhase.symm hphase
  | evaluation bus view nowNs request _ _ _ hstep =>
      by_cases hrunning : phaseBefore axis step = .running
      · have hleaves : step.Leaves axis := by
          refine ⟨hrunning, ?_⟩
          rw [hnext]
          simp
        obtain ⟨_, _, hentered⟩ := hstep.of_leaves hleaves.1 hleaves.2
        rw [hentered]
        exact ⟨hpositive, steps, step, [], ⟨rfl, hleaves, by simp⟩, by simp⟩
      · exfalso
        have hafter : (step.after.states axis).stopLatch.phase =
          .quickStop := hnext
        obtain ⟨_, hmove⟩ := hstep.of_stopped hrunning
        rcases hmove with ⟨henable, _⟩ | ⟨_, hquick, _⟩ | ⟨_, _, hdisabled⟩ |
          ⟨_, hquick, _⟩
        · rw [henable] at hstep
          rw [hstep.running_of_enable] at hafter
          contradiction
        · exact hphase hquick
        · rw [hdisabled] at hafter
          contradiction
        · exact hphase hquick

end Step

/-! ## Runs -/

theorem SupervisorSetup.countCovered
    (setup : SupervisorSetup D) {axis : Axis}
    (haxis : axis.val < setup.axes.length) (calls : List (SupervisorCall D))
    (hclear : ∀ step ∈ setup.run calls, ¬ SupervisorStep.MasksMotion axis step)
    (hphase : ((setup.after calls).states axis).phase = .quickStop) :
    CountCovered setup.options axis (setup.run calls)
      ((setup.after calls).states axis).stopLatch := by
  have hgood : Configured setup (setup.after calls) ∧
      ((∀ step ∈ setup.run calls, ¬ SupervisorStep.MasksMotion axis step) →
        ((setup.after calls).states axis).phase = .quickStop →
        CountCovered setup.options axis (setup.run calls)
          ((setup.after calls).states axis).stopLatch) := by
    refine Machine.history_final
      (fun steps state => Configured setup state ∧
        ((∀ step ∈ steps, ¬ SupervisorStep.MasksMotion axis step) →
          (state.states axis).phase = .quickStop →
          CountCovered setup.options axis steps
            (state.states axis).stopLatch))
      ⟨setup.configured_after [], ?_⟩ ?_ calls
    · intro _ hquick
      change (setup.supervisor.states axis).phase = .quickStop at hquick
      rw [setup.supervisor_states] at hquick
      contradiction
    · rintro steps state call ⟨hstate, hcovered⟩
      refine ⟨hstate.step call, ?_⟩
      intro hquiet hnext
      have hlatch := hstate.latchStep haxis call
      by_cases hquick : (state.states axis).phase = .quickStop
      · have hbefore := hcovered
          (fun step hstep => hquiet step (List.mem_append_left _ hstep)) hquick
        exact hbefore.append hstate.options (hstate.axisCount ▸ haxis) hlatch
          hquick hnext (hquiet _ (by simp))
      · exact CountCovered.entered hlatch setup.confirmationCycles_pos hquick
          hnext
  exact hgood.2 hclear hphase

/-- Without reset cycles which hide a moving axis, standstill is confirmed by
the observed velocities in every run. -/
theorem standstill_confirmed
    (setup : SupervisorSetup D) (calls : List (SupervisorCall D))
    (axis : Axis) (haxis : axis.val < setup.axes.length)
    (hclear : ∀ step ∈ setup.run calls,
      ¬ SupervisorStep.MasksMotion axis step) :
    StandstillConfirmed setup.options axis (setup.run calls) := by
  intro earlier stop later hsplit hrest
  obtain ⟨before, call, after, _, hbefore, hfire, _⟩ :=
    Machine.trace_split hsplit
  change earlier = setup.run before at hbefore
  change stop = supervisorMachine.fire (setup.after before) call at hfire
  have hconfigured := setup.configured_after before
  have hcovered : CountCovered setup.options axis earlier
      (stop.before.states axis).stopLatch := by
    rw [hbefore, hfire]
    apply setup.countCovered haxis before
    · intro step hstep
      apply hclear step
      rw [hsplit, hbefore]
      exact List.mem_append_left _ hstep
    · have hphase := hrest.1
      rw [hfire] at hphase
      exact hphase
  apply hcovered.comesToRest ?_ ?_ hrest
  · rw [hfire]
    exact hconfigured.options
  · rw [hfire]
    exact hconfigured.latchStep haxis call

/-- An arm which confirms standstill over two cycles. -/
def twoCycleArm : SupervisorSetup ℚ where
  options := { zeroVelocityConfirmationCycles := 2 }
  axes := [armAxis ""]
  accepted := by decide +kernel

/-- A drive fault stops the arm; its reset is sent while the arm moves with the
given velocity and its standstill count stands at one. -/
def armResets (velocity : ℤ) : List (SupervisorCall ℚ) := [
  .acceptCommands (armCommand 1 10 kAxisCommandEnable) 10,
  .evaluate healthyBus (armView 0x0008 0) 20,
  .evaluate healthyBus (armView 0x0008 0) 30,
  .acceptCommands (armCommand 2 40 kAxisCommandFaultReset) 40,
  .evaluate healthyBus (armView 0x0008 velocity) 50]

def armSettles : SupervisorCall ℚ :=
  .evaluate healthyBus (armView 0x0040 0) 60

theorem standstill_confirmed_twoCycleArm :
    StandstillConfirmed twoCycleArm.options 0
        (twoCycleArm.run (armResets 0 ++ [armSettles])) ∧
      SupervisorStep.ComesToRest 0 (supervisorMachine.fire
        (twoCycleArm.after (armResets 0)) armSettles) := by
  refine ⟨standstill_confirmed twoCycleArm (armResets 0 ++ [armSettles]) 0
    (by decide) ?_, by decide +kernel⟩
  rintro step hstep ⟨bus, view, nowNs, hinput, _, _, _, hmoving⟩
  have hall : ∀ step ∈ twoCycleArm.run (armResets 0 ++ [armSettles]),
      ∀ velocity ∈ SupervisorStep.velocity? 0 step,
        atRest step.before.options velocity = true := by
    decide +kernel
  have hrest := hall step hstep (view 0).actualVelocity
    (by simp [SupervisorStep.velocity?, hinput])
  rw [hmoving] at hrest
  contradiction

/-- The reset cycle hides that the arm still moves in the window. -/
theorem reset_hides_motion :
    ¬ StandstillConfirmed twoCycleArm.options 0
      (twoCycleArm.run (armResets 100 ++ [armSettles])) := by
  intro hclaim
  have hrest : SupervisorStep.ComesToRest 0 (supervisorMachine.fire
      (twoCycleArm.after (armResets 100)) armSettles) := by
    decide +kernel
  have hobserved : axisVelocities 0 (twoCycleArm.run (armResets 100) ++
      [supervisorMachine.fire (twoCycleArm.after (armResets 100))
        armSettles]) = [0, 0] ++ [100, 0] := by
    decide +kernel
  rcases hclaim (twoCycleArm.run (armResets 100))
    (supervisorMachine.fire (twoCycleArm.after (armResets 100)) armSettles)
    [] rfl hrest with
    ⟨bus, view, nowNs, hinput, htimed⟩ |
    ⟨past, enter, since, hbraking, older, recent, hrecent, hlength, hall⟩
  · simp only [Machine.fire_input, armSettles,
      SupervisorCall.evaluate.injEq] at hinput
    obtain ⟨_, _, rfl⟩ := hinput
    revert htimed
    decide +kernel
  · rw [hbraking.split, List.append_cons past, List.append_assoc,
      axisVelocities_append, hrecent, ← List.append_assoc] at hobserved
    have hwindow : recent = [100, 0] :=
      List.append_inj_right' hobserved (by rw [hlength]; rfl)
    have hmoving := hall 100 (by simp [hwindow])
    revert hmoving
    decide +kernel

end PolicyRuntime
