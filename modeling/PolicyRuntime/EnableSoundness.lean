import PolicyRuntime.SupervisorRuns
import PolicyRuntime.Sequences

/-!
# Enable soundness

An enable output is traced back to its causes.  The history invariant ties the
stored command, the working counter and the shutdown flag to the calls made so
far; an enable output is then a step of the stop machine without a trigger,
which leaves no stop reason anywhere in the safety group.
-/

namespace PolicyRuntime

open SafetySupervisor

variable {D : Type}

/-- The answer of a step which stored or refused a snapshot. -/
def SupervisorStep.verdict? (step : SupervisorStep D) :
    Option (Snapshot (AxisCommand D) × CommandAcceptance) :=
  match step.input, step.output with
  | .acceptCommands snapshot _, .acceptance answer =>
      if answer = .duplicate then none else some (snapshot, answer)
  | _, _ => none

/-- The last `acceptCommands` call which was not a duplicate. -/
def lastVerdict (steps : List (SupervisorStep D)) :
    Option (Snapshot (AxisCommand D) × CommandAcceptance) :=
  (steps.filterMap SupervisorStep.verdict?).getLast?

def SupervisorStep.bus? (step : SupervisorStep D) : Option SafetyBusState :=
  match step.input with
  | .evaluate bus _ _ => some bus
  | _ => none

/-- Consecutive evaluations with a bad working counter, up to now. -/
def badCounterStreak (steps : List (SupervisorStep D)) : ℕ :=
  streak counterBad (steps.filterMap SupervisorStep.bus?)

def SupervisorStep.IsShutdown (step : SupervisorStep D) : Prop :=
  ∃ nowNs, step.input = .requestShutdown nowNs

theorem lastVerdict_append
    (steps : List (SupervisorStep D)) (step : SupervisorStep D) :
    lastVerdict (steps ++ [step]) = step.verdict?.or (lastVerdict steps) := by
  unfold lastVerdict
  rw [List.filterMap_append, List.getLast?_append]
  cases hverdict : step.verdict? <;> simp [hverdict]

theorem badCounterStreak_append
    (steps : List (SupervisorStep D)) (step : SupervisorStep D) :
    badCounterStreak (steps ++ [step]) =
      match step.bus? with
      | none => badCounterStreak steps
      | some bus => if counterBad bus then badCounterStreak steps + 1 else 0 := by
  unfold badCounterStreak
  rw [List.filterMap_append]
  cases hbus : step.bus? with
  | none => simp [hbus]
  | some bus => simp [hbus, streak_append_singleton]

variable [FloatingPoint D]

/-- The supervisor stores the commands of a snapshot it found valid. -/
structure SafetySupervisor.Holds (supervisor : SafetySupervisor D)
    (snapshot : Snapshot (AxisCommand D)) : Prop where
  hasCommand : supervisor.hasCommand = true
  sequence : supervisor.lastCommandSequence = snapshot.sequence
  timestamp : supervisor.lastCommandTimestampNs = snapshot.timestampNs
  commands : ∀ axis : Axis, axis.val < supervisor.axisCount →
    supervisor.commands axis = snapshot.axes axis
  valid : ∀ axis : Axis, axis.val < supervisor.axisCount →
    validCommand snapshot (snapshot.axes axis) = true

/-- What the calls made so far say about the state. -/
structure HistoryInvariant (setup : SupervisorSetup D)
    (steps : List (SupervisorStep D)) (state : SafetySupervisor D) : Prop where
  setup : SameSetup setup.supervisor state
  verdict : state.commandsValid = true →
    ∃ snapshot, lastVerdict steps = some (snapshot, .accepted) ∧
      state.Holds snapshot
  counter : state.consecutiveWkcFailures.toNat =
    min (badCounterStreak steps) 4294967295
  shutdown : state.shutdownRequested = true ↔
    ∃ step ∈ steps, step.IsShutdown

theorem SafetySupervisor.SameCommands.holds
    {supervisor next : SafetySupervisor D}
    {snapshot : Snapshot (AxisCommand D)}
    (hsame : supervisor.SameCommands next) (hholds : supervisor.Holds snapshot) :
    next.Holds snapshot := by
  constructor
  · rw [hsame.hasCommand, hholds.hasCommand]
  · rw [hsame.lastCommandSequence, hholds.sequence]
  · rw [hsame.lastCommandTimestampNs, hholds.timestamp]
  · rw [hsame.axisCount, hsame.commands]
    exact hholds.commands
  · rw [hsame.axisCount]
    exact hholds.valid

theorem SafetySupervisor.storeCommands_holds
    {supervisor : SafetySupervisor D} {snapshot : Snapshot (AxisCommand D)}
    {nowNs : ℤ}
    (hvalid : supervisor.validSnapshot snapshot nowNs = true) :
    (supervisor.storeCommands snapshot).Holds snapshot := by
  have hall : ∀ axis ∈ supervisor.axes,
      validCommand snapshot (snapshot.axes axis) = true := by
    unfold validSnapshot at hvalid
    split at hvalid
    · contradiction
    · exact List.all_eq_true.mp hvalid
  constructor
  · rfl
  · rfl
  · rfl
  · intro axis haxis
    have hin : axis.val < supervisor.axisCount := haxis
    simp [storeCommands, hin]
  · intro axis haxis
    exact hall axis ((supervisor.mem_axes axis).mpr haxis)

theorem countWkcFailures_toNat
    (failures : UInt32) (bus : SafetyBusState) {n : ℕ}
    (hfailures : failures.toNat = min n 4294967295) :
    (countWkcFailures failures bus).toNat =
      min (if counterBad bus then n + 1 else 0) 4294967295 := by
  unfold countWkcFailures
  by_cases hbad : counterBad bus = true
  · simp only [hbad, if_true]
    split
    · rename_i hlt
      have hbound : failures.toNat < 4294967295 :=
        UInt32.lt_iff_toNat_lt.mp hlt
      rw [UInt32.toNat_add, UInt32.toNat_one]
      omega
    · rename_i hnot
      have hbound : ¬ failures.toNat < 4294967295 := fun h =>
        hnot (UInt32.lt_iff_toNat_lt.mpr h)
      omega
  · simp [hbad]

theorem HistoryInvariant.initial (setup : SupervisorSetup D) :
    HistoryInvariant setup [] setup.supervisor := by
  obtain ⟨configs, lastRequests, hframe⟩ := setup.supervisor_frame
  constructor
  · exact SameSetup.refl _
  · intro hvalid
    rw [hframe] at hvalid
    simp [create] at hvalid
  · rw [hframe]
    simp [create, badCounterStreak]
  · rw [hframe]
    simp [create]

section Step

variable {setup : SupervisorSetup D} {steps : List (SupervisorStep D)}
  {state : SafetySupervisor D}

theorem HistoryInvariant.afterAccept
    (hgood : HistoryInvariant setup steps state)
    (snapshot : Snapshot (AxisCommand D)) (nowNs : ℤ) :
    HistoryInvariant setup
      (steps ++ [supervisorMachine.fire state (.acceptCommands snapshot nowNs)])
      (state.acceptCommands snapshot nowNs).1 := by
  have hprogress := acceptCommands_sameProgress state snapshot nowNs
  constructor
  · exact hgood.setup.trans
      (step_sameSetup state (.acceptCommands snapshot nowNs))
  · rw [lastVerdict_append]
    rcases acceptCommands_cases state snapshot nowNs with
      hcase | ⟨hcase, _, _⟩ | ⟨hcase, hvalid, _⟩
    · simp [hcase]
    · simpa [SupervisorStep.verdict?, supervisorMachine, hcase] using
        hgood.verdict
    · intro _
      refine ⟨snapshot, ?_, ?_⟩
      · simp [SupervisorStep.verdict?, supervisorMachine, hcase]
      · rw [hcase]
        exact storeCommands_holds hvalid
  · rw [hprogress.counter, badCounterStreak_append]
    exact hgood.counter
  · rw [hprogress.shutdown]
    simpa [SupervisorStep.IsShutdown] using hgood.shutdown

theorem HistoryInvariant.afterShutdown
    (hgood : HistoryInvariant setup steps state) (nowNs : ℤ) :
    HistoryInvariant setup
      (steps ++ [supervisorMachine.fire state (.requestShutdown nowNs)])
      (state.requestShutdown nowNs) := by
  constructor
  · exact hgood.setup.trans (step_sameSetup state (.requestShutdown nowNs))
  · intro hvalid
    obtain ⟨snapshot, hverdict, hholds⟩ := hgood.verdict hvalid
    refine ⟨snapshot, ?_, ⟨hholds.hasCommand, hholds.sequence,
      hholds.timestamp, hholds.commands, hholds.valid⟩⟩
    rw [lastVerdict_append]
    simpa [SupervisorStep.verdict?, supervisorMachine] using hverdict
  · rw [badCounterStreak_append]
    exact hgood.counter
  · constructor
    · intro _
      exact ⟨_, List.mem_append_right _ (List.mem_singleton_self _),
        nowNs, rfl⟩
    · intro _
      rfl

theorem HistoryInvariant.afterEvaluate
    (hgood : HistoryInvariant setup steps state)
    (bus : SafetyBusState) (view : Axis → Cia402PdoView) (nowNs : ℤ) :
    HistoryInvariant setup
      (steps ++ [supervisorMachine.fire state (.evaluate bus view nowNs)])
      (state.evaluate bus (state.span view) nowNs).1 := by
  have hsame := state.evaluate_sameCommands bus (state.span view) nowNs
  have hconfigured : state.configured = true := by
    rw [hgood.setup.configured]
    exact setup.configured
  constructor
  · exact hgood.setup.trans (step_sameSetup state (.evaluate bus view nowNs))
  · intro hvalid
    rw [hsame.commandsValid] at hvalid
    obtain ⟨snapshot, hverdict, hholds⟩ := hgood.verdict hvalid
    refine ⟨snapshot, ?_, hsame.holds hholds⟩
    rw [lastVerdict_append]
    simpa [SupervisorStep.verdict?, supervisorMachine] using hverdict
  · rw [evaluate_wkcFailures hconfigured rfl, badCounterStreak_append]
    exact countWkcFailures_toNat state.consecutiveWkcFailures bus hgood.counter
  · rw [evaluate_shutdownRequested]
    simpa [SupervisorStep.IsShutdown] using hgood.shutdown

end Step

theorem SupervisorSetup.historyInvariant
    (setup : SupervisorSetup D) (calls : List (SupervisorCall D)) :
    HistoryInvariant setup (setup.run calls) (setup.after calls) := by
  refine Machine.history_final (HistoryInvariant setup)
    (HistoryInvariant.initial setup) ?_ calls
  intro steps state call hgood
  cases call with
  | acceptCommands snapshot nowNs => exact hgood.afterAccept snapshot nowNs
  | requestShutdown nowNs => exact hgood.afterShutdown nowNs
  | evaluate bus view nowNs => exact hgood.afterEvaluate bus view nowNs

/-! ## Enable outputs -/

/-- Everything an enable output for `axis` rests on.  `snapshot` is the last
command that was stored or refused, `result` the evaluation with the output. -/
structure EnableJustified (setup : SupervisorSetup D)
    (calls : List (SupervisorCall D)) (bus : SafetyBusState)
    (view : Axis → Cia402PdoView) (nowNs : ℤ) (axis : Axis)
    (source : AxisConfig D) (snapshot : Snapshot (AxisCommand D))
    (result : SafetyEvaluation D) : Prop where
  accepted : lastVerdict (setup.run calls) = some (snapshot, .accepted)
  enableFlag : (snapshot.axes axis).flags = kAxisCommandEnable
  notFuture : 0 ≤ nowNs - snapshot.timestampNs
  notExpired : nowNs - snapshot.timestampNs ≤ source.commandTimeout * 1000000
  linkUp : bus.linkUp = true
  workingCounter :
    badCounterStreak (setup.run (calls ++ [.evaluate bus view nowNs])) <
      setup.options.consecutiveWkcLimit.toNat
  processData : bus.processDataValid = true ∨ counterBad bus = true
  operational : bus.allSlavesOperational = true ∨
    bus.operationalAxesMask &&& (1#16 <<< axis.val) ≠ 0
  mode : (view axis).modeDisplay = source.mode.value
  following : (evaluateTarget ((setup.after calls).configs axis)
    ((setup.after calls).states axis) ((setup.after calls).commands axis)
    (view axis)).1.followingError = false
  notFault : Cia402StateMachine.decode (view axis).statusWord ≠ .fault
  notFaultReaction :
    Cia402StateMachine.decode (view axis).statusWord ≠ .faultReactionActive
  notShutdown : ∀ step ∈ setup.run calls, ¬ step.IsShutdown
  notExternal : bus.externalStopAxesMask &&& (1#16 <<< axis.val) = 0
  noReason : result.feedbackFlags axis = 0
  group : ∀ peer : Axis, peer.val < setup.axes.length →
    setup.SameSafetyGroup axis peer →
    result.feedbackFlags peer = 0 ∧
      requestFromFlags (snapshot.axes peer).flags ≠ .quickStop ∧
      ¬ (Cia402StateMachine.decode (view peer).statusWord = .fault ∧
        requestFromFlags (snapshot.axes peer).flags = .faultReset)

theorem StopStep.of_enable
    {options : SafetyOptions} {inputs : AxisInputs} {latch next : StopLatch}
    (hstep : StopStep options inputs latch next .enable) :
    inputs.trigger = false ∧ inputs.requested = .enable := by
  cases hstep with
  | enter _ _ _ hrequest => contradiction
  | reset _ _ _ _ hrequest => contradiction
  | brake _ _ _ _ hrequest => contradiction
  | standstill _ _ _ hrequest => contradiction
  | hold _ _ hrequest => contradiction
  | rearm htrigger _ _ _ hrequested _ _ => exact ⟨htrigger, hrequested⟩
  | pass htrigger _ _ hrequest =>
      rcases hrequest with ⟨_, hrequested⟩ | hrequest
      · exact ⟨htrigger, hrequested⟩
      · contradiction

/-- An enable output leaves no stop reason in the whole safety group. -/
theorem group_quiet_of_enable
    {state : SafetySupervisor D} (hconfigured : state.configured = true)
    {bus : SafetyBusState} {view : Axis → Cia402PdoView} {nowNs : ℤ}
    {axis : Axis} (haxis : axis.val < state.axisCount)
    (henable : (state.evaluate bus (state.span view) nowNs).2.requests axis =
      .enable) :
    state.requested axis = .enable ∧
      ∀ peer : Axis, peer.val < state.axisCount →
        (state.configs axis).group = (state.configs peer).group →
        state.NoOwnReason bus (state.span view) nowNs peer ∧
          (state.evaluate bus (state.span view) nowNs).2.feedbackFlags peer =
            0 ∧
          state.requested peer ≠ .quickStop ∧
          ¬ (Cia402StateMachine.decode (view peer).statusWord = .fault ∧
            state.requested peer = .faultReset) := by
  have hsize : (state.span view).size = state.axisCount := rfl
  have hstep := evaluate_stopStep hconfigured hsize bus nowNs haxis
  rw [henable] at hstep
  obtain ⟨hquiet, hrequested⟩ := hstep.of_enable
  have hrequest : state.requested axis = .enable := hrequested
  have hnotCandidate : (state.assess bus (state.span view) nowNs
      axis).faultResetCandidate = false := by
    by_contra hcandidate
    rw [Bool.not_eq_false] at hcandidate
    have hreset := ((state.assess_faultResetCandidate bus _ nowNs axis).mp
      hcandidate).2.1
    rw [hrequest] at hreset
    contradiction
  have hpeers : ∀ peer : Axis, peer.val < state.axisCount →
      (state.configs peer).group = (state.configs axis).group →
      (state.assess bus (state.span view) nowNs peer).trigger = false ∧
        (state.assess bus (state.span view) nowNs peer).faultResetCandidate =
          false := by
    intro peer hpeer hgroup
    obtain ⟨htrigger, hcandidate⟩ :=
      peer_quiet_of_not_trigger haxis hquiet hpeer hgroup.symm
    refine ⟨htrigger, ?_⟩
    by_contra hnot
    rw [Bool.not_eq_false] at hnot
    rw [hcandidate hnot] at hnotCandidate
    contradiction
  refine ⟨hrequest, ?_⟩
  intro peer hpeer hgroup
  obtain ⟨htrigger, hcandidate⟩ := hpeers peer hpeer hgroup.symm
  obtain ⟨hnotQuick, hreasons⟩ :=
    (state.assess_trigger bus _ nowNs peer).mp htrigger
  refine ⟨(state.assess_reasons_eq_zero_iff bus _ nowNs peer).mp hreasons,
    ?_, hnotQuick, ?_⟩
  · rw [evaluate_feedbackFlags hconfigured hsize bus nowNs hpeer]
    apply groupMarks_reasons_of_quiet_group hpeer
    intro other hother hsame
    exact hpeers other hother (hsame.trans hgroup.symm)
  · rintro ⟨hdrive, hreset⟩
    have hcandidateTrue :=
      (state.assess_faultResetCandidate bus (state.span view) nowNs peer).mpr
        ⟨hdrive, hreset, hreasons⟩
    rw [hcandidateTrue] at hcandidate
    contradiction

theorem SafetySupervisor.Holds.requested
    {state : SafetySupervisor D} {snapshot : Snapshot (AxisCommand D)}
    (hholds : state.Holds snapshot) {axis : Axis}
    (haxis : axis.val < state.axisCount) :
    state.requested axis = requestFromFlags (snapshot.axes axis).flags := by
  simp [SafetySupervisor.requested, hholds.hasCommand,
    hholds.commands axis haxis]

/-- A stored command which requests an enable carries exactly that flag. -/
theorem SafetySupervisor.Holds.enableFlag
    {state : SafetySupervisor D} {snapshot : Snapshot (AxisCommand D)}
    (hholds : state.Holds snapshot) {axis : Axis}
    (haxis : axis.val < state.axisCount)
    (hrequest : state.requested axis = .enable) :
    (snapshot.axes axis).flags = kAxisCommandEnable := by
  have hvalid := hholds.valid axis haxis
  simp only [validCommand, Bool.not_eq_true', Bool.or_eq_false_iff,
    bne_eq_false_iff_eq, decide_eq_false_iff_not, not_lt] at hvalid
  rw [hholds.requested haxis] at hrequest
  exact eq_enable_of_requestFromFlags hvalid.1.2 hvalid.2 hrequest

theorem SupervisorSetup.config_of_axis
    (setup : SupervisorSetup D) (calls : List (SupervisorCall D))
    {axis : Axis} {source : AxisConfig D}
    (hsource : setup.axes[axis.val]? = some source) :
    axis.val < (setup.after calls).axisCount ∧
      ∃ group, (setup.after calls).configs axis =
        axisSafetyConfig source group := by
  have hsetup := (setup.historyInvariant calls).setup
  obtain ⟨hlt, _⟩ := List.getElem?_eq_some_iff.mp hsource
  obtain ⟨entries, _, _, hconfigured⟩ := setup.exists_entries
  refine ⟨?_, ?_⟩
  · rw [hsetup.axisCount, setup.axisCount]
    exact hlt
  · have hentry := List.getElem?_eq_getElem
      (show axis.val < entries.length from hconfigured.length_eq ▸ hlt)
    rw [hsetup.configs]
    exact ⟨_, hconfigured.configs axis source _ hsource hentry⟩

/-- If an evaluation outputs an enable for an axis, then all its conditions
hold in that same call, over every history of calls. -/
theorem enable_sound
    (setup : SupervisorSetup D) (calls : List (SupervisorCall D))
    (bus : SafetyBusState) (view : Axis → Cia402PdoView) (nowNs : ℤ)
    (axis : Axis) (source : AxisConfig D)
    (hsource : setup.axes[axis.val]? = some source)
    (henable : ((setup.after calls).evaluate bus
      ((setup.after calls).span view) nowNs).2.requests axis = .enable) :
    ∃ snapshot, EnableJustified setup calls bus view nowNs axis source snapshot
      ((setup.after calls).evaluate bus
        ((setup.after calls).span view) nowNs).2 := by
  have hhistory := setup.historyInvariant calls
  have hsetup := hhistory.setup
  obtain ⟨haxis, number, hconfig⟩ := setup.config_of_axis calls hsource
  have hconfigured : (setup.after calls).configured = true := by
    rw [hsetup.configured]
    exact setup.configured
  have hcount : (setup.after calls).axisCount = setup.axes.length := by
    rw [hsetup.axisCount]
    exact setup.axisCount
  obtain ⟨hrequest, hgroup⟩ := group_quiet_of_enable hconfigured haxis henable
  obtain ⟨hown, hfeedback, _, hnotReset⟩ := hgroup axis haxis rfl
  obtain ⟨snapshot, hverdict, hholds⟩ := hhistory.verdict hown.commandsValid
  have htimely := hown.timely
  simp only [commandTimedOut, hholds.hasCommand, hholds.timestamp, hconfig,
    axisSafetyConfig, Bool.not_true, Bool.false_or, Bool.or_eq_false_iff,
    decide_eq_false_iff_not, not_lt] at htimely
  have hdrive : driveFault
      (Cia402StateMachine.decode (view axis).statusWord) = false := by
    by_contra hfault
    rw [Bool.not_eq_false] at hfault
    have hreset := (hown.drive hfault).2.1
    rw [hrequest] at hreset
    contradiction
  simp only [driveFault, Bool.or_eq_false_iff, beq_eq_false_iff_ne] at hdrive
  refine ⟨snapshot, ?_⟩
  constructor
  · exact hverdict
  · exact hholds.enableFlag haxis hrequest
  · omega
  · exact htimely.2
  · exact hown.linkUp
  · have hnext := (hhistory.afterEvaluate bus view nowNs).counter
    have hlimit := UInt32.lt_iff_toNat_lt.mp hown.wkc
    have hbound := (setup.after calls).options.consecutiveWkcLimit.toNat_lt
    rw [evaluate_wkcFailures hconfigured rfl] at hnext
    rw [setup.run_concat, ← setup.supervisor_options, ← hsetup.options]
    omega
  · have hdata := hown.processData
    simp only [invalidProcessData, hown.linkUp, Bool.and_true,
      Bool.and_eq_false_iff, Bool.not_eq_false'] at hdata
    exact hdata
  · have hoperational := hown.operational
    simp only [axisOperational, Bool.or_eq_true, Bool.and_eq_true,
      bne_iff_ne] at hoperational
    exact hoperational.imp id (fun h => h.2)
  · rw [← show ((setup.after calls).configs axis).mode = source.mode by
      rw [hconfig]; rfl]
    exact hown.mode
  · exact hown.following
  · exact hdrive.1
  · exact hdrive.2
  · intro step hstep hshutdown
    have hrequested := hhistory.shutdown.mpr ⟨step, hstep, hshutdown⟩
    rw [hown.running] at hrequested
    contradiction
  · simpa [externalStop] using hown.notExternal
  · exact hfeedback
  · intro peer hpeer hsame
    have hin : peer.val < (setup.after calls).axisCount := by
      rw [hcount]
      exact hpeer
    have hnumber : ((setup.after calls).configs axis).group =
        ((setup.after calls).configs peer).group := by
      rw [hsetup.configs]
      exact (setup.group_eq_iff (hcount ▸ haxis) hpeer).mpr hsame
    obtain ⟨_, hflags, hnotQuick, hnotFault⟩ := hgroup peer hin hnumber
    rw [hholds.requested hin] at hnotQuick hnotFault
    exact ⟨hflags, hnotQuick, hnotFault⟩

theorem enable_sound_singleAxisArm :
    let calls := [.acceptCommands (armCommand 1 10 kAxisCommandEnable) 20]
    let state := singleAxisArm.after calls
    ∃ snapshot, EnableJustified singleAxisArm calls healthyBus
      (armView 0x0027 0) 30 0 (armAxis "") snapshot
      (state.evaluate healthyBus (state.span (armView 0x0027 0)) 30).2 :=
  enable_sound singleAxisArm _ healthyBus _ 30 0 (armAxis "") rfl
    (by decide +kernel)

end PolicyRuntime
